import EditorBundles.Proofs.FileSystem.Lookup

/-!
# Writing one file

Two file systems can differ in the file at one place alone, and in the times of directories: so it is when a
file has been replaced. Every path to another place then leads to the same place, and to the same file if there
is one.
-/

namespace EditorBundles
set_option autoImplicit false

/-- Where a part of a path leads. -/
def Path.step (place : Place) (part : String) : Place := if part = ".." then place.dropLast else place ++ [part]

/-- A node without its time, if it is a directory. -/
def FileNode.timeless : FileNode → FileNode
  | .directory mode _ => .directory mode 0
  | node => node

namespace FileSystem

/-- The nodes at other places than one, directories without their times. -/
def elsewhere (fs : FileSystem) (here : Place) : List (Place × FileNode) :=
  (fs.nodes.filter fun entry => entry.1 ≠ here).map fun entry => (entry.1, entry.2.timeless)

/-- Two file systems that differ at most in the file at one place and in the times of directories. -/
structure DifferAt (here : Place) (fs fs' : FileSystem) : Prop where
  elsewhere : fs.elsewhere here = fs'.elsewhere here
  file : ∀ node, (here, node) ∈ fs.nodes → node.isDirectory = false
  file' : ∀ node, (here, node) ∈ fs'.nodes → node.isDirectory = false

variable {fs fs' : FileSystem} {here place : Place} {node : FileNode} {path : String}

theorem mem_of_node? (found : fs.node? place = some node) : (place, node) ∈ fs.nodes :=
  Entries.mem_of_get? found

/-- What is elsewhere is read there. -/
theorem get?_elsewhere (fs : FileSystem) (different : place ≠ here) :
    Entries.get? (fs.elsewhere here) place = (fs.node? place).map FileNode.timeless := by
  rw [elsewhere, node?]
  induction fs.nodes with
  | nil => rfl
  | cons entry nodes ih =>
    obtain ⟨other, node⟩ := entry
    by_cases at_here : other = here
    · subst at_here
      rw [List.filter_cons_of_neg (by simp), ih, Entries.get?, if_neg (Ne.symm different)]
    · rw [List.filter_cons_of_pos (by simpa using at_here), List.map_cons, Entries.get?, Entries.get?]
      split
      · rfl
      · exact ih

/-- What does not depend on the times of directories and finds nothing at one place reads the nodes elsewhere. -/
theorem filterMap_elsewhere {α : Type} {f : Place × FileNode → Option α}
    (timeless : ∀ place node, f (place, FileNode.timeless node) = f (place, node))
    (nothing : ∀ node, (here, node) ∈ fs.nodes → f (here, node) = none) :
    (fs.elsewhere here).filterMap f = fs.nodes.filterMap f := by
  rw [elsewhere, List.filterMap_map, List.filterMap_filter]
  refine List.filterMap_congr fun entry member => ?_
  obtain ⟨other, node⟩ := entry
  split
  · exact timeless other node
  · rename_i at_here
    obtain rfl : other = here := by simpa using at_here
    exact (nothing node member).symm

/-- A path leads on where the directories that it passes are kept, but for their times. -/
theorem follow_kept {start : Place} {parts : List String} (followed : fs.follow start parts = .ok place)
    (kept : ∀ front, front <+: parts → ∀ mode modified,
      fs.node? (front.foldl Path.step start) = some (.directory mode modified) →
      ∃ modified', fs'.node? (front.foldl Path.step start) = some (.directory mode modified')) :
    fs'.follow start parts = .ok place := by
  induction parts generalizing start with
  | nil => exact followed
  | cons part rest ih =>
    rw [FileSystem.follow] at followed
    split at followed
    · cases followed
    · cases followed
    · rename_i mode modified found
      obtain ⟨modified', found'⟩ := kept [] List.nil_prefix mode modified found
      have later : ∀ front, front <+: rest → ∀ mode modified,
          fs.node? (front.foldl Path.step (Path.step start part)) = some (.directory mode modified) →
          ∃ modified', fs'.node? (front.foldl Path.step (Path.step start part)) = some (.directory mode modified') :=
        fun front sooner => kept (part :: front) (List.cons_prefix_cons.2 ⟨rfl, sooner⟩)
      rw [List.foldl_nil] at found'
      rw [FileSystem.follow, found']
      dsimp only
      split at followed
      · rename_i up
        rw [Path.step, if_pos up] at later
        rw [if_pos up]
        exact ih followed later
      · rename_i down
        rw [Path.step, if_neg down] at later
        rw [if_neg down]
        split at followed
        · cases followed
        · rename_i short
          rw [if_neg short]
          exact ih followed later

/-- Directories stay where they are, but for their times. -/
def KeepsDirectories (fs fs' : FileSystem) : Prop :=
  ∀ place mode modified, fs.node? place = some (.directory mode modified) →
    ∃ modified', fs'.node? place = some (.directory mode modified')

namespace KeepsDirectories

variable {fs'' : FileSystem}

theorem refl (fs : FileSystem) : KeepsDirectories fs fs := fun _ _ modified found => ⟨modified, found⟩

theorem trans (first : KeepsDirectories fs fs') (second : KeepsDirectories fs' fs'') : KeepsDirectories fs fs'' := by
  intro place mode modified found
  obtain ⟨modified', found'⟩ := first place mode modified found
  exact second place mode modified' found'

theorem follow (h : KeepsDirectories fs fs') {start : Place} {parts : List String}
    (followed : fs.follow start parts = .ok place) : fs'.follow start parts = .ok place :=
  follow_kept followed fun _ _ => h _

/-- A path leads to the same place. -/
theorem resolve (h : KeepsDirectories fs fs') (resolved : fs.resolve path = .ok place) : fs'.resolve path = .ok place := by
  obtain ⟨text, followed⟩ := resolve_eq_ok.1 resolved
  exact resolve_eq_ok.2 ⟨text, h.follow followed⟩

end KeepsDirectories

namespace DifferAt

theorem symm (h : DifferAt here fs fs') : DifferAt here fs' fs := ⟨h.elsewhere.symm, h.file', h.file⟩

/-- The same node is at every other place, but for the time of a directory. -/
theorem node?_eq (h : DifferAt here fs fs') (different : place ≠ here) :
    (fs.node? place).map FileNode.timeless = (fs'.node? place).map FileNode.timeless := by
  rw [← get?_elsewhere fs different, ← get?_elsewhere fs' different, h.elsewhere]

/-- Directories are where they were. -/
theorem directory (h : DifferAt here fs fs') {mode : Nat} {modified : Int}
    (found : fs.node? place = some (.directory mode modified)) :
    ∃ modified', fs'.node? place = some (.directory mode modified') := by
  have different : place ≠ here := by
    rintro rfl
    exact Bool.noConfusion (h.file _ (mem_of_node? found))
  have same := h.node?_eq different
  rw [found] at same
  obtain ⟨node, found', shape⟩ := Option.map_eq_some_iff.1 same.symm
  cases node with
  | file octets mode modified => cases shape
  | directory mode' modified' =>
    cases shape
    exact ⟨modified', found'⟩

/-- Files at other places are what they were. -/
theorem file_eq (h : DifferAt here fs fs') (different : place ≠ here) (found : fs.node? place = some node)
    (file : node.isDirectory = false) : fs'.node? place = some node := by
  have same := h.node?_eq different
  rw [found] at same
  obtain ⟨node', found', shape⟩ := Option.map_eq_some_iff.1 same.symm
  cases node with
  | directory mode modified => cases file
  | file octets mode modified =>
    cases node' with
    | directory mode modified => cases shape
    | file octets mode modified =>
      cases shape
      exact found'

theorem keepsDirectories (h : DifferAt here fs fs') : KeepsDirectories fs fs' := fun _ _ _ found => h.directory found

/-- A path leads to the same place. -/
theorem resolve (h : DifferAt here fs fs') (resolved : fs.resolve path = .ok place) : fs'.resolve path = .ok place := by
  exact h.keepsDirectories.resolve resolved

theorem locate_directory (h : DifferAt here fs fs') {mode : Nat} {modified : Int}
    (located : fs.locate path = .ok (place, .directory mode modified)) :
    ∃ modified', fs'.locate path = .ok (place, .directory mode modified') := by
  obtain ⟨resolved, found, -⟩ := locate_eq_ok.1 located
  obtain ⟨modified', found'⟩ := h.directory found
  exact ⟨modified', locate_eq_ok.2 ⟨h.resolve resolved, found', fun _ => rfl⟩⟩

theorem locate_file (h : DifferAt here fs fs') (located : fs.locate path = .ok (place, node))
    (file : node.isDirectory = false) (different : place ≠ here) : fs'.locate path = .ok (place, node) := by
  obtain ⟨resolved, found, wants⟩ := locate_eq_ok.1 located
  exact locate_eq_ok.2 ⟨h.resolve resolved, h.file_eq different found file, wants⟩

end DifferAt

theorem isDirectory_iff : fs.isDirectory path = true ↔
    ∃ place mode modified, fs.locate path = .ok (place, .directory mode modified) := by
  rw [isDirectory]
  constructor
  · intro directory
    split at directory
    · rename_i place node located
      cases node with
      | file octets mode modified => cases directory
      | directory mode modified => exact ⟨place, mode, modified, located⟩
    · cases directory
  · rintro ⟨place, mode, modified, located⟩
    rw [located]
    rfl

theorem DifferAt.isDirectory_eq (h : DifferAt here fs fs') (path : String) : fs.isDirectory path = fs'.isDirectory path := by
  have leads {fs fs' : FileSystem} (h : DifferAt here fs fs') (directory : fs.isDirectory path = true) :
      fs'.isDirectory path = true := by
    obtain ⟨place, mode, modified, located⟩ := isDirectory_iff.1 directory
    obtain ⟨modified', located'⟩ := h.locate_directory located
    exact isDirectory_iff.2 ⟨place, mode, modified', located'⟩
  rw [Bool.eq_iff_iff]
  exact ⟨leads h, leads h.symm⟩

/-! ## Replacing a file -/

/-- What is put at a place is not elsewhere. -/
theorem elsewhere_put (fs : FileSystem) (here : Place) (node : FileNode) :
    elsewhere { fs with nodes := Entries.put fs.nodes here node } here = fs.elsewhere here := by
  rw [elsewhere, elsewhere]
  cases found : Entries.get? fs.nodes here with
  | none =>
    rw [Entries.put_of_not_mem (Entries.get?_eq_none_iff.1 found)]
    simp
  | some old =>
    obtain ⟨front, back, split, fresh⟩ := Entries.exists_split_of_get? found
    rw [split, Entries.put_split fresh]
    simp

/-- The time of a directory does not count elsewhere. -/
theorem elsewhere_stampParent (fs : FileSystem) (here place : Place) (directory : ∀ node, fs.node? place.dropLast = some node →
    node.isDirectory = true) : (fs.stampParent place).elsewhere here = fs.elsewhere here := by
  rw [stampParent]
  split
  · rename_i node found
    obtain ⟨front, back, split, fresh⟩ := Entries.exists_split_of_get? found
    have timeless : (node.withModified fs.clock).timeless = node.timeless := by
      cases node with
      | file octets mode modified => cases directory _ found
      | directory mode modified => rfl
    rw [elsewhere, elsewhere, split, Entries.put_split fresh]
    simp [List.filter_cons, apply_ite, timeless]
  · rfl

theorem keys_stampParent (fs : FileSystem) (place : Place) :
    Entries.keys (fs.stampParent place).nodes = Entries.keys fs.nodes := by
  rw [stampParent]
  split
  · rename_i node found
    rw [Entries.keys_put, if_pos (Entries.mem_keys_of_get? found)]
  · rfl

/-- What is put at a place whose parts are names leaves a file system regular. -/
theorem Regular.put (h : fs.Regular) (named : ∀ name ∈ place, IsFileName name) (node : FileNode) :
    ({ fs with nodes := Entries.put fs.nodes place node } : FileSystem).Regular where
  single := Entries.nodup_keys_put h.single _ _
  named other member name here := by
    rw [Entries.keys_put] at member
    split at member
    · exact h.named other member name here
    · rcases List.mem_append.1 member with old | new
      · exact h.named other old name here
      · obtain rfl := List.mem_singleton.1 new
        exact named name here

theorem Regular.stampParent (h : fs.Regular) (place : Place) : (fs.stampParent place).Regular where
  single := by
    rw [keys_stampParent]
    exact h.single
  named := by
    rw [keys_stampParent]
    exact h.named

theorem Regular.putNode (h : fs.Regular) (named : ∀ name ∈ place, IsFileName name) (node : FileNode) :
    (fs.putNode place node).Regular := by
  rw [FileSystem.putNode]
  refine Regular.put ?_ named node
  split
  · exact h
  · exact h.stampParent place

/-- The parts of a place in a directory that is there are names. -/
theorem Regular.named_child (h : fs.Regular) {directory : Place} {name : String} (parent : fs.node? directory = some node)
    (isName : IsFileName name) : ∀ part ∈ directory ++ [name], IsFileName part := by
  intro part member
  rcases List.mem_append.1 member with before | last
  · exact h.named directory (Entries.mem_keys_of_get? parent) part before
  · exact List.mem_singleton.1 last ▸ isName

/-- A node is put at a place in a directory that is there. -/
theorem putNode_keeps {directory : Place} {mode : Nat} {modified : Int}
    (parent : fs.node? directory = some (.directory mode modified)) (name : String) (node : FileNode) :
    (fs.putNode (directory ++ [name]) node).elsewhere (directory ++ [name]) = fs.elsewhere (directory ++ [name]) ∧
      (fs.putNode (directory ++ [name]) node).node? (directory ++ [name]) = some node := by
  have stamped := elsewhere_stampParent fs (directory ++ [name]) (directory ++ [name]) (by
    rw [List.dropLast_concat, parent]
    rintro node ⟨⟩
    rfl)
  rw [FileSystem.putNode]
  refine ⟨(elsewhere_put _ _ node).trans ?_, Entries.get?_put_self _ _ _⟩
  split
  · rfl
  · exact stamped

/-- A file is replaced in a directory that is there. -/
theorem replaceFile_keeps (h : fs.Regular) {dir name : String} {directory : Place} {mode : Nat} {modified : Int}
    (located : fs.locate dir = .ok (directory, .directory mode modified)) (isName : IsFileName name) {octets : ByteArray}
    {newMode : Nat} (replaced : fs.replaceFile (Path.join dir name) octets newMode = .ok fs') :
    DifferAt (directory ++ [name]) fs fs' ∧ fs'.Regular := by
  have resolved := resolve_join located rfl isName
  have parent := (locate_eq_ok.1 located).2.1
  rw [replaceFile, resolved] at replaced
  dsimp only at replaced
  rw [isName.wantsDirectory_join, if_neg (by simp)] at replaced
  split at replaced
  · cases replaced
  · rename_i free
    rw [if_neg Bool.false_ne_true] at replaced
    obtain rfl := Except.ok.inj replaced
    have atParent : ∃ modified', (fs.stampParent (directory ++ [name])).node? directory = some (.directory mode modified') := by
      refine ⟨fs.clock, ?_⟩
      rw [stampParent, List.dropLast_concat, parent]
      exact Entries.get?_put_self _ _ _
    obtain ⟨modified', parent'⟩ := atParent
    have stamped := h.stampParent (directory ++ [name])
    have regular' := stamped.putNode (stamped.named_child parent' isName) (.file octets newMode fs.clock)
    obtain ⟨others, there⟩ := putNode_keeps parent' name (.file octets newMode fs.clock)
    refine ⟨⟨?_, fun node member => ?_, fun node member => ?_⟩, regular'⟩
    · rw [others]
      refine (elsewhere_stampParent fs _ _ ?_).symm
      rw [List.dropLast_concat, parent]
      rintro node ⟨⟩
      rfl
    · have found := h.node?_of_mem member
      cases node with
      | file octets mode modified => rfl
      | directory mode modified => exact absurd found (free mode modified)
    · rw [regular'.node?_of_mem member] at there
      obtain rfl := Option.some.inj there
      rfl

theorem keepsDirectories_stampParent (fs : FileSystem) (place : Place) : KeepsDirectories fs (fs.stampParent place) := by
  intro other mode modified found
  rw [stampParent]
  split
  · rename_i node parent
    by_cases same : other = place.dropLast
    · subst same
      rw [parent] at found
      obtain rfl := Option.some.inj found
      exact ⟨fs.clock, Entries.get?_put_self _ _ _⟩
    · exact ⟨modified, (Entries.get?_put_of_ne same _ _).trans found⟩
  · exact ⟨modified, found⟩

/-- A directory that was stamped was one before. -/
theorem stampParent_keepsDirectories (fs : FileSystem) (place : Place) : KeepsDirectories (fs.stampParent place) fs := by
  intro other mode modified found
  rw [stampParent] at found
  split at found
  · rename_i node parent
    by_cases same : other = place.dropLast
    · subst same
      have stamped : node.withModified fs.clock = .directory mode modified :=
        Option.some.inj ((Entries.get?_put_self _ _ _).symm.trans found)
      cases node with
      | file octets mode modified => cases stamped
      | directory mode modified =>
        cases stamped
        exact ⟨modified, parent⟩
    · exact ⟨modified, (Entries.get?_put_of_ne same _ _).symm.trans found⟩
  · exact ⟨modified, found⟩

/-- Directories stay where a node is put at a place that has none. -/
theorem keepsDirectories_putNode (free : ∀ mode modified, fs.node? place ≠ some (.directory mode modified)) (node : FileNode) :
    KeepsDirectories fs (fs.putNode place node) := by
  intro other mode modified found
  have different : other ≠ place := by
    rintro rfl
    exact free mode modified found
  rw [putNode, node?, Entries.get?_put_of_ne different]
  split
  · exact ⟨modified, found⟩
  · exact keepsDirectories_stampParent fs place other mode modified found

/-- A file that was replaced is found by its path, and it has the octets that were written. -/
theorem locate_replaceFile {octets : ByteArray} {mode : Nat} (replaced : fs.replaceFile path octets mode = .ok fs') :
    ∃ place modified, fs'.locate path = .ok (place, .file octets mode modified) := by
  rw [replaceFile] at replaced
  split at replaced
  · cases replaced
  · rename_i place resolved
    split at replaced
    · cases replaced
    · split at replaced
      · cases replaced
      · rename_i free
        split at replaced
        · cases replaced
        · rename_i wants
          obtain rfl := Except.ok.inj replaced
          have stamped := keepsDirectories_stampParent fs place
          have free' : ∀ mode modified, (fs.stampParent place).node? place ≠ some (.directory mode modified) := by
            intro mode modified found
            obtain ⟨modified', found'⟩ := stampParent_keepsDirectories fs place _ _ _ found
            exact free mode modified' found'
          have kept := stamped.trans (keepsDirectories_putNode free' (.file octets mode fs.clock))
          refine ⟨place, fs.clock, locate_eq_ok.2 ⟨kept.resolve resolved, Entries.get?_put_self _ _ _, fun directory => ?_⟩⟩
          exact absurd directory wants

theorem read_replaceFile {octets : ByteArray} {mode : Nat} (replaced : fs.replaceFile path octets mode = .ok fs') :
    fs'.pathExists path = true ∧ fs'.read path = .ok octets := by
  obtain ⟨place, modified, located⟩ := locate_replaceFile replaced
  constructor
  · rw [pathExists, located]
    rfl
  · rw [read, located]

end FileSystem

end EditorBundles
