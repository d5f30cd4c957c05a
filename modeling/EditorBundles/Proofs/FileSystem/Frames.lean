import EditorBundles.Proofs.FileSystem.Regularity

/-!
# What an operation on files can change

There are no links, and so a path that leads anywhere leads to the place that its parts spell, past the places that its
first parts spell. What an operation may change is a grant: it says for each place whether a file may be put there, a
directory may be made there, what is there may be taken out, or may only get another time. Every operation keeps to
the places that its paths pass.
-/

namespace EditorBundles
set_option autoImplicit false

/-! ## Places of paths -/

namespace Path

/-- What is no path of several parts and does not lead up: a name, or nothing. -/
structure IsPlain (name : String) : Prop where
  single : '/' ∉ name.toList
  down : name ≠ "." ∧ name ≠ ".."

/-- The place that a path spells. -/
def place (path : String) : Place := (parts path).foldl step []

/-- The first parts of a path spell a place. -/
def Passes (path : String) (here : Place) : Prop := ∃ front, front <+: parts path ∧ front.foldl step [] = here

variable {dir name path : String} {here : Place}

theorem passes_place (path : String) : Passes path (place path) := ⟨parts path, List.prefix_refl _, rfl⟩

theorem isPlain_empty : IsPlain "" := ⟨by decide, by decide⟩

theorem IsPlain.parts_join (h : IsPlain name) (present : name ≠ "") (dir : String) :
    parts (join dir name) = parts dir ++ [name] := by
  rw [Path.parts_join dir (isAbsolute_single h.single), parts_single h.single present h.down.1]

/-- A name leads on from the place of the path before it. -/
theorem IsPlain.place_join (h : IsPlain name) (present : name ≠ "") (dir : String) :
    place (join dir name) = place dir ++ [name] := by
  rw [place, h.parts_join present, List.foldl_append, List.foldl_cons, List.foldl_nil, ← place, step, if_neg h.down.2]

theorem place_join_empty (dir : String) : place (join dir "") = place dir := by
  rw [place, Path.parts_join dir (isAbsolute_single isPlain_empty.single), parts_empty, List.append_nil, place]

theorem IsPlain.prefix_join (h : IsPlain name) (dir : String) : place dir <+: place (join dir name) := by
  by_cases present : name = ""
  · have same : place (join dir name) = place dir := present ▸ place_join_empty dir
    exact same ▸ List.prefix_refl _
  · rw [h.place_join present]
    exact List.prefix_append _ _

/-- Where a name leads on, the places before it are passed, and it is. -/
theorem IsPlain.passes_join (h : IsPlain name) (passed : Passes (join dir name) here) :
    Passes dir here ∨ here = place (join dir name) := by
  obtain ⟨front, sooner, rfl⟩ := passed
  by_cases present : name = ""
  · rw [present, Path.parts_join dir (isAbsolute_single isPlain_empty.single), parts_empty, List.append_nil] at sooner
    exact .inl ⟨front, sooner, rfl⟩
  · rw [h.parts_join present] at sooner
    rcases List.prefix_concat_iff.1 sooner with rfl | sooner
    · rw [place, h.parts_join present]
      exact .inr rfl
    · exact .inl ⟨front, sooner, rfl⟩

theorem IsPlain.passes_of_passes (h : IsPlain name) (passed : Passes dir here) : Passes (join dir name) here := by
  obtain ⟨front, sooner, rfl⟩ := passed
  refine ⟨front, sooner.trans ?_, rfl⟩
  rw [Path.parts_join dir (isAbsolute_single h.single)]
  exact List.prefix_append _ _

/-- The places that a path passes, and all below the one that it spells. -/
def Reaches (path : String) (here : Place) : Prop := Passes path here ∨ place path <+: here

theorem IsPlain.reaches_of_join (h : IsPlain name) (reached : Reaches (join dir name) here) : Reaches dir here := by
  rcases reached with passed | below
  · rcases h.passes_join passed with passed | rfl
    · exact .inl passed
    · exact .inr (h.prefix_join dir)
  · exact .inr ((h.prefix_join dir).trans below)

theorem reaches_of_foldl_join {names : List String} (plain : ∀ name ∈ names, IsPlain name)
    (reached : Reaches (names.foldl join dir) here) : Reaches dir here := by
  induction names generalizing dir with
  | nil => exact reached
  | cons name names ih =>
    rw [List.forall_mem_cons] at plain
    exact plain.1.reaches_of_join (ih plain.2 reached)

/-- The first parts of a path that never leads up spell a place above. -/
theorem prefix_place {front : List String} (down : ".." ∉ parts path) (sooner : front <+: parts path) :
    front.foldl step [] <+: place path := by
  have straight (parts : List String) (start : Place) (down : ".." ∉ parts) : parts.foldl step start = start ++ parts := by
    induction parts generalizing start with
    | nil => exact (List.append_nil start).symm
    | cons part rest ih =>
      rw [List.mem_cons, not_or] at down
      rw [List.foldl_cons, step, if_neg (Ne.symm down.1), ih _ down.2, List.append_assoc, List.singleton_append]
  rw [place, straight _ _ down, straight _ _ fun up => down (sooner.subset up)]
  exact sooner

/-- The name at the end of a path is plain. -/
theorem isPlain_of_fileName? (last : fileName? path = some name) : IsPlain name := by
  rw [fileName?] at last
  split at last
  · cases last
  · rename_i up
    obtain ⟨member, kept⟩ := List.mem_filter.1 (List.mem_of_getLast? last)
    rw [splitOn_slash] at member
    obtain ⟨piece, split, rfl⟩ := List.mem_map.1 member
    refine ⟨fun slash => ?_, (of_decide_eq_true kept).2, fun dots => up (dots ▸ last)⟩
    rw [String.toList_ofList] at slash
    exact absurd (FileSystem.of_mem_splitOnP split slash).1 (by decide)

end Path

theorem IsFileName.isPlain {name : String} (h : IsFileName name) : Path.IsPlain name := ⟨h.single, h.down⟩

/-! ## Grants -/

/-- What can become of what is at a place. -/
inductive Fate where
  | gone
  | file
  | directory
  | dated

/-- The node becomes what the fate says. -/
inductive Fate.Meets : Fate → Option FileNode → Option FileNode → Prop where
  | gone (before : Option FileNode) : Meets .gone before none
  | file (before : Option FileNode) (octets : ByteArray) (mode : Nat) (modified : Int) :
      Meets .file before (some (.file octets mode modified))
  | directory (before : Option FileNode) (mode : Nat) (modified : Int) :
      Meets .directory before (some (.directory mode modified))
  | dated (before : Option FileNode) (modified : Int) : Meets .dated before (before.map (FileNode.withModified modified))

/-- What a node is when it is put somewhere. -/
def FileNode.fate : FileNode → Fate
  | .file .. => .file
  | .directory .. => .directory

theorem FileNode.meets (before : Option FileNode) (node : FileNode) : node.fate.Meets before (some node) := by
  cases node with
  | file octets mode modified => exact .file before octets mode modified
  | directory mode modified => exact .directory before mode modified

@[simp] theorem FileNode.withModified_withModified (node : FileNode) (first second : Int) :
    (node.withModified first).withModified second = node.withModified second := by
  cases node <;> rfl

/-- One fate after another comes to one of the two. -/
theorem Fate.Meets.trans {first second : Fate} {before between after : Option FileNode} (sooner : first.Meets before between)
    (later : second.Meets between after) : first.Meets before after ∨ second.Meets before after := by
  cases later with
  | gone => exact .inr (.gone before)
  | file _ octets mode modified => exact .inr (.file before octets mode modified)
  | directory _ mode modified => exact .inr (.directory before mode modified)
  | dated _ modified =>
    cases sooner with
    | gone => exact .inl (.gone before)
    | file _ octets mode _ => exact .inl (.file before octets mode modified)
    | directory _ mode _ => exact .inl (.directory before mode modified)
    | dated _ earlier =>
      have same : (before.map (FileNode.withModified earlier)).map (FileNode.withModified modified) =
          before.map (FileNode.withModified modified) := by
        cases before <;> simp
      rw [same]
      exact .inr (.dated before modified)

/-- What may become of what is at each place. -/
abbrev Grant := Place → Fate → Prop

/-- Nothing may happen but at some places, and to the times of the directories around them. -/
def Grant.at (W : Place → Prop) : Grant
  | here, .dated => ∃ inner, W inner ∧ inner.dropLast = here
  | here, _ => W here

/-- What is at and below a place may be taken out. -/
def Grant.removal (root : Place) : Grant
  | here, .gone => root <+: here
  | here, .dated => here = root.dropLast
  | _, _ => False

namespace FileSystem
open PropertyList

variable {T T' : Grant} {fs fs' fs'' : FileSystem} {place here : Place} {path dir : String} {node : FileNode}

/-- A path leads to the place that it spells. -/
theorem place_of_follow {start : Place} {parts : List String} (followed : fs.follow start parts = .ok place) :
    place = parts.foldl Path.step start := by
  induction parts generalizing start with
  | nil => exact (Except.ok.inj followed).symm
  | cons part rest ih =>
    rw [follow] at followed
    rw [List.foldl_cons, Path.step]
    split at followed
    · cases followed
    · cases followed
    · split at followed
      · rename_i up
        rw [if_pos up]
        exact ih followed
      · rename_i down
        rw [if_neg down]
        split at followed
        · cases followed
        · exact ih followed

theorem place_of_resolve (resolved : fs.resolve path = .ok place) : place = Path.place path :=
  place_of_follow (resolve_eq_ok.1 resolved).2

theorem place_of_locate (located : fs.locate path = .ok (place, node)) : place = Path.place path :=
  place_of_resolve (locate_eq_ok.1 located).1

/-- One file system becomes another by nothing but what is granted. -/
def TouchesOnly (T : Grant) (fs fs' : FileSystem) : Prop :=
  ∀ here, fs'.node? here = fs.node? here ∨ ∃ fate, T here fate ∧ fate.Meets (fs.node? here) (fs'.node? here)

namespace TouchesOnly

theorem refl (T : Grant) (fs : FileSystem) : TouchesOnly T fs fs := fun _ => .inl rfl

theorem trans (first : TouchesOnly T fs fs') (second : TouchesOnly T fs' fs'') : TouchesOnly T fs fs'' := by
  intro here
  rcases second here with same | ⟨fate, granted, meets⟩
  · rw [same]
    exact first here
  · rcases first here with same | ⟨sooner, allowed, met⟩
    · rw [same] at meets
      exact .inr ⟨fate, granted, meets⟩
    · rcases met.trans meets with all | all
      · exact .inr ⟨sooner, allowed, all⟩
      · exact .inr ⟨fate, granted, all⟩

theorem mono (h : TouchesOnly T fs fs') (wider : ∀ here fate, T here fate → T' here fate) : TouchesOnly T' fs fs' := fun here =>
  (h here).imp_right fun ⟨fate, granted, meets⟩ => ⟨fate, wider here fate granted, meets⟩

/-- Where nothing is granted, nothing changes. -/
theorem node?_eq (h : TouchesOnly T fs fs') (refused : ∀ fate, ¬T here fate) : fs'.node? here = fs.node? here :=
  (h here).resolve_right fun ⟨fate, granted, _⟩ => refused fate granted

/-- A directory that only gets another time stays. -/
theorem directory (h : TouchesOnly T fs fs') (dated : ∀ fate, T here fate → fate = .dated) {mode : Nat} {modified : Int}
    (found : fs.node? here = some (.directory mode modified)) :
    ∃ modified', fs'.node? here = some (.directory mode modified') := by
  rcases h here with same | ⟨fate, granted, meets⟩
  · exact ⟨modified, same.trans found⟩
  · obtain rfl := dated fate granted
    rw [found] at meets
    generalize fs'.node? here = after at meets
    cases meets with
    | dated _ modified' => exact ⟨modified', rfl⟩

/-- A path leads on where the directories that it passes stay. -/
theorem isDirectory (h : TouchesOnly T fs fs') (dated : ∀ here, Path.Passes path here → ∀ fate, T here fate → fate = .dated)
    (there : fs.isDirectory path = true) : fs'.isDirectory path = true := by
  obtain ⟨place, mode, modified, located⟩ := isDirectory_iff.1 there
  obtain ⟨resolved, found, -⟩ := locate_eq_ok.1 located
  obtain ⟨legal, followed⟩ := resolve_eq_ok.1 resolved
  have followed' : fs'.follow [] (Path.parts path) = .ok place := follow_kept followed fun front sooner mode modified =>
    h.directory (dated _ ⟨front, sooner, rfl⟩)
  obtain ⟨modified', found'⟩ := h.directory (place_of_resolve resolved ▸ dated _ (Path.passes_place path)) found
  exact isDirectory_iff.2 ⟨place, mode, modified', locate_eq_ok.2 ⟨resolve_eq_ok.2 ⟨legal, followed'⟩, found', fun _ => rfl⟩⟩

end TouchesOnly

/-! ## Operations -/

theorem node?_stampParent (fs : FileSystem) (place here : Place) : (fs.stampParent place).node? here =
    if here = place.dropLast then (fs.node? here).map (FileNode.withModified fs.clock) else fs.node? here := by
  rw [stampParent]
  split
  · rename_i node found
    split
    · rename_i same
      rw [same, found]
      exact Entries.get?_put_self _ _ _
    · rename_i different
      exact Entries.get?_put_of_ne different _ _
  · rename_i none_
    split
    · rename_i same
      rw [same, none_, Option.map_none]
    · rfl

theorem touchesOnly_stampParent (dated : T place.dropLast .dated) : TouchesOnly T fs (fs.stampParent place) := by
  intro here
  rw [node?_stampParent]
  split
  · rename_i same
    exact .inr ⟨.dated, same ▸ dated, .dated _ _⟩
  · exact .inl rfl

theorem touchesOnly_putNode (put : T place node.fate) (dated : T place.dropLast .dated) :
    TouchesOnly T fs (fs.putNode place node) := by
  have stamped : TouchesOnly T fs (if (fs.node? place).isSome then fs else fs.stampParent place) := by
    split
    · exact .refl T fs
    · exact touchesOnly_stampParent dated
  refine stamped.trans fun here => ?_
  rw [putNode]
  by_cases same : here = place
  · subst same
    rw [node?, Entries.get?_put_self]
    exact .inr ⟨node.fate, put, node.meets _⟩
  · exact .inl (Entries.get?_put_of_ne same _ _)

/-- What is at and below a place is taken out. -/
theorem node?_dropNodes (fs : FileSystem) (place here : Place) : (fs.dropNodes place).node? here =
    if place <+: here then none else (fs.stampParent place).node? here := by
  rw [dropNodes, node?, node?]
  dsimp only
  induction (fs.stampParent place).nodes with
  | nil => split <;> rfl
  | cons entry nodes ih =>
    by_cases inside : place <+: entry.1
    · rw [List.filter_cons_of_neg (by simpa using inside), ih]
      split
      · rfl
      · rename_i outside
        rw [Entries.get?, if_neg fun same : entry.1 = here => outside (same ▸ inside)]
    · rw [List.filter_cons_of_pos (by simpa using inside), Entries.get?, Entries.get?, ih]
      split
      · rename_i same
        rw [if_neg (same ▸ inside)]
      · rfl

theorem touchesOnly_dropNodes (gone : ∀ below, place <+: below → T below .gone) (dated : T place.dropLast .dated) :
    TouchesOnly T fs (fs.dropNodes place) := by
  refine (touchesOnly_stampParent dated).trans fun here => ?_
  rw [node?_dropNodes]
  split
  · rename_i inside
    exact .inr ⟨.gone, gone here inside, .gone _⟩
  · exact .inl rfl

/-- Directories are made at the places that a path passes. -/
theorem touchesOnly_makeDirectories {parts : List String}
    (made : ∀ front, front <+: parts → T (front.foldl Path.step place) .directory ∧
      T (front.foldl Path.step place).dropLast .dated) :
    TouchesOnly T fs (fs.makeDirectories place parts).1 := by
  induction parts generalizing fs place with
  | nil => exact .refl T fs
  | cons part rest ih =>
    have later : ∀ front, front <+: rest → T (front.foldl Path.step (Path.step place part)) .directory ∧
        T (front.foldl Path.step (Path.step place part)).dropLast .dated := by
      intro front sooner
      exact made (part :: front) (List.cons_prefix_cons.2 ⟨rfl, sooner⟩)
    rw [makeDirectories]
    split
    · rename_i up
      rw [Path.step, if_pos up] at later
      exact ih later
    · rename_i down
      rw [Path.step, if_neg down] at later
      split
      · exact .refl T fs
      · dsimp only
        split
        · exact ih later
        · exact .refl T fs
        · have here := later [] List.nil_prefix
          exact (touchesOnly_putNode here.1 here.2).trans (ih later)

theorem touchesOnly_createDirectories
    (made : ∀ here, Path.Passes path here → T here .directory ∧ T here.dropLast .dated) :
    TouchesOnly T fs (fs.createDirectories path).1 := by
  rw [createDirectories]
  split
  · exact .refl T fs
  · split
    · exact .refl T fs
    · split
      · exact .refl T fs
      · exact touchesOnly_makeDirectories fun front sooner => made _ ⟨front, sooner, rfl⟩

/-- A file is only put where no directory is. -/
theorem replaceFile_eq_ok {octets : ByteArray} {mode : Nat} (replaced : fs.replaceFile path octets mode = .ok fs') :
    (∀ mode modified, fs.node? (Path.place path) ≠ some (.directory mode modified)) ∧
      fs' = (fs.stampParent (Path.place path)).putNode (Path.place path) (.file octets mode fs.clock) := by
  rw [replaceFile] at replaced
  split at replaced
  · cases replaced
  · rename_i place resolved
    obtain rfl := place_of_resolve resolved
    split at replaced
    · cases replaced
    · split at replaced
      · cases replaced
      · rename_i free
        split at replaced
        · cases replaced
        · exact ⟨free, (Except.ok.inj replaced).symm⟩

theorem touchesOnly_replaceFile {octets : ByteArray} {mode : Nat} (replaced : fs.replaceFile path octets mode = .ok fs')
    (put : (∀ mode modified, fs.node? (Path.place path) ≠ some (.directory mode modified)) → T (Path.place path) .file)
    (dated : T (Path.place path).dropLast .dated) : TouchesOnly T fs fs' := by
  obtain ⟨free, rfl⟩ := replaceFile_eq_ok replaced
  exact (touchesOnly_stampParent dated).trans (touchesOnly_putNode (put free) dated)

theorem touchesOnly_removeFile (removed : fs.removeFile path = .ok fs')
    (gone : ∀ below, Path.place path <+: below → T below .gone) (dated : T (Path.place path).dropLast .dated) :
    TouchesOnly T fs fs' := by
  rw [removeFile] at removed
  split at removed
  · cases removed
  · cases removed
  · rename_i located
    obtain rfl := place_of_locate located
    obtain rfl := Except.ok.inj removed
    exact touchesOnly_dropNodes gone dated

theorem removeDirectory_eq_ok (removed : fs.removeDirectory path = .ok fs') : fs' = fs.dropNodes (Path.place path) := by
  rw [removeDirectory] at removed
  split at removed
  · cases removed
  · cases removed
  · rename_i located
    obtain rfl := place_of_locate located
    exact (Except.ok.inj removed).symm

/-- Writing a document makes its directory, and puts its file where no directory is. -/
theorem touchesOnly_save (d : Document) (made : TouchesOnly T fs (fs.createDirectories dir).1)
    (put : ∀ fs₁, fs.createDirectories dir = (fs₁, .ok ()) →
      (∀ mode modified, fs₁.node? (Path.place (Path.join dir d.filename)) ≠ some (.directory mode modified)) →
      T (Path.place (Path.join dir d.filename)) .file)
    (dated : T (Path.place (Path.join dir d.filename)).dropLast .dated) : TouchesOnly T fs (d.save fs dir).1 := by
  rw [Document.save]
  dsimp only
  split
  · exact .refl T fs
  · split
    · exact .refl T fs
    · generalize fs.createDirectories dir = result at made put
      obtain ⟨fs₁, result⟩ := result
      cases result with
      | error fault => exact made
      | ok _ =>
        dsimp only
        split
        · exact made
        · rename_i replaced
          exact made.trans (touchesOnly_replaceFile replaced (put fs₁ rfl) dated)

/-! ## Operations on some places -/

section Places

variable {W : Place → Prop}

theorem touchesOnly_createDirectories_at (inside : ∀ here, Path.Passes path here → W here) :
    TouchesOnly (.at W) fs (fs.createDirectories path).1 :=
  touchesOnly_createDirectories fun here passed => ⟨inside here passed, here, inside here passed, rfl⟩

theorem touchesOnly_replaceFile_at {octets : ByteArray} {mode : Nat}
    (replaced : fs.replaceFile path octets mode = .ok fs') (inside : W (Path.place path)) : TouchesOnly (.at W) fs fs' :=
  touchesOnly_replaceFile replaced (fun _ => inside) ⟨_, inside, rfl⟩

theorem touchesOnly_removeFile_at (removed : fs.removeFile path = .ok fs')
    (inside : ∀ below, Path.place path <+: below → W below) : TouchesOnly (.at W) fs fs' :=
  touchesOnly_removeFile removed inside ⟨_, inside _ (List.prefix_refl _), rfl⟩

theorem touchesOnly_copyFile_at {source target : String} (copied : fs.copyFile source target = .ok fs')
    (inside : W (Path.place target)) : TouchesOnly (.at W) fs fs' := by
  obtain ⟨place, octets, mode, resolved, rfl⟩ := copyFile_eq_ok copied
  obtain rfl := place_of_resolve resolved
  exact touchesOnly_putNode inside ⟨_, inside, rfl⟩

theorem touchesOnly_save_at (d : Document) (plain : Path.IsPlain d.filename)
    (inside : ∀ here, Path.Passes (Path.join dir d.filename) here → W here) :
    TouchesOnly (.at W) fs (d.save fs dir).1 := by
  have last := inside _ (Path.passes_place _)
  refine touchesOnly_save d (touchesOnly_createDirectories_at fun here passed => ?_) (fun _ _ _ => last) ⟨_, last, rfl⟩
  exact inside here (plain.passes_of_passes passed)

theorem touchesOnly_copyNode_at (inside : ∀ here, Path.Passes path here → W here) :
    TouchesOnly (.at W) fs (fs.copyNode node path).1 := by
  cases node with
  | directory mode modified => exact touchesOnly_createDirectories_at inside
  | file octets mode modified =>
    rw [copyNode]
    split
    · exact .refl _ fs
    · rename_i place resolved
      obtain rfl := place_of_resolve resolved
      split
      · exact .refl _ fs
      · have last := inside _ (Path.passes_place path)
        exact touchesOnly_putNode last ⟨_, last, rfl⟩

/-- Copies are put below the place of the path that they are copied to. -/
theorem touchesOnly_copyNodes_at {source : Place} {target : String} {nodes : List (Place × FileNode)}
    (named : ∀ entry ∈ nodes, ∀ name ∈ entry.1, IsFileName name) (inside : ∀ here, Path.Reaches target here → W here) :
    TouchesOnly (.at W) fs (fs.copyNodes source target nodes).1 := by
  induction nodes generalizing fs with
  | nil => exact .refl _ fs
  | cons entry nodes ih =>
    obtain ⟨place, node⟩ := entry
    rw [List.forall_mem_cons] at named
    have copied : TouchesOnly (.at W) fs (fs.copyNode node ((place.drop source.length).foldl Path.join target)).1 := by
      refine touchesOnly_copyNode_at fun here passed => inside here ?_
      refine Path.reaches_of_foldl_join (fun name member => ?_) (.inl passed)
      exact (named.1 name (List.mem_of_mem_drop member)).isPlain
    rw [copyNodes]
    generalize fs.copyNode node ((place.drop source.length).foldl Path.join target) = result at copied
    obtain ⟨fs₁, result⟩ := result
    cases result with
    | error fault => exact copied
    | ok _ => exact copied.trans (ih named.2)

theorem touchesOnly_copyDirectory_at {source target : String} (h : fs.Regular)
    (inside : ∀ here, Path.Reaches target here → W here) : TouchesOnly (.at W) fs (fs.copyDirectory source target).1 := by
  rw [copyDirectory]
  split
  · exact .refl _ fs
  · refine touchesOnly_copyNodes_at (fun entry member => ?_) inside
    exact h.named _ (List.mem_map_of_mem (List.mem_filter.1 (List.mem_mergeSort.1 member)).1)

end Places

end FileSystem

end EditorBundles
