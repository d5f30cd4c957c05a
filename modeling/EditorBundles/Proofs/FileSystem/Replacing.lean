import EditorBundles.Proofs.FileSystem.Frames
import Mathlib.Data.List.Induction

/-!
# Replacing a file

In a tree every node has a directory around it. Making directories there touches no file, and replacing a file touches
no other one. To replace it in one step comes to the same as to write another file beside it, to give that the
permissions, and to rename it: nothing stays at the other name, whether the file is replaced or not.
-/

namespace EditorBundles.FileSystem
set_option autoImplicit false
open PropertyList
open EditorBundles.Path (IsPlain)

variable {fs fs' fs'' : FileSystem} {here place spare : Place} {path dir name : String} {node : FileNode}

/-- A directory is at a place. -/
def HasDirectory (fs : FileSystem) (here : Place) : Prop := ∃ mode modified, fs.node? here = some (.directory mode modified)

/-- There is a directory at the top and around every node. -/
structure Tree (fs : FileSystem) : Prop where
  top : fs.HasDirectory []
  around : ∀ here name, (fs.node? (here ++ [name])).isSome = true → fs.HasDirectory here

/-- The file at a place. -/
def fileAt? (fs : FileSystem) (here : Place) : Option FileNode := (fs.node? here).filter fun node => !node.isDirectory

theorem HasDirectory.fileAt? (h : fs.HasDirectory here) : fs.fileAt? here = none := by
  obtain ⟨mode, modified, found⟩ := h
  rw [FileSystem.fileAt?, found]
  rfl

theorem KeepsDirectories.hasDirectory (kept : KeepsDirectories fs fs') (h : fs.HasDirectory here) :
    fs'.HasDirectory here := by
  obtain ⟨mode, modified, found⟩ := h
  obtain ⟨modified', found'⟩ := kept here mode modified found
  exact ⟨mode, modified', found'⟩

/-- What is done to a tree leaves a tree, and the directories and files that were there. -/
structure KeepsAll (fs fs' : FileSystem) : Prop where
  tree : fs'.Tree
  directories : KeepsDirectories fs fs'
  files : ∀ here, fs'.fileAt? here = fs.fileAt? here

theorem KeepsAll.refl (tree : fs.Tree) : KeepsAll fs fs := ⟨tree, .refl fs, fun _ => rfl⟩

theorem KeepsAll.trans (first : KeepsAll fs fs') (second : KeepsAll fs' fs'') : KeepsAll fs fs'' :=
  ⟨second.tree, first.directories.trans second.directories, fun here => (second.files here).trans (first.files here)⟩

/-! ## Trees -/

/-- A tree stays one where directories are kept and new nodes are put in directories. -/
theorem Tree.of_kept (tree : fs.Tree) (kept : KeepsDirectories fs fs')
    (new : ∀ here name, (fs'.node? (here ++ [name])).isSome = true →
      (fs.node? (here ++ [name])).isSome = true ∨ fs.HasDirectory here) : fs'.Tree where
  top := kept.hasDirectory tree.top
  around here name there := kept.hasDirectory ((new here name there).elim (tree.around here name) id)

/-- Around a place in a tree that is a directory there is one. -/
theorem Tree.dropLast (tree : fs.Tree) (h : fs.HasDirectory here) : fs.HasDirectory here.dropLast := by
  rcases List.eq_nil_or_concat' here with rfl | ⟨around, name, rfl⟩
  · exact h
  · obtain ⟨mode, modified, found⟩ := h
    rw [List.dropLast_concat]
    exact tree.around around name (Option.isSome_iff_exists.2 ⟨_, found⟩)

/-- Nothing is below a place of a tree at which there is nothing. -/
theorem Tree.node?_below (tree : fs.Tree) (none_ : fs.node? here = none) (below : here <+: place) : fs.node? place = none := by
  obtain ⟨names, rfl⟩ := below
  induction names using List.reverseRecOn with
  | nil => rwa [List.append_nil]
  | append_singleton names name ih =>
    rw [← List.append_assoc]
    by_contra there
    obtain ⟨mode, modified, found⟩ := tree.around _ name (Option.isSome_iff_ne_none.2 there)
    rw [ih] at found
    cases found

/-! ## Single changes -/

theorem fileAt?_stampParent (around : fs.HasDirectory place.dropLast) (here : Place) :
    (fs.stampParent place).fileAt? here = fs.fileAt? here := by
  by_cases parent : here = place.dropLast
  · subst parent
    exact ((keepsDirectories_stampParent fs place).hasDirectory around).fileAt?.trans around.fileAt?.symm
  · rw [fileAt?, node?_stampParent, if_neg parent, fileAt?]

theorem keepsAll_stampParent (tree : fs.Tree) (around : fs.HasDirectory place.dropLast) :
    KeepsAll fs (fs.stampParent place) := by
  have kept := keepsDirectories_stampParent fs place
  refine ⟨tree.of_kept kept fun here name there => .inl ?_, kept, fileAt?_stampParent around⟩
  rw [node?_stampParent] at there
  split at there
  · simpa using there
  · exact there

theorem node?_putNode (fs : FileSystem) (place : Place) (node : FileNode) : (fs.putNode place node).node? place = some node :=
  Entries.get?_put_self _ _ _

theorem node?_putNode_of_ne (different : here ≠ place) (node : FileNode) : (fs.putNode place node).node? here =
    if (fs.node? place).isSome then fs.node? here else (fs.stampParent place).node? here := by
  rw [putNode, node?, Entries.get?_put_of_ne different]
  split <;> rfl

theorem fileAt?_putNode_of_ne (around : fs.HasDirectory place.dropLast) (different : here ≠ place) (node : FileNode) :
    (fs.putNode place node).fileAt? here = fs.fileAt? here := by
  rw [fileAt?, node?_putNode_of_ne different]
  split
  · rfl
  · exact fileAt?_stampParent around here

theorem tree_putNode (tree : fs.Tree) (around : fs.HasDirectory place.dropLast)
    (free : ∀ mode modified, fs.node? place ≠ some (.directory mode modified)) (node : FileNode) :
    (fs.putNode place node).Tree := by
  refine tree.of_kept (keepsDirectories_putNode free node) fun here name there => ?_
  by_cases new : here ++ [name] = place
  · rw [← new, List.dropLast_concat] at around
    exact .inr around
  · rw [node?_putNode_of_ne new] at there
    refine .inl ?_
    split at there
    · exact there
    · rw [node?_stampParent] at there
      split at there
      · simpa using there
      · exact there

/-! ## Making directories -/

/-- A directory is made where there is nothing. -/
theorem keepsAll_putNode_directory (tree : fs.Tree) (around : fs.HasDirectory place.dropLast) (none_ : fs.node? place = none)
    (mode : Nat) (modified : Int) : KeepsAll fs (fs.putNode place (.directory mode modified)) := by
  have free (mode : Nat) (modified : Int) : fs.node? place ≠ some (.directory mode modified) := by simp [none_]
  refine ⟨tree_putNode tree around free _, keepsDirectories_putNode free _, fun here => ?_⟩
  by_cases same : here = place
  · subst same
    rw [fileAt?, node?_putNode, fileAt?, none_]
    rfl
  · exact fileAt?_putNode_of_ne around same _

theorem keepsAll_makeDirectories (tree : fs.Tree) (start : fs.HasDirectory place) (parts : List String) :
    KeepsAll fs (fs.makeDirectories place parts).1 := by
  induction parts generalizing fs place with
  | nil => exact .refl tree
  | cons part rest ih =>
    rw [makeDirectories]
    split
    · exact ih tree (tree.dropLast start)
    · split
      · exact .refl tree
      · dsimp only
        split
        · rename_i mode modified found
          exact ih tree ⟨mode, modified, found⟩
        · exact .refl tree
        · rename_i none_
          have made := keepsAll_putNode_directory tree (List.dropLast_concat ▸ start) none_
            directoryMode fs.clock
          exact made.trans (ih made.tree ⟨_, _, node?_putNode fs (place ++ [part]) _⟩)

/-- Making the directories of a path leaves what is there, whether it succeeds or not. -/
theorem keepsAll_createDirectories (tree : fs.Tree) (path : String) : KeepsAll fs (fs.createDirectories path).1 := by
  rw [createDirectories]
  split
  · exact .refl tree
  · split
    · exact .refl tree
    · split
      · exact .refl tree
      · exact keepsAll_makeDirectories tree tree.top _

/-! ## Replacing in one step -/

/-- Where a path of a directory and a name leads on, the directory is there, and any other name leads on as well. -/
theorem hasDirectory_of_resolve_join (plain : IsPlain name) (present : name ≠ "")
    (resolved : fs.resolve (Path.join dir name) = .ok place) : fs.HasDirectory (Path.place dir) ∧ IsFileName name ∧
      ∀ other, IsFileName other → fs.resolve (Path.join dir other) = .ok (Path.place dir ++ [other]) := by
  obtain rfl := place_of_resolve resolved
  have isName : IsFileName name := by
    refine named_of_resolve resolved name ?_
    rw [plain.place_join present]
    exact List.mem_append_right _ List.mem_cons_self
  obtain ⟨⟨legal, -, relative⟩, followed⟩ := resolve_eq_ok.1 resolved
  rw [plain.parts_join present, follow_append] at followed
  cases front : fs.follow [] (Path.parts dir) with
  | error fault =>
    rw [front] at followed
    cases followed
  | ok before =>
    obtain rfl := place_of_follow front
    rw [front] at followed
    have around : fs.HasDirectory (Path.place dir) := by
      change fs.follow (Path.place dir) [name] = _ at followed
      rw [follow] at followed
      split at followed
      · cases followed
      · cases followed
      · rename_i mode modified found
        exact ⟨mode, modified, found⟩
    refine ⟨around, isName, fun other isOther => resolve_eq_ok.2 ⟨⟨?_, ?_, ?_⟩, ?_⟩⟩
    · obtain ⟨slash, only, chars⟩ := Path.toList_join dir isName.relative
      obtain ⟨slash', only', chars'⟩ := Path.toList_join dir isOther.relative
      rw [chars] at legal
      rw [chars']
      rcases only' with rfl | rfl <;> simp_all [isOther.plain]
    · intro empty
      obtain ⟨slash, -, chars⟩ := Path.toList_join dir isOther.relative
      rw [empty] at chars
      simp [isOther.present] at chars
    · by_cases here : dir = ""
      · rw [here, isOther.join_empty]
        exact isOther.relative
      · rw [Path.isAbsolute_join here isOther.relative, ← Path.isAbsolute_join here isName.relative]
        exact relative
    · obtain ⟨mode, modified, found⟩ := around
      rw [isOther.parts_join, follow_append, front]
      exact follow_name found rfl isOther

/-- A file is replaced where a directory is for it and none is at its place. -/
theorem replaceFile_join_eq_ok_iff (isName : IsFileName name) {octets : ByteArray} {mode : Nat} :
    fs.replaceFile (Path.join dir name) octets mode = .ok fs' ↔
      (∃ place, fs.resolve (Path.join dir name) = .ok place) ∧
      (∀ mode modified, fs.node? (Path.place (Path.join dir name)) ≠ some (.directory mode modified)) ∧
      fs' = (fs.stampParent (Path.place (Path.join dir name))).putNode (Path.place (Path.join dir name))
        (.file octets mode fs.clock) := by
  rw [replaceFile, isName.wantsDirectory_join]
  cases resolved : fs.resolve (Path.join dir name) with
  | error fault => simp
  | ok place =>
    obtain rfl := place_of_resolve resolved
    dsimp only
    rw [if_neg (by simp)]
    split
    · rename_i found
      simp [found]
    · rename_i free
      rw [if_neg Bool.false_ne_true]
      exact ⟨fun same => ⟨⟨_, rfl⟩, free, (Except.ok.inj same).symm⟩, fun right => congrArg _ right.2.2.symm⟩

theorem resolve_of_replaceFile {octets : ByteArray} {mode : Nat} (replaced : fs.replaceFile path octets mode = .ok fs') :
    fs.resolve path = .ok (Path.place path) := by
  rw [replaceFile] at replaced
  split at replaced
  · cases replaced
  · rename_i resolved
    exact place_of_resolve resolved ▸ resolved

/-- Replacing a file leaves a tree, the directories and all other files. -/
theorem replaced_join (tree : fs.Tree) (plain : IsPlain name) (present : name ≠ "") {octets : ByteArray} {mode : Nat}
    (replaced : fs.replaceFile (Path.join dir name) octets mode = .ok fs') :
    fs'.Tree ∧ KeepsDirectories fs fs' ∧
      ∀ here, here ≠ Path.place (Path.join dir name) → fs'.fileAt? here = fs.fileAt? here := by
  obtain ⟨free, rfl⟩ := replaceFile_eq_ok replaced
  obtain ⟨around, -⟩ := hasDirectory_of_resolve_join plain present (resolve_of_replaceFile replaced)
  rw [plain.place_join present] at free ⊢
  have parent : (Path.place dir ++ [name]).dropLast = Path.place dir := List.dropLast_concat
  rw [← parent] at around
  have stamped := keepsAll_stampParent tree around
  have around' := stamped.directories.hasDirectory around
  have free' (mode : Nat) (modified : Int) : (fs.stampParent (Path.place dir ++ [name])).node? (Path.place dir ++ [name]) ≠
      some (.directory mode modified) := by
    intro found
    obtain ⟨modified', found'⟩ := stampParent_keepsDirectories fs _ _ _ _ found
    exact free mode modified' found'
  refine ⟨tree_putNode stamped.tree around' free' _, stamped.directories.trans (keepsDirectories_putNode free' _), ?_⟩
  intro here different
  exact (fileAt?_putNode_of_ne around' different _).trans (stamped.files here)

/-- The permissions of a file that is written are those of the file at its place, if there is one. -/
theorem savedMode_join (isName : IsFileName name) (resolved : fs.resolve (Path.join dir name) = .ok place)
    (free : ∀ mode modified, fs.node? place ≠ some (.directory mode modified)) :
    Document.savedMode fs (Path.join dir name) = ((fs.fileAt? place).map FileNode.mode).getD fileMode := by
  rw [Document.savedMode, modeAt, locate, resolved, isName.wantsDirectory_join, fileAt?]
  dsimp only
  cases found : fs.node? place with
  | none => rfl
  | some node =>
    cases node with
    | file octets mode modified => rfl
    | directory mode modified => exact absurd found (free mode modified)

/-! ## Replacing in several steps -/

/-- Gives the file at a path another path, in place of the file that is there. -/
def rename (fs : FileSystem) (source target : String) : Except FileFault FileSystem :=
  match fs.locate source with
  | .error fault => .error fault
  | .ok (_, .directory ..) => .error .isADirectory
  | .ok (origin, .file octets mode modified) =>
    match fs.resolve target with
    | .error fault => .error fault
    | .ok place =>
      if Path.wantsDirectory target then .error .notADirectory
      else match fs.node? place with
        | some (.directory ..) => .error .isADirectory
        | _ => .ok (((fs.dropNodes origin).stampParent place).putNode place (.file octets mode modified))

/-- Gives up with a fault, and takes out the file that was written meanwhile. -/
def discard (fs : FileSystem) (spare : String) (fault : FileFault) : FileSystem × Except FileFault Unit :=
  ((fs.removeFile spare).toOption.getD fs, .error fault)

/-- Replaces the file at a path by way of a spare file: this is made for its owner alone, gets the octets and the
permissions of the file that it is to replace, and is renamed. -/
def replaceBy (fs : FileSystem) (spare path : String) (octets : ByteArray) : FileSystem × Except FileFault Unit :=
  match fs.write spare .empty with
  | .error fault => (fs, .error fault)
  | .ok fs =>
    match fs.setMode spare temporaryMode with
    | .error fault => fs.discard spare fault
    | .ok fs =>
      match fs.write spare octets with
      | .error fault => fs.discard spare fault
      | .ok fs =>
        match fs.setMode spare (Document.savedMode fs path) with
        | .error fault => fs.discard spare fault
        | .ok fs =>
          match fs.rename spare path with
          | .error fault => fs.discard spare fault
          | .ok fs => (fs, .ok ())

/-- What is put twice at a place is put there once. -/
theorem putNode_putNode (fs : FileSystem) (place : Place) (first second : FileNode) :
    (fs.putNode place first).putNode place second = fs.putNode place second := by
  rw [putNode, node?_putNode]
  simp [putNode]

theorem clock_stampParent (fs : FileSystem) (place : Place) : (fs.stampParent place).clock = fs.clock := by
  rw [stampParent]
  split <;> rfl

theorem clock_putNode (fs : FileSystem) (place : Place) (node : FileNode) : (fs.putNode place node).clock = fs.clock := by
  rw [putNode]
  split
  · rfl
  · exact clock_stampParent fs place

/-- A directory that has the time of day is not stamped again. -/
theorem stampParent_of_dated (found : fs.node? place.dropLast = some node) (dated : node.withModified fs.clock = node) :
    fs.stampParent place = fs := by
  rw [stampParent, found]
  dsimp only
  rw [dated, Entries.put_of_get? found]

theorem stampParent_stampParent (fs : FileSystem) (place : Place) :
    (fs.stampParent place).stampParent place = fs.stampParent place := by
  cases found : fs.node? place.dropLast with
  | none =>
    have same : fs.stampParent place = fs := by rw [stampParent, found]
    rw [same, same]
  | some node =>
    have stamped : (fs.stampParent place).node? place.dropLast = some (node.withModified fs.clock) := by
      rw [node?_stampParent, if_pos rfl, found]
      rfl
    refine stampParent_of_dated stamped ?_
    rw [clock_stampParent, FileNode.withModified_withModified]

/-- Stamping looks at the directory around a place alone. -/
theorem stampParent_congr {other : Place} (same : other.dropLast = place.dropLast) :
    fs.stampParent other = fs.stampParent place := by
  rw [stampParent, stampParent, same]

section Spare

variable (tree : fs.Tree) (around : fs.HasDirectory here.dropLast) (none_ : fs.node? here = none)
include around none_

theorem ne_dropLast : here ≠ here.dropLast := by
  obtain ⟨mode, modified, found⟩ := around
  intro same
  rw [← same, none_] at found
  cases found

theorem putNode_of_none (node : FileNode) :
    fs.putNode here node = { fs.stampParent here with nodes := (fs.stampParent here).nodes ++ [(here, node)] } := by
  have fresh : here ∉ Entries.keys (fs.stampParent here).nodes := by
    rw [← Entries.get?_eq_none_iff, ← node?, node?_stampParent, if_neg (ne_dropLast around none_)]
    exact none_
  rw [putNode, none_, if_neg (by simp), Entries.put_of_not_mem fresh]

/-- The directory around is stamped where a node is put that was not there. -/
theorem stampParent_putNode (node : FileNode) : (fs.putNode here node).stampParent here = fs.putNode here node := by
  obtain ⟨mode, modified, found⟩ := around
  have stamped : (fs.putNode here node).node? here.dropLast = some (.directory mode fs.clock) := by
    rw [node?_putNode_of_ne (ne_dropLast ⟨mode, modified, found⟩ none_).symm, none_, if_neg (by simp), node?_stampParent,
      if_pos rfl, found]
    rfl
  refine stampParent_of_dated stamped ?_
  rw [clock_putNode]
  rfl

include tree in
/-- A node that was put where nothing was is taken out again. -/
theorem dropNodes_putNode (node : FileNode) : (fs.putNode here node).dropNodes here = fs.stampParent here := by
  have stamped := keepsAll_stampParent tree around
  have free : (fs.stampParent here).node? here = none := by
    rw [node?_stampParent, if_neg (ne_dropLast around none_), none_]
  have others : ∀ entry ∈ (fs.stampParent here).nodes, ¬ here <+: entry.1 := by
    intro entry member below
    have nothing := stamped.tree.node?_below free below
    exact Entries.get?_eq_none_iff.1 nothing (List.mem_map_of_mem member)
  have kept : (fs.stampParent here).nodes.filter (fun entry => ¬ here.isPrefixOf entry.1) = (fs.stampParent here).nodes :=
    List.filter_eq_self.2 fun entry member => by simpa using others entry member
  rw [dropNodes, stampParent_putNode around none_, putNode_of_none around none_]
  dsimp only
  rw [List.filter_append, kept, List.filter_cons_of_neg (by simp), List.filter_nil, List.append_nil]

variable {spare : String} (resolved : fs.resolve spare = .ok here) (wants : Path.wantsDirectory spare = false)
include resolved wants

omit around in
/-- A file that was put where a path leads is found by it. -/
theorem locate_putNode {octets : ByteArray} {mode : Nat} {modified : Int} :
    (fs.putNode here (.file octets mode modified)).locate spare = .ok (here, .file octets mode modified) := by
  have free (mode : Nat) (modified : Int) : fs.node? here ≠ some (.directory mode modified) := by simp [none_]
  refine locate_eq_ok.2 ⟨(keepsDirectories_putNode free _).resolve resolved, node?_putNode _ _ _, fun wanted => ?_⟩
  rw [wants] at wanted
  cases wanted

omit around in
theorem write_of_none (octets : ByteArray) :
    fs.write spare octets = .ok (fs.putNode here (.file octets fileMode fs.clock)) := by
  rw [write, resolved]
  dsimp only
  rw [none_, wants]
  rfl

omit around in
/-- The octets of a file that was put are written again. -/
theorem write_putNode (before octets : ByteArray) (mode : Nat) (modified : Int) :
    (fs.putNode here (.file before mode modified)).write spare octets =
      .ok (fs.putNode here (.file octets mode fs.clock)) := by
  have located : (fs.putNode here (.file before mode modified)).locate spare = .ok (here, .file before mode modified) :=
    locate_putNode none_ resolved wants
  obtain ⟨resolved', -, -⟩ := locate_eq_ok.1 located
  rw [write, resolved']
  dsimp only
  rw [node?_putNode]
  dsimp only
  rw [wants, clock_putNode, putNode_putNode]
  rfl

omit around in
/-- The permissions of a file that was put are set. -/
theorem setMode_putNode (octets : ByteArray) (before mode : Nat) (modified : Int) :
    (fs.putNode here (.file octets before modified)).setMode spare mode =
      .ok (fs.putNode here (.file octets mode modified)) := by
  rw [setMode, locate_putNode none_ resolved wants]
  simp [Except.map, FileNode.withMode, putNode]

include tree in
theorem discard_putNode (octets : ByteArray) (mode : Nat) (modified : Int) (fault : FileFault) :
    (fs.putNode here (.file octets mode modified)).discard spare fault = (fs.stampParent here, .error fault) := by
  rw [discard, removeFile, locate_putNode none_ resolved wants]
  dsimp only
  rw [dropNodes_putNode tree around none_]
  rfl

omit around in
/-- A spare file is written and given its permissions, and is then renamed. -/
theorem replaceBy_of_none (path : String) (octets : ByteArray) : fs.replaceBy spare path octets =
    match (fs.putNode here (.file octets
      (Document.savedMode (fs.putNode here (.file octets temporaryMode fs.clock)) path) fs.clock)).rename spare path with
    | .error fault => (fs.putNode here (.file octets
      (Document.savedMode (fs.putNode here (.file octets temporaryMode fs.clock)) path) fs.clock)).discard spare fault
    | .ok e => (e, .ok ()) := by
  rw [replaceBy, write_of_none none_ resolved wants]
  dsimp only
  rw [setMode_putNode none_ resolved wants]
  dsimp only
  rw [write_putNode none_ resolved wants]
  dsimp only
  rw [setMode_putNode none_ resolved wants]

end Spare

theorem exists_resolve_of_rename {source target : String} (renamed : fs.rename source target = .ok fs') :
    ∃ place, fs.resolve target = .ok place := by
  rw [rename] at renamed
  split at renamed
  · cases renamed
  · cases renamed
  · split at renamed
    · cases renamed
    · exact ⟨_, ‹_›⟩

/-- A directory is none of the files that are put. -/
theorem putNode_keepsDirectories (file : node.isDirectory = false) : KeepsDirectories (fs.putNode place node) fs := by
  intro here mode modified found
  by_cases same : here = place
  · subst same
    rw [node?_putNode] at found
    obtain rfl := Option.some.inj found
    cases file
  · rw [node?_putNode_of_ne same] at found
    split at found
    · exact ⟨modified, found⟩
    · exact stampParent_keepsDirectories fs place here mode modified found

/-- Renaming the file that was put comes to replacing the other one. -/
theorem rename_putNode_eq_ok_iff (tree : fs.Tree) (around : fs.HasDirectory here.dropLast) (none_ : fs.node? here = none)
    {spare : String} (resolved : fs.resolve spare = .ok here) (wants : Path.wantsDirectory spare = false)
    (isName : IsFileName name) (beside : (Path.place (Path.join dir name)).dropLast = here.dropLast) {octets : ByteArray}
    {mode : Nat} :
    (fs.putNode here (.file octets mode fs.clock)).rename spare (Path.join dir name) = .ok fs' ↔
      fs.replaceFile (Path.join dir name) octets mode = .ok fs' := by
  have free (mode : Nat) (modified : Int) : fs.node? here ≠ some (.directory mode modified) := by simp [none_]
  have kept := keepsDirectories_putNode free (.file octets mode fs.clock)
  have kept' : KeepsDirectories (fs.putNode here (.file octets mode fs.clock)) fs := putNode_keepsDirectories rfl
  have alike : fs.stampParent (Path.place (Path.join dir name)) = fs.stampParent here := stampParent_congr beside
  have back : ((fs.putNode here (.file octets mode fs.clock)).dropNodes here).stampParent (Path.place (Path.join dir name)) =
      fs.stampParent (Path.place (Path.join dir name)) := by
    rw [dropNodes_putNode tree around none_, ← alike, stampParent_stampParent]
  have leads (there : Place) : (fs.putNode here (.file octets mode fs.clock)).resolve (Path.join dir name) = .ok there ↔
      fs.resolve (Path.join dir name) = .ok there := ⟨kept'.resolve, kept.resolve⟩
  rw [replaceFile_join_eq_ok_iff isName, rename, locate_putNode none_ resolved wants, isName.wantsDirectory_join]
  dsimp only
  cases target : (fs.putNode here (.file octets mode fs.clock)).resolve (Path.join dir name) with
  | error fault =>
    refine ⟨nofun, ?_⟩
    rintro ⟨⟨there, known⟩, -⟩
    rw [(leads there).2 known] at target
    cases target
  | ok there =>
    obtain rfl := place_of_resolve target
    dsimp only
    rw [if_neg Bool.false_ne_true]
    split
    · rename_i found
      obtain ⟨modified', found'⟩ := kept' _ _ _ found
      exact ⟨nofun, fun right => absurd found' (right.2.1 _ _)⟩
    · rename_i empty
      rw [back]
      refine ⟨fun same => ⟨⟨_, (leads _).1 target⟩, fun mode' modified found => ?_, (Except.ok.inj same).symm⟩,
        fun right => congrArg _ right.2.2.symm⟩
      obtain ⟨modified', found'⟩ := kept _ _ _ found
      exact empty _ _ found'

/-- The permissions of the file that is to be replaced are the same while the spare file is there. -/
theorem savedMode_putNode (around : fs.HasDirectory here.dropLast) (none_ : fs.node? here = none) (isName : IsFileName name)
    {octets replacing : ByteArray} {mode mode' : Nat} {modified : Int} (different : Path.place (Path.join dir name) ≠ here)
    (possible : fs.replaceFile (Path.join dir name) replacing mode' = .ok fs') :
    Document.savedMode (fs.putNode here (.file octets mode modified)) (Path.join dir name) =
      Document.savedMode fs (Path.join dir name) := by
  obtain ⟨-, free, -⟩ := (replaceFile_join_eq_ok_iff isName).1 possible
  have leads := resolve_of_replaceFile possible
  have spareFree (mode : Nat) (modified : Int) : fs.node? here ≠ some (.directory mode modified) := by simp [none_]
  have kept := keepsDirectories_putNode spareFree (.file octets mode modified)
  have kept' : KeepsDirectories (fs.putNode here (.file octets mode modified)) fs := putNode_keepsDirectories rfl
  have free' (mode' : Nat) (modified' : Int) :
      (fs.putNode here (.file octets mode modified)).node? (Path.place (Path.join dir name)) ≠
        some (.directory mode' modified') := by
    intro found
    obtain ⟨modified', found'⟩ := kept' _ _ _ found
    exact free _ _ found'
  rw [savedMode_join isName (kept.resolve leads) free', savedMode_join isName leads free,
    fileAt?_putNode_of_ne around different]

/-- Replacing a file by way of a spare one comes to the same as to replace it in one step, and where that is not
possible, no file is there but those that were. -/
theorem replaceBy_join (tree : fs.Tree) (plain : IsPlain name) (present : name ≠ "") {spare : String} (isName : IsFileName spare)
    (different : name ≠ spare) (none_ : fs.node? (Path.place dir ++ [spare]) = none) (octets : ByteArray) :
    (∀ e, fs.replaceFile (Path.join dir name) octets (Document.savedMode fs (Path.join dir name)) = .ok e →
      fs.replaceBy (Path.join dir spare) (Path.join dir name) octets = (e, .ok ())) ∧
    ∀ fault, fs.replaceFile (Path.join dir name) octets (Document.savedMode fs (Path.join dir name)) = .error fault →
      ∃ e fault', fs.replaceBy (Path.join dir spare) (Path.join dir name) octets = (e, .error fault') ∧
        ∀ here, e.fileAt? here = fs.fileAt? here := by
  have place := plain.place_join present dir
  have sparePlace := isName.isPlain.place_join isName.present dir
  have beside : (Path.place (Path.join dir name)).dropLast = (Path.place dir ++ [spare]).dropLast := by simp [place]
  have apart : Path.place (Path.join dir name) ≠ Path.place dir ++ [spare] := by simpa [place] using different
  have wants := isName.wantsDirectory_join dir
  cases leads : fs.resolve (Path.join dir spare) with
  | error fault =>
    refine ⟨fun e replaced => ?_, fun _ _ => ⟨fs, fault, ?_, fun _ => rfl⟩⟩
    · have possible := (hasDirectory_of_resolve_join plain present (resolve_of_replaceFile replaced)).2.2 spare isName
      rw [possible] at leads
      cases leads
    · rw [replaceBy, write, leads]
  | ok there =>
    obtain ⟨parent, -⟩ := hasDirectory_of_resolve_join isName.isPlain isName.present leads
    obtain rfl := (place_of_resolve leads).trans sparePlace
    have around : fs.HasDirectory (Path.place dir ++ [spare]).dropLast := by rwa [List.dropLast_concat]
    rw [replaceBy_of_none none_ leads wants]
    constructor
    · intro e replaced
      obtain ⟨-, isTarget, -⟩ := hasDirectory_of_resolve_join plain present (resolve_of_replaceFile replaced)
      rw [savedMode_putNode around none_ isTarget apart replaced,
        (rename_putNode_eq_ok_iff tree around none_ leads wants isTarget beside).2 replaced]
    · intro fault impossible
      split
      · rename_i fault' _
        refine ⟨_, fault', discard_putNode tree around none_ leads wants _ _ _ _, ?_⟩
        exact fileAt?_stampParent around
      · rename_i e renamed
        obtain ⟨there, leadsTarget⟩ := exists_resolve_of_rename renamed
        have isTarget : IsFileName name := by
          refine named_of_resolve leadsTarget name ?_
          rw [place_of_resolve leadsTarget, place]
          exact List.mem_append_right _ List.mem_cons_self
        have replaced := (rename_putNode_eq_ok_iff tree around none_ leads wants isTarget beside).1 renamed
        obtain ⟨resolved, free, -⟩ := (replaceFile_join_eq_ok_iff isTarget).1 replaced
        rw [(replaceFile_join_eq_ok_iff isTarget).2 ⟨resolved, free, rfl⟩] at impossible
        cases impossible

end EditorBundles.FileSystem
