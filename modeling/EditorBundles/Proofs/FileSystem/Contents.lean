import EditorBundles.Proofs.FileSystem.Replacing

/-!
# What is at a place

A place holds a directory, or a file with octets, or nothing; permissions and times apart, this is what an operation leaves
for others to find. An operation that succeeds says of every place what it holds afterwards: a path that was made has a
directory at each place that it passes, a copy has the octets of its source, and all else is as it was.
-/

namespace EditorBundles
set_option autoImplicit false
open EditorBundles.Path (IsPlain)

/-- What a node holds. -/
inductive FileContent where
  | directory
  | file (octets : ByteArray)

/-- The octets of a file, or that there is a directory. -/
def FileNode.content : FileNode → FileContent
  | .file octets _ _ => .file octets
  | .directory .. => .directory

@[simp] theorem FileNode.content_withModified (node : FileNode) (modified : Int) :
    (node.withModified modified).content = node.content := by
  cases node <;> rfl

namespace FileSystem

variable {fs fs' : FileSystem} {here place : Place} {path dir name : String} {octets : ByteArray}

/-- What is at a place, permissions and times apart. -/
def contentAt? (fs : FileSystem) (here : Place) : Option FileContent := (fs.node? here).map FileNode.content

theorem contentAt?_eq_directory_iff : fs.contentAt? here = some .directory ↔ fs.HasDirectory here := by
  constructor
  · intro content
    obtain ⟨node, found, same⟩ := Option.map_eq_some_iff.1 content
    cases node with
    | file octets mode modified => cases same
    | directory mode modified => exact ⟨mode, modified, found⟩
  · rintro ⟨mode, modified, found⟩
    rw [contentAt?, found]
    rfl

theorem contentAt?_eq_file_iff : fs.contentAt? here = some (.file octets) ↔
    ∃ mode modified, fs.node? here = some (.file octets mode modified) := by
  constructor
  · intro content
    obtain ⟨node, found, same⟩ := Option.map_eq_some_iff.1 content
    cases node with
    | file octets mode modified =>
      cases same
      exact ⟨mode, modified, found⟩
    | directory mode modified => cases same
  · rintro ⟨mode, modified, found⟩
    rw [contentAt?, found]
    rfl

theorem contentAt?_eq_none_iff : fs.contentAt? here = none ↔ fs.node? here = none := Option.map_eq_none_iff

/-- Around whatever is below a place there are directories, up to that place. -/
theorem Tree.directory_of_prefix (tree : fs.Tree) {inner : Place} (there : fs.contentAt? inner ≠ none)
    (above : here <+: inner) (strictly : here ≠ inner) : fs.contentAt? here = some .directory := by
  obtain ⟨names, rfl⟩ := above
  induction names using List.reverseRecOn with
  | nil => exact absurd (List.append_nil here).symm strictly
  | append_singleton names name ih =>
    rw [← List.append_assoc] at there
    have around := contentAt?_eq_directory_iff.2 (tree.around _ name
      (Option.isSome_iff_ne_none.2 (mt contentAt?_eq_none_iff.2 there)))
    by_cases last : names = []
    · rwa [last, List.append_nil] at around
    · exact ih (by simp [around]) (by simp [last])

/-! ## Paths to directories -/

/-- Parts lead to a directory where none of them is too long and there are directories at all places that they pass. -/
theorem follow_directory_iff {start : Place} {parts : List String} :
    fs.follow start parts = .ok (parts.foldl Path.step start) ∧ fs.HasDirectory (parts.foldl Path.step start) ↔
      (∀ part ∈ parts, part ≠ ".." → part.utf8ByteSize ≤ longestName) ∧
        ∀ front, front <+: parts → fs.HasDirectory (front.foldl Path.step start) := by
  induction parts generalizing start with
  | nil => simp [follow]
  | cons part rest ih =>
    have prefixes (P : List String → Prop) : (∀ front, front <+: part :: rest → P front) ↔
        P [] ∧ ∀ front, front <+: rest → P (part :: front) := by
      simp only [List.prefix_cons_iff]
      exact ⟨fun all => ⟨all [] (.inl rfl), fun front within => all _ (.inr ⟨front, rfl, within⟩)⟩,
        fun all front => by rintro (rfl | ⟨front, rfl, within⟩); exacts [all.1, all.2 front within]⟩
    rw [prefixes, List.forall_mem_cons, List.foldl_cons, follow]
    simp only [List.foldl_nil, List.foldl_cons]
    by_cases directory : fs.HasDirectory start
    · obtain ⟨mode, modified, found⟩ := id directory
      rw [found]
      dsimp only
      split
      · rename_i up
        subst up
        rw [show Path.step start ".." = start.dropLast from if_pos rfl, ih]
        simp [directory]
      · rename_i down
        rw [Path.step, if_neg down]
        split
        · rename_i long
          simp [Nat.not_le.2 long, down]
        · rename_i short
          rw [ih]
          simp [directory, Nat.not_lt.1 short]
    · refine ⟨fun leads => ?_, fun all => absurd all.2.1 directory⟩
      split at leads
      · cases leads.1
      · cases leads.1
      · rename_i found
        exact absurd ⟨_, _, found⟩ directory

theorem isDirectory_iff_passes : fs.isDirectory path = true ↔
    (('\x00' ∉ path.toList ∧ path ≠ "" ∧ Path.isAbsolute path = false) ∧
      ∀ part ∈ Path.parts path, part ≠ ".." → part.utf8ByteSize ≤ longestName) ∧
        ∀ here, Path.Passes path here → fs.HasDirectory here := by
  have passing : (∀ here, Path.Passes path here → fs.HasDirectory here) ↔
      ∀ front, front <+: Path.parts path → fs.HasDirectory (front.foldl Path.step []) :=
    ⟨fun all front sooner => all _ ⟨front, sooner, rfl⟩, by rintro all _ ⟨front, sooner, rfl⟩; exact all front sooner⟩
  rw [passing, and_assoc, ← follow_directory_iff, isDirectory_iff]
  constructor
  · rintro ⟨place, mode, modified, located⟩
    obtain ⟨resolved, found, -⟩ := locate_eq_ok.1 located
    obtain ⟨legal, followed⟩ := resolve_eq_ok.1 resolved
    obtain rfl := place_of_follow followed
    exact ⟨legal, followed, mode, modified, found⟩
  · rintro ⟨legal, followed, mode, modified, found⟩
    exact ⟨_, mode, modified, locate_eq_ok.2 ⟨resolve_eq_ok.2 ⟨legal, followed⟩, found, fun _ => rfl⟩⟩

/-- A path to a place where nothing is leads to no directory. -/
theorem isDirectory_eq_false (none_ : fs.node? (Path.place path) = none) : fs.isDirectory path = false := by
  rw [Bool.eq_false_iff, Ne, isDirectory_iff_passes]
  rintro ⟨-, all⟩
  obtain ⟨mode, modified, found⟩ := all _ (Path.passes_place path)
  rw [none_] at found
  cases found

theorem exists_contentAt?_of_isFile (there : fs.isFile path = true) :
    ∃ octets, fs.contentAt? (Path.place path) = some (.file octets) := by
  rw [isFile] at there
  split at there
  · rename_i place node located
    cases node with
    | directory mode modified => cases there
    | file octets mode modified =>
      obtain rfl := place_of_locate located
      exact ⟨octets, contentAt?_eq_file_iff.2 ⟨mode, modified, (locate_eq_ok.1 located).2.1⟩⟩
  · cases there

/-! ## Single changes -/

@[simp] theorem contentAt?_stampParent (fs : FileSystem) (place here : Place) :
    (fs.stampParent place).contentAt? here = fs.contentAt? here := by
  rw [contentAt?, node?_stampParent, contentAt?]
  split
  · cases fs.node? here <;> simp
  · rfl

/-- A node is put at a place, and all else stays. -/
theorem contentAt?_putNode (fs : FileSystem) (place : Place) (node : FileNode) (here : Place) :
    (fs.putNode place node).contentAt? here = if here = place then some node.content else fs.contentAt? here := by
  split
  · rename_i same
    rw [same, contentAt?, node?_putNode]
    rfl
  · rename_i different
    rw [contentAt?, node?_putNode_of_ne different]
    split
    · rfl
    · exact contentAt?_stampParent fs place here

/-- Where no operation is allowed, there is what was there. -/
theorem TouchesOnly.contentAt?_eq {W : Place → Prop} (h : TouchesOnly (.at W) fs fs') (outside : ¬W here) :
    fs'.contentAt? here = fs.contentAt? here := by
  rw [contentAt?, contentAt?]
  rcases h here with same | ⟨fate, granted, meets⟩
  · rw [same]
  · cases fate with
    | gone => exact absurd granted outside
    | file => exact absurd granted outside
    | directory => exact absurd granted outside
    | dated =>
      generalize fs.node? here = before, fs'.node? here = after at meets
      cases meets
      cases before <;> simp

/-! ## Making directories -/

/-- What is made for a path that leads to a place, here or in other files, is what its parts ask for. -/
theorem createDirectories_eq {place : Place} (resolved : fs'.resolve path = .ok place) :
    fs.createDirectories path = fs.makeDirectories [] (Path.parts path) := by
  obtain ⟨⟨plain, present, relative⟩, -⟩ := resolve_eq_ok.1 resolved
  have known : path.contains '\x00' = false := by simpa [String.contains_char_eq] using plain
  rw [createDirectories, String.isEmpty_eq_false_iff.2 present, known, relative]
  rfl

theorem HasDirectory.makeDirectories {parts : List String} {result : Except FileFault Unit} (start : fs.HasDirectory place)
    (tree : fs.Tree) (made : fs.makeDirectories place parts = (fs', result)) : fs'.HasDirectory place := by
  have kept := (keepsAll_makeDirectories tree start parts).directories
  rw [made] at kept
  exact kept.hasDirectory start

/-- Where all parts led on or were made, each of them led to a directory. -/
theorem hasDirectory_of_makeDirectories {parts : List String} (tree : fs.Tree) (start : fs.HasDirectory place)
    (made : fs.makeDirectories place parts = (fs', .ok ())) {front : List String} (sooner : front <+: parts) :
    fs'.HasDirectory (front.foldl Path.step place) := by
  induction parts generalizing fs place front with
  | nil => exact List.prefix_nil.1 sooner ▸ start.makeDirectories tree made
  | cons part rest ih =>
    cases front with
    | nil => exact start.makeDirectories tree made
    | cons first front =>
      obtain ⟨rfl, within⟩ := List.cons_prefix_cons.1 sooner
      rw [List.foldl_cons, Path.step]
      rw [FileSystem.makeDirectories] at made
      split at made
      · rename_i up
        rw [if_pos up]
        exact ih tree (tree.dropLast start) made within
      · rename_i down
        rw [if_neg down]
        split at made
        · cases made
        · dsimp only at made
          split at made
          · rename_i mode modified found
            exact ih tree ⟨mode, modified, found⟩ made within
          · cases made
          · rename_i none_
            have put := keepsAll_putNode_directory tree (List.dropLast_concat ▸ start) none_ directoryMode fs.clock
            exact ih put.tree ⟨_, _, node?_putNode _ _ _⟩ made within

/-- Where the directories of a path were made, there is one at every place that it passes, and all else stays. -/
theorem contentAt?_createDirectories (tree : fs.Tree) (made : fs.createDirectories path = (fs', .ok ())) :
    (∀ here, Path.Passes path here → fs'.contentAt? here = some .directory) ∧
      ∀ here, ¬Path.Passes path here → fs'.contentAt? here = fs.contentAt? here := by
  have touched : TouchesOnly (.at (Path.Passes path)) fs (fs.createDirectories path).1 :=
    touchesOnly_createDirectories_at fun _ passed => passed
  rw [made] at touched
  refine ⟨fun here passed => contentAt?_eq_directory_iff.2 ?_, fun here outside => touched.contentAt?_eq outside⟩
  obtain ⟨front, sooner, rfl⟩ := passed
  rw [createDirectories] at made
  split at made
  · rename_i empty
    obtain rfl := (Prod.mk.inj made).1
    rw [String.isEmpty_iff.1 empty, Path.parts_empty] at sooner
    rw [List.prefix_nil.1 sooner]
    exact tree.top
  · split at made
    · cases made
    · split at made
      · cases made
      · exact hasDirectory_of_makeDirectories tree tree.top made sooner

/-- Making directories removes nothing and overwrites nothing. -/
theorem contentAt?_createDirectories_of_some (tree : fs.Tree) (made : fs.createDirectories path = (fs', .ok ()))
    {content : FileContent} (there : fs.contentAt? here = some content) : fs'.contentAt? here = some content := by
  have kept := keepsAll_createDirectories tree path
  rw [made] at kept
  cases content with
  | directory =>
    rw [contentAt?_eq_directory_iff] at there ⊢
    exact kept.directories.hasDirectory there
  | file octets =>
    rw [contentAt?_eq_file_iff] at there ⊢
    obtain ⟨mode, modified, found⟩ := there
    refine ⟨mode, modified, ?_⟩
    have same : fs'.fileAt? here = some (.file octets mode modified) := (kept.files here).trans (by rw [fileAt?, found]; rfl)
    exact (Option.filter_eq_some_iff.1 same).1

/-! ## Copying files -/

/-- A copy has the octets of the file that its source leads to, unless it is a copy onto itself; all else stays. -/
theorem contentAt?_copyFile {source target : String} (copied : fs.copyFile source target = .ok fs')
    (apart : Path.place source ≠ Path.place target) :
    ∃ octets, fs.contentAt? (Path.place source) = some (.file octets) ∧
      ∀ here, fs'.contentAt? here = if here = Path.place target then some (.file octets) else fs.contentAt? here := by
  rw [copyFile] at copied
  split at copied
  · cases copied
  · cases copied
  · rename_i origin octets mode modified located
    obtain rfl := place_of_locate located
    refine ⟨octets, contentAt?_eq_file_iff.2 ⟨mode, modified, (locate_eq_ok.1 located).2.1⟩, fun here => ?_⟩
    split at copied
    · cases copied
    · rename_i place resolved
      obtain rfl := place_of_resolve resolved
      split at copied
      · cases copied
      · split at copied
        · cases copied
        · obtain rfl := Except.ok.inj copied
          rw [if_neg (Ne.symm apart), contentAt?_putNode]
          rfl
      · split at copied
        · cases copied
        · obtain rfl := Except.ok.inj copied
          rw [contentAt?_putNode]
          rfl

/-- A file is copied to a name in a directory where nothing has that name. -/
theorem copyFile_join {source : String} {origin : Place} {mode : Nat} {modified : Int} {node : FileNode}
    (located : fs.locate source = .ok (origin, .file octets mode modified)) (around : fs.locate dir = .ok (place, node))
    (directory : node.isDirectory = true) (isName : IsFileName name) (free : fs.node? (place ++ [name]) = none) :
    fs.copyFile source (Path.join dir name) = .ok (fs.putNode (place ++ [name]) (.file octets mode fs.clock)) := by
  rw [copyFile, located]
  dsimp only
  rw [resolve_join around directory isName]
  dsimp only
  rw [free, isName.wantsDirectory_join]
  rfl

/-- A tree stays one where a file is copied to a name in a directory. -/
theorem tree_copyFile (tree : fs.Tree) (plain : IsPlain name) (present : name ≠ "") {source : String}
    (copied : fs.copyFile source (Path.join dir name) = .ok fs') : fs'.Tree := by
  have free : ∀ mode modified, fs.node? (Path.place (Path.join dir name)) ≠ some (.directory mode modified) := by
    intro mode modified found
    rw [copyFile] at copied
    split at copied
    · cases copied
    · cases copied
    · split at copied
      · cases copied
      · rename_i place resolved
        obtain rfl := place_of_resolve resolved
        rw [found] at copied
        cases copied
  obtain ⟨place, octets, mode, resolved, rfl⟩ := copyFile_eq_ok copied
  obtain ⟨around, -⟩ := hasDirectory_of_resolve_join plain present resolved
  obtain rfl := place_of_resolve resolved
  rw [plain.place_join present] at free ⊢
  refine tree_putNode tree ?_ free _
  rwa [List.dropLast_concat]

end FileSystem

end EditorBundles
