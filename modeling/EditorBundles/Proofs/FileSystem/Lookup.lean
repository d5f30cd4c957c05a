import EditorBundles.Proofs.FileSystem.Path

/-!
# Looking up paths

In a regular file system each place has one node, and the parts of places are names. Whatever a directory lists
is found at the path that its name makes with that of the directory.
-/

namespace EditorBundles.FileSystem
set_option autoImplicit false

/-- Each place has one node, and the parts of places are names. -/
structure Regular (fs : FileSystem) : Prop where
  single : (Entries.keys fs.nodes).Nodup
  named : ∀ place ∈ Entries.keys fs.nodes, ∀ name ∈ place, IsFileName name

variable {fs : FileSystem} {place : Place} {node : FileNode} {dir path name : String}

/-- The parts of a path are followed one after the other. -/
theorem follow_append (fs : FileSystem) (place : Place) (front back : List String) :
    fs.follow place (front ++ back) = (fs.follow place front).bind fun place => fs.follow place back := by
  induction front generalizing place with
  | nil => rfl
  | cons part front ih =>
    rw [List.cons_append, follow, follow]
    split
    · rfl
    · rfl
    · split
      · exact ih _
      · split
        · rfl
        · exact ih _

/-- A name leads from a directory to what is called by it there. -/
theorem follow_name (found : fs.node? place = some node) (directory : node.isDirectory = true) (h : IsFileName name) :
    fs.follow place [name] = .ok (place ++ [name]) := by
  cases node with
  | file octets mode modified => cases directory
  | directory mode modified =>
    have short := Nat.not_lt.2 h.short
    simp [follow, found, h.down, short]

/-- A name at the end of a path is the last part of the place that the path leads to. -/
theorem getLast?_follow {parts : List String} (h : IsFileName name) (followed : fs.follow [] (parts ++ [name]) = .ok place) :
    place.getLast? = some name := by
  rw [follow_append] at followed
  cases front : fs.follow [] parts with
  | error fault =>
    rw [front] at followed
    cases followed
  | ok before =>
    rw [front] at followed
    change fs.follow before [name] = .ok place at followed
    rw [follow] at followed
    split at followed
    · cases followed
    · cases followed
    · rw [if_neg h.down.2, if_neg (Nat.not_lt.2 h.short)] at followed
      obtain rfl := Except.ok.inj followed
      simp

theorem resolve_eq_ok : fs.resolve path = .ok place ↔
    ('\x00' ∉ path.toList ∧ path ≠ "" ∧ Path.isAbsolute path = false) ∧ fs.follow [] (Path.parts path) = .ok place := by
  rw [resolve, String.contains_char_eq]
  by_cases plain : '\x00' ∈ path.toList
  · simp [plain]
  · by_cases empty : path = ""
    · simp [empty]
    · cases absolute : Path.isAbsolute path <;> simp [plain, empty]

theorem locate_eq_ok : fs.locate path = .ok (place, node) ↔
    fs.resolve path = .ok place ∧ fs.node? place = some node ∧
      (Path.wantsDirectory path = true → node.isDirectory = true) := by
  rw [locate]
  cases fs.resolve path with
  | error fault => simp
  | ok there =>
    simp only [Except.ok.injEq]
    constructor
    · intro located
      split at located
      · cases located
      · rename_i found
        split at located
        · cases located
        · rename_i right
          obtain ⟨rfl, rfl⟩ := Prod.mk.inj (Except.ok.inj located)
          refine ⟨rfl, found, fun wants => ?_⟩
          simpa [wants] using right
    · rintro ⟨rfl, found, right⟩
      rw [found]
      dsimp only
      rw [if_neg]
      intro wrong
      rw [Bool.and_eq_true, Bool.not_eq_true'] at wrong
      rw [right wrong.1] at wrong
      exact Bool.noConfusion wrong.2

/-- A name leads on from the directory that a path leads to. -/
theorem resolve_join (located : fs.locate dir = .ok (place, node)) (directory : node.isDirectory = true) (h : IsFileName name) :
    fs.resolve (Path.join dir name) = .ok (place ++ [name]) := by
  obtain ⟨resolved, found, -⟩ := locate_eq_ok.1 located
  obtain ⟨⟨plain, present, relative⟩, followed⟩ := resolve_eq_ok.1 resolved
  obtain ⟨slash, only, chars⟩ := Path.toList_join dir h.relative
  refine resolve_eq_ok.2 ⟨⟨?_, ?_, ?_⟩, ?_⟩
  · rw [chars]
    rcases only with rfl | rfl <;> simp [plain, h.plain]
  · rintro empty
    rw [empty] at chars
    exact present (String.toList_eq_nil_iff.1 (List.append_eq_nil_iff.1 chars.symm).1)
  · rw [Path.isAbsolute_join present h.relative]
    exact relative
  · rw [h.parts_join, follow_append, followed]
    exact follow_name found directory h

/-! ## Listings -/

theorem mem_childrenAt : (name, node) ∈ fs.childrenAt place ↔ (place ++ [name], node) ∈ fs.nodes := by
  rw [childrenAt, List.mem_filterMap]
  constructor
  · rintro ⟨⟨there, found⟩, member, listed⟩
    dsimp only at listed
    split at listed
    · rename_i last
      split at listed
      · rename_i front
        obtain ⟨rfl, rfl⟩ := Prod.mk.inj (Option.some.inj listed)
        rwa [← front, List.dropLast_append_getLast? _ last]
      · cases listed
    · cases listed
  · intro member
    exact ⟨(place ++ [name], node), member, by simp⟩

theorem children_eq (located : fs.locate dir = .ok (place, node)) (directory : node.isDirectory = true) :
    fs.children dir = fs.childrenAt place := by
  cases node with
  | file octets mode modified => cases directory
  | directory mode modified => rw [children, located]

theorem Regular.node?_of_mem (h : fs.Regular) (member : (place, node) ∈ fs.nodes) : fs.node? place = some node :=
  Entries.get?_of_mem h.single member

/-- What a directory lists is found by its name. -/
theorem Regular.locate_child (h : fs.Regular) {child : FileNode} (located : fs.locate dir = .ok (place, node))
    (directory : node.isDirectory = true) (listed : (name, child) ∈ fs.children dir) :
    IsFileName name ∧ fs.locate (Path.join dir name) = .ok (place ++ [name], child) := by
  rw [children_eq located directory, mem_childrenAt] at listed
  have isName : IsFileName name := h.named _ (List.mem_map_of_mem listed) name (by simp)
  refine ⟨isName, locate_eq_ok.2 ⟨resolve_join located directory isName, h.node?_of_mem listed, ?_⟩⟩
  rw [isName.wantsDirectory_join]
  intro wants
  exact Bool.noConfusion wants

/-! ## Making directories -/

/-- A path that leads on starts at a directory. -/
theorem isDirectory_of_follow {start : Place} {parts : List String} (followed : fs.follow start parts = .ok place)
    (found : fs.node? place = some node) (directory : node.isDirectory = true) :
    ∃ mode modified, fs.node? start = some (.directory mode modified) := by
  cases parts with
  | nil =>
    obtain rfl := Except.ok.inj followed
    cases node with
    | file octets mode modified => cases directory
    | directory mode modified => exact ⟨mode, modified, found⟩
  | cons part rest =>
    rw [follow] at followed
    split at followed
    · cases followed
    · cases followed
    · rename_i mode modified there
      exact ⟨mode, modified, there⟩

/-- Nothing has to be made where there is a directory. -/
theorem makeDirectories_of_follow {start : Place} {parts : List String} (followed : fs.follow start parts = .ok place)
    (found : fs.node? place = some node) (directory : node.isDirectory = true) :
    fs.makeDirectories start parts = (fs, .ok ()) := by
  induction parts generalizing start with
  | nil => rfl
  | cons part rest ih =>
    obtain ⟨mode, modified, there⟩ := isDirectory_of_follow followed found directory
    rw [follow, there] at followed
    dsimp only at followed
    rw [makeDirectories]
    split at followed
    · rename_i up
      rw [if_pos up]
      exact ih followed
    · rename_i down
      rw [if_neg down]
      split at followed
      · cases followed
      · rename_i short
        obtain ⟨mode, modified, next⟩ := isDirectory_of_follow followed found directory
        rw [if_neg short]
        dsimp only
        rw [next]
        exact ih followed

theorem createDirectories_of_locate (located : fs.locate path = .ok (place, node)) (directory : node.isDirectory = true) :
    fs.createDirectories path = (fs, .ok ()) := by
  obtain ⟨resolved, found, -⟩ := locate_eq_ok.1 located
  obtain ⟨⟨plain, present, relative⟩, followed⟩ := resolve_eq_ok.1 resolved
  have known : path.contains '\x00' = false := by simpa [String.contains_char_eq] using plain
  rw [createDirectories, String.isEmpty_eq_false_iff.2 present, known, relative]
  exact makeDirectories_of_follow followed found directory

end EditorBundles.FileSystem
