import EditorBundles.Catalog.Export
import EditorBundles.Proofs.Catalog.PlainNames
import EditorBundles.Proofs.Catalog.ScanAlike
import EditorBundles.Proofs.FileSystem.Copying

/-!
# Exported items

An export has a layout: the manifest, a directory for each kind with the files that were copied there, and the support files.
The files of a kind come from the directories of the user and of the factory but go into one directory, and of those that share
a name only the last one is left there. Every step of an export changes the layout at the place that it writes to.
-/

namespace EditorBundles.Catalog
set_option autoImplicit false
open EditorBundles.Path (IsPlain)
open EditorBundles.FileSystem (Direct)

/-! ## The layout of an export -/

/-- What was exported: the manifest, for each kind that has a directory the files that were copied there one after the other,
and what is below the directory of the support files. -/
structure Export where
  manifest : Option ByteArray := none
  items : PerKind (Option (List (String × ByteArray))) := .replicate none
  support : Place → Option FileContent := fun _ => none

namespace Export

/-- What is at a place in the directory of a kind. Of the files that were copied to one name the last one is there. -/
def itemAt? (copied : Option (List (String × ByteArray))) : Place → Option FileContent
  | [] => copied.map fun _ => .directory
  | [name] => copied.bind fun files => (Entries.get? files.reverse name).map .file
  | _ => none

/-- What is at a place below the target. -/
def contentAt? (e : Export) : Place → Option FileContent
  | [] => some .directory
  | first :: inner =>
    match ItemKind.ofDirName? first with
    | some kind => itemAt? (e.items.get kind) inner
    | none =>
      if first = supportName then e.support inner
      else if first = manifestName ∧ inner = [] then e.manifest.map .file
      else none

variable {e : Export} {kind : ItemKind} {files : List (String × ByteArray)} {name : String} {octets : ByteArray}

@[simp] theorem contentAt?_nil (e : Export) : e.contentAt? [] = some .directory := rfl

@[simp] theorem contentAt?_kind (e : Export) (kind : ItemKind) (inner : Place) :
    e.contentAt? (kind.dirName :: inner) = itemAt? (e.items.get kind) inner := by
  rw [contentAt?, ItemKind.ofDirName?_dirName]

@[simp] theorem contentAt?_support (e : Export) (inner : Place) : e.contentAt? (supportName :: inner) = e.support inner := rfl

theorem dirName_of_ofDirName? {first : String} (known : ItemKind.ofDirName? first = some kind) : kind.dirName = first := by
  simpa using List.find?_some known

/-- Nothing but the directory of the target is there in the beginning. -/
theorem contentAt?_empty (inner : Place) : ({} : Export).contentAt? inner = if inner = [] then some .directory else none := by
  cases inner with
  | nil => rfl
  | cons first inner =>
    rw [contentAt?, if_neg (List.cons_ne_nil _ _)]
    split
    · rename_i kind _
      have none_ : PerKind.get (.replicate none : PerKind (Option (List (String × ByteArray)))) kind = none := by
        cases kind <;> rfl
      rw [none_]
      unfold itemAt?
      split <;> rfl
    · split
      · rfl
      · split <;> rfl

theorem contentAt?_manifest (e : Export) (octets : ByteArray) (inner : Place) :
    ({ e with manifest := some octets } : Export).contentAt? inner =
      if inner = [manifestName] then some (.file octets) else e.contentAt? inner := by
  have apart : ItemKind.ofDirName? manifestName = none ∧ manifestName ≠ supportName := by decide
  split
  · rename_i same
    rw [same, contentAt?, apart.1]
    simp [apart.2]
  · rename_i different
    cases inner with
    | nil => rfl
    | cons first inner =>
      have other : ¬(first = manifestName ∧ inner = []) := by
        rintro ⟨rfl, rfl⟩
        exact different rfl
      rw [contentAt?, contentAt?, if_neg other, if_neg other]

theorem contentAt?_with_support (e : Export) (support : Place → Option FileContent) {inner : Place}
    (outside : ∀ rest, inner ≠ supportName :: rest) :
    ({ e with support } : Export).contentAt? inner = e.contentAt? inner := by
  cases inner with
  | nil => rfl
  | cons first inner =>
    have other : first ≠ supportName := fun same => outside inner (same ▸ rfl)
    rw [contentAt?, contentAt?, if_neg other, if_neg other]

/-- What is copied for one kind is in its directory alone. -/
theorem contentAt?_set (e : Export) (kind : ItemKind) (copied : Option (List (String × ByteArray))) {inner : Place}
    (outside : ∀ rest, inner ≠ kind.dirName :: rest) :
    ({ e with items := e.items.set kind copied } : Export).contentAt? inner = e.contentAt? inner := by
  cases inner with
  | nil => rfl
  | cons first inner =>
    rw [contentAt?, contentAt?]
    split
    · rename_i other known
      have different : other ≠ kind := fun same => outside inner (same ▸ dirName_of_ofDirName? known ▸ rfl)
      rw [PerKind.get_set_of_ne _ different]
    · rfl

/-- A directory is made for a kind. -/
theorem contentAt?_set_nil (fresh : e.items.get kind = none) (inner : Place) :
    ({ e with items := e.items.set kind (some []) } : Export).contentAt? inner =
      if inner = [kind.dirName] then some .directory else e.contentAt? inner := by
  by_cases inside : ∃ rest, inner = kind.dirName :: rest
  · obtain ⟨rest, rfl⟩ := inside
    rw [contentAt?_kind, contentAt?_kind, PerKind.get_set_self, fresh]
    cases rest with
    | nil => simp [itemAt?]
    | cons name rest => cases rest <;> simp [itemAt?, Entries.get?]
  · rw [contentAt?_set _ _ _ (not_exists.1 inside), if_neg fun same => inside ⟨[], same⟩]

/-- A file is copied into the directory of a kind. -/
theorem contentAt?_set_append (known : e.items.get kind = some files) (name : String) (octets : ByteArray) (inner : Place) :
    ({ e with items := e.items.set kind (some (files ++ [(name, octets)])) } : Export).contentAt? inner =
      if inner = [kind.dirName, name] then some (.file octets) else e.contentAt? inner := by
  by_cases inside : ∃ rest, inner = kind.dirName :: rest
  · obtain ⟨rest, rfl⟩ := inside
    rw [contentAt?_kind, contentAt?_kind, PerKind.get_set_self, known]
    match rest with
    | [] => simp [itemAt?]
    | [other] =>
      by_cases same : name = other
      · simp [itemAt?, Entries.get?, same]
      · simp [itemAt?, Entries.get?, same, Ne.symm same]
    | first :: second :: rest => simp [itemAt?]
  · rw [contentAt?_set _ _ _ (not_exists.1 inside), if_neg fun same => inside ⟨[name], same⟩]

/-- All files of a kind are there just if those of one name are the same. -/
theorem contentAt?_files_iff (known : e.items.get kind = some files) :
    (∀ file ∈ files, e.contentAt? [kind.dirName, file.1] = some (.file file.2)) ↔
      ∀ first ∈ files, ∀ second ∈ files, first.1 = second.1 → first = second := by
  simp only [contentAt?_kind, known, itemAt?, Option.bind_some]
  constructor
  · intro all first member second member' same
    have content := all first member
    rw [same, all second member'] at content
    exact Prod.ext same (FileContent.file.inj (Option.some.inj content)).symm
  · intro single file member
    cases found : Entries.get? files.reverse file.1 with
    | none =>
      refine absurd ?_ (Entries.get?_eq_none_iff.1 found)
      exact List.mem_map_of_mem (List.mem_reverse.2 member)
    | some octets =>
      rw [single file member _ (List.mem_reverse.1 (Entries.mem_of_get? found)) rfl]
      rfl

/-- Without support files there are no directories but that of the target and those of the kinds. -/
theorem eq_of_contentAt?_directory (none_ : e.support = fun _ => none) {inner : Place}
    (there : e.contentAt? inner = some .directory) : inner = [] ∨ ∃ kind : ItemKind, inner = [kind.dirName] := by
  cases inner with
  | nil => exact .inl rfl
  | cons first inner =>
    rw [contentAt?, none_] at there
    split at there
    · rename_i kind known
      match inner with
      | [] => exact .inr ⟨kind, by rw [dirName_of_ofDirName? known]⟩
      | [name] => simp [itemAt?, Option.bind_eq_some_iff] at there
      | _ :: _ :: _ => cases there
    · split at there
      · cases there
      · split at there
        · simp at there
        · cases there

end Export

/-! ## Exporting step by step -/

variable {base g g' : FileSystem} {target dir name source : String} {e e' : Export} {octets : ByteArray} {here : Place}

/-- Below a target there is what was exported, and all else is as in another file system. -/
structure Holds (base : FileSystem) (target : String) (e : Export) (g : FileSystem) : Prop where
  tree : g.Tree
  regular : g.Regular
  outside : ∀ here, ¬Path.place target <+: here → g.contentAt? here = base.contentAt? here
  inside : ∀ inner, g.contentAt? (Path.place target ++ inner) = e.contentAt? inner

/-- Something is put at a place below the target. -/
theorem Holds.put (h : Holds base target e g) {content : FileContent} {there : Place} (tree : g'.Tree) (regular : g'.Regular)
    (files : ∀ here, g'.contentAt? here = if here = Path.place target ++ there then some content else g.contentAt? here)
    (layout : ∀ inner, e'.contentAt? inner = if inner = there then some content else e.contentAt? inner) :
    Holds base target e' g' where
  tree := tree
  regular := regular
  outside here away := by
    have different : here ≠ Path.place target ++ there := by
      rintro rfl
      exact away (List.prefix_append _ _)
    rw [files, if_neg different, h.outside here away]
  inside inner := by
    rw [files, layout, h.inside]
    simp

/-- A file that is outside is copied below the target. -/
theorem Holds.copyFile (h : Holds base target e g) {around : Place} (spelled : Path.place dir = Path.place target ++ around)
    (plain : IsPlain name) (present : name ≠ "") (away : ¬Path.place target <+: Path.place source)
    {holding : ByteArray → Export} (layout : ∀ octets inner, (holding octets).contentAt? inner =
      if inner = around ++ [name] then some (.file octets) else e.contentAt? inner)
    (copied : g.copyFile source (Path.join dir name) = .ok g') :
    ∃ octets, base.contentAt? (Path.place source) = some (.file octets) ∧ Holds base target (holding octets) g' := by
  have place : Path.place (Path.join dir name) = Path.place target ++ (around ++ [name]) := by
    rw [plain.place_join present, spelled, List.append_assoc]
  have apart : Path.place source ≠ Path.place (Path.join dir name) := fun same =>
    away (same ▸ place ▸ List.prefix_append _ _)
  obtain ⟨octets, found, files⟩ := FileSystem.contentAt?_copyFile copied apart
  rw [place] at files
  have tree := FileSystem.tree_copyFile h.tree plain present copied
  exact ⟨octets, h.outside _ away ▸ found, h.put tree (h.regular.copyFile copied) files (layout octets)⟩

section Target

variable (direct : Direct target) (passing : ∀ here, Path.Passes target here → base.contentAt? here = some .directory)
include direct passing

/-- There are directories on the way to the target. -/
theorem Holds.directory (h : Holds base target e g) (passed : Path.Passes target here) :
    g.contentAt? here = some .directory := by
  by_cases inside : Path.place target <+: here
  · obtain rfl := direct here passed inside
    simpa using h.inside []
  · rw [h.outside here inside]
    exact passing here passed

/-- A directory is made in that of the target. -/
theorem Holds.createDirectories (h : Holds base target e g) (isName : IsFileName name)
    (layout : ∀ inner, e'.contentAt? inner = if inner = [name] then some .directory else e.contentAt? inner)
    (made : g.createDirectories (Path.join target name) = (g', .ok ())) : Holds base target e' g' := by
  have tree := FileSystem.keepsAll_createDirectories h.tree (Path.join target name)
  have regular := h.regular.createDirectories (Path.join target name)
  rw [made] at tree regular
  obtain ⟨passed, others⟩ := FileSystem.contentAt?_createDirectories h.tree made
  have place := isName.isPlain.place_join isName.present target
  refine h.put tree.tree regular (fun here => ?_) layout
  by_cases reached : Path.Passes (Path.join target name) here
  · rw [passed here reached]
    split
    · rfl
    · rename_i different
      have sooner := (isName.isPlain.passes_join reached).resolve_right fun same => different (same.trans place)
      exact (h.directory direct passing sooner).symm
  · rw [others here reached, if_neg fun same => reached ?_]
    rw [same, ← place]
    exact Path.passes_place _

end Target

/-! ## Exporting items -/

variable {c c' : Catalog} {kind : ItemKind} {b i : Nat} {ids : List Nat} {files : List (String × ByteArray)}

/-- An item has a file of a name with these octets. -/
def ItemFile (c : Catalog) (fs : FileSystem) (kind : ItemKind) (b i : Nat) (file : String × ByteArray) : Prop :=
  ∃ path, c.itemPath? kind b i = some (some path) ∧ Path.fileName? path = some file.1 ∧
    fs.contentAt? (Path.place path) = some (.file file.2)

/-- What was copied for a kind is the files of the items that are listed, one after the other. -/
def ItemFiles (c : Catalog) (fs : FileSystem) (kind : ItemKind) (b : Nat) (copied : Option (List (String × ByteArray))) : Prop :=
  ∃ ids, c.listItems? kind b = some ids ∧ (copied = none ↔ ids = []) ∧
    List.Forall₂ (c.ItemFile fs kind b) ids (copied.getD [])

theorem present_of_fileName? {path : String} (last : Path.fileName? path = some name) : name ≠ "" := by
  rw [Path.fileName?] at last
  split at last
  · cases last
  · exact (of_decide_eq_true (List.mem_filter.1 (List.mem_of_getLast? last)).2).1

/-- The path of an item ends in a name. -/
theorem exists_fileName?_of_itemPath? {path : String} (plain : c.db.Plain) (there : c.itemPath? kind b i = some (some path)) :
    ∃ name, Path.fileName? path = some name := by
  obtain ⟨row, -, there⟩ := Option.bind_eq_some_iff.1 there
  obtain ⟨e, -, there⟩ := Option.bind_eq_some_iff.1 there
  obtain ⟨doc, -, rfl⟩ := Option.map_eq_some_iff.1 (Option.some.inj there)
  dsimp only
  generalize (if e.locality.own then c.ownDir row.dirName else c.factoryDir e.locality row.dirName) = dir
  have isName := kind.isFileName_dirName
  have named := plain.docs doc
  rw [Path.fileName?]
  by_cases present : (c.db.docs.get doc).filename = ""
  · rw [present, Path.parts_join _ (Path.isAbsolute_single Path.isPlain_empty.single), Path.parts_empty, List.append_nil,
      isName.parts_join, List.getLast?_concat]
    split
    · rename_i up
      exact absurd (Option.some.inj up) isName.down.2
    · exact ⟨_, rfl⟩
  · rw [named.parts_join present, List.getLast?_concat]
    split
    · rename_i up
      exact absurd (Option.some.inj up) named.down.2
    · exact ⟨_, rfl⟩

section Items

variable (plain : c.db.Plain) (away : ∀ here octets, base.contentAt? here = some (.file octets) → ¬Path.place target <+: here)
include plain away

omit plain in
/-- The file of an item is exported to its name in the directory of its kind, whatever has that name there. -/
theorem exportItem?_holds {path : String} {octets : ByteArray} (h : Holds base target e g) (known : e.items.get kind = some files)
    (there : c.itemPath? kind b i = some (some path)) (content : base.contentAt? (Path.place path) = some (.file octets))
    (last : Path.fileName? path = some name)
    (exported : exportItem? { c with files := g } (Path.join (Path.join target kind.dirName) name) kind b i =
      some (c', .ok ())) :
    ∃ g' file, c' = { c with files := g' } ∧ c.ItemFile base kind b i file ∧
      Holds base target { e with items := e.items.set kind (some (files ++ [file])) } g' := by
  have there' : ({ c with files := g } : Catalog).itemPath? kind b i = some (some path) := there
  rw [exportItem?, there'] at exported
  simp only [Option.bind_eq_bind, Option.bind_some] at exported
  cases copied : g.copyFile path (Path.join (Path.join target kind.dirName) name) with
  | error fault =>
    rw [copied] at exported
    cases (Prod.mk.inj (Option.some.inj exported)).2
  | ok g' =>
    rw [copied] at exported
    obtain ⟨rfl, -⟩ := Prod.mk.inj (Option.some.inj exported)
    have spelled := kind.isFileName_dirName.isPlain.place_join kind.isFileName_dirName.present target
    obtain ⟨octets', found, holds⟩ := h.copyFile spelled (Path.isPlain_of_fileName? last) (present_of_fileName? last)
      (away _ _ content) (fun octets => Export.contentAt?_set_append known name octets) copied
    exact ⟨g', (name, octets'), rfl, ⟨path, there, last, found⟩, holds⟩

/-- Items are exported one after the other. -/
theorem exportItems?_holds (h : Holds base target e g) (known : e.items.get kind = some files)
    (saved : ∀ i ∈ ids, ∃ path octets, c.itemPath? kind b i = some (some path) ∧
      base.contentAt? (Path.place path) = some (.file octets))
    (exported : exportItems? { c with files := g } (Path.join target kind.dirName) kind b ids = some (c', .ok ())) :
    ∃ g' more, c' = { c with files := g' } ∧ List.Forall₂ (c.ItemFile base kind b) ids more ∧
      Holds base target { e with items := e.items.set kind (some (files ++ more)) } g' := by
  induction ids generalizing e g files with
  | nil =>
    obtain ⟨rfl, -⟩ := Prod.mk.inj (Option.some.inj exported)
    have same : e.items.set kind (some (files ++ [])) = e.items := by
      rw [List.append_nil, ← known, PerKind.set_get]
    refine ⟨g, [], rfl, .nil, ?_⟩
    rw [same]
    exact h
  | cons i ids ih =>
    rw [List.forall_mem_cons] at saved
    obtain ⟨⟨path, octets, there, content⟩, saved⟩ := saved
    obtain ⟨name, last⟩ := exists_fileName?_of_itemPath? plain there
    have there' : ({ c with files := g } : Catalog).itemPath? kind b i = some (some path) := there
    rw [exportItems?, there'] at exported
    simp only [Option.bind_eq_bind, Option.bind_some, last] at exported
    obtain ⟨⟨c₁, ended⟩, first, exported⟩ := Option.bind_eq_some_iff.1 exported
    cases ended with
    | error fault => cases exported
    | ok _ =>
      obtain ⟨g₁, file, rfl, isFile, holds⟩ := exportItem?_holds away h known there content last first
      obtain ⟨g', more, rfl, listed, holds'⟩ := ih holds (PerKind.get_set_self _ _ _) saved exported
      refine ⟨g', file :: more, rfl, .cons isFile listed, ?_⟩
      rwa [PerKind.set_set, List.append_assoc, List.singleton_append] at holds'

variable (direct : Direct target) (passing : ∀ here, Path.Passes target here → base.contentAt? here = some .directory)
include direct passing

/-- The items of several kinds are exported, each into the directory of its kind. -/
theorem exportKinds?_holds {kinds : List ItemKind} (h : Holds base target e g) (distinct : kinds.Nodup)
    (fresh : ∀ kind ∈ kinds, e.items.get kind = none)
    (saved : ∀ kind ids i, c.listItems? kind b = some ids → i ∈ ids → ∃ path octets,
      c.itemPath? kind b i = some (some path) ∧ base.contentAt? (Path.place path) = some (.file octets))
    (exported : exportKinds? { c with files := g } target b kinds = some (c', .ok ())) :
    ∃ g' items, c' = { c with files := g' } ∧ Holds base target { e with items } g' ∧
      (∀ kind ∈ kinds, c.ItemFiles base kind b (items.get kind)) ∧ ∀ kind, kind ∉ kinds → items.get kind = e.items.get kind := by
  induction kinds generalizing e g with
  | nil =>
    obtain ⟨rfl, -⟩ := Prod.mk.inj (Option.some.inj exported)
    exact ⟨g, e.items, rfl, h, nofun, fun _ _ => rfl⟩
  | cons kind kinds ih =>
    obtain ⟨new, distinct⟩ := List.nodup_cons.1 distinct
    rw [List.forall_mem_cons] at fresh
    obtain ⟨ids, listed, exported⟩ := Option.bind_eq_some_iff.1 exported
    have listed : c.listItems? kind b = some ids := listed
    split at exported
    · rename_i none_
      obtain ⟨g', items, rfl, holds, lists, others⟩ := ih h distinct fresh.2 exported
      refine ⟨g', items, rfl, holds, List.forall_mem_cons.2 ⟨?_, lists⟩, fun other outside => ?_⟩
      · obtain rfl : ids = [] := by simpa using none_
        rw [others kind new, fresh.1]
        exact ⟨[], listed, iff_of_true rfl rfl, .nil⟩
      · exact others other fun within => outside (List.mem_cons_of_mem _ within)
    · rename_i some_
      dsimp only at exported
      split at exported
      · cases exported
      · rename_i g₁ made
        have made₁ := h.createDirectories direct passing kind.isFileName_dirName (Export.contentAt?_set_nil fresh.1) made
        obtain ⟨⟨c₁, ended⟩, first, exported⟩ := Option.bind_eq_some_iff.1 exported
        cases ended with
        | error fault => cases exported
        | ok _ =>
          obtain ⟨g₂, more, rfl, copied, holds₂⟩ := exportItems?_holds plain away made₁ (PerKind.get_set_self _ _ _)
            (fun i => saved kind ids i listed) first
          have later (other : ItemKind) (within : other ∈ kinds) : other ≠ kind := fun same => new (same ▸ within)
          obtain ⟨g', items, rfl, holds, lists, others⟩ := ih holds₂ distinct (fun other within => by
            rw [PerKind.get_set_of_ne _ (later other within), PerKind.get_set_of_ne _ (later other within)]
            exact fresh.2 other within) exported
          refine ⟨g', items, rfl, holds, List.forall_mem_cons.2 ⟨?_, lists⟩, fun other outside => ?_⟩
          · rw [others kind new, PerKind.get_set_self]
            exact ⟨ids, listed, by simpa using some_, copied⟩
          · obtain ⟨different, outside⟩ := not_or.1 (mt List.mem_cons.2 outside)
            rw [others other outside, PerKind.get_set_of_ne _ different, PerKind.get_set_of_ne _ different]

end Items

end EditorBundles.Catalog
