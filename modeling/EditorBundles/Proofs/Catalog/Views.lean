import EditorBundles.Catalog.Bundle
import EditorBundles.Catalog.Sync
import Mathlib.Data.List.Induction

/-!
# Views of tables

A view has documents in place of their numbers, so that it does not say where in the table of documents they
are. Operations on views are those on tables, without a table of documents beside them: documents that are no
longer named need not be deleted.
-/

namespace EditorBundles.Catalog
set_option autoImplicit false
open PropertyList

/-- An entry with documents in place of their numbers. -/
structure EntryView where
  uuid : String := ""
  name : String := ""
  locality : Locality := {}
  modified : Bool := false
  factory : Option Document := none
  own : Option Document := none
  shadowedFile : Option String := none

/-- What is seen of an entry. -/
def Entry.view (docs : DocumentTable) (e : Entry) : EntryView where
  uuid := e.uuid
  name := e.name
  locality := e.locality
  modified := e.modified
  factory := e.factoryDoc.map docs.get
  own := e.ownDoc.map docs.get
  shadowedFile := e.shadowedFile

namespace EntryView

/-- What stands in the place of an entry that is gone. -/
def tombstone : EntryView := { locality := { deleted := true } }

/-- Is the entry gone? -/
def isTombstone (e : EntryView) : Bool := e.locality.deleted

/-- The version behind a locality. -/
def version (e : EntryView) (loc : Locality) : Option Document := if loc.own then e.own else e.factory

/-- Has the user a version that no file holds yet? -/
def hasUnsavedOwn (e : EntryView) : Bool := e.locality.own && e.own.any fun d => d.modTime = 0

/-- The entry with the name and the identity of a document, as far as the document has them. -/
def identify (e : EntryView) (d : Document) : EntryView :=
  { e with
    uuid := (d.rootString? "uuid").getD e.uuid
    name := (d.rootString? "name").getD e.name }

/-- A new entry for a document. -/
def new (loc : Locality) (d : Document) : EntryView :=
  if loc.own then { locality := loc, own := some d } else { locality := loc, factory := some d }

/-- The entry with a document as its version at a locality. -/
def register (e : EntryView) (d : Document) (loc : Locality) : EntryView :=
  let locality := e.locality.union loc
  if loc.own then { e with own := some d, locality }.identify d
  else if loc = { pristine := true } ∧ e.locality.installed then { e with shadowedFile := some d.filename, locality }
  else { e with factory := some d, locality }.identify d

/-- The entry without the versions of some localities, and all that go with them. -/
def dropVersions (e : EntryView) (loc : Locality) : EntryView × Locality :=
  let factoryGone := if e.locality.installed then loc.installed else loc.pristine && e.locality.pristine
  let loc := if factoryGone && e.locality.installed then { loc with pristine := true } else loc
  let left : EntryView :=
    { e with
      factory := if factoryGone then none else e.factory
      own := if loc.own && e.locality.own then none else e.own
      locality := e.locality.without loc
      shadowedFile := if loc.pristine then none else e.shadowedFile }
  (left, loc)

end EntryView

/-- What a view of a table has in its rows. -/
class RowView (ν : Type) where
  /-- The entry of a row. -/
  entry : ν → EntryView
  /-- The row with another entry. -/
  withEntry : ν → EntryView → ν
  /-- A new row. -/
  ofEntry : EntryView → ν
  /-- Drops localities from the tables of a row. -/
  release : Locality → ν → ν

instance : RowView EntryView where
  entry e := e
  withEntry _ e := e
  ofEntry e := e
  release _ e := e

/-- The rows of a table as they are seen. -/
structure TableView (ν : Type) where
  rows : List ν := []

/-- A version of a row as it is seen, its file, and whether it stays as it is. -/
structure TrackedView where
  document : Document
  filename : String
  fixed : Bool

namespace TableView

section
variable {ν : Type}

/-- How many rows there are. -/
def size (t : TableView ν) : Nat := t.rows.length

/-- The row with a number. -/
def row? (t : TableView ν) (id : Nat) : Option ν := t.rows[id]?

/-- Puts a row at a number that is there. -/
def setRow (t : TableView ν) (id : Nat) (row : ν) : TableView ν := ⟨t.rows.set id row⟩

/-- Changes the row with a number. -/
def modifyRow (t : TableView ν) (id : Nat) (change : ν → ν) : TableView ν := ⟨t.rows.modify id change⟩

theorem row?_modifyRow (t : TableView ν) (id other : Nat) (change : ν → ν) :
    (t.modifyRow id change).row? other = if id = other then (t.row? other).map change else t.row? other := by
  rw [row?, modifyRow, List.getElem?_modify]
  split
  · rfl
  · exact Option.map_id'

theorem row?_setRow (t : TableView ν) (id other : Nat) (row : ν) :
    (t.setRow id row).row? other = if id = other then (t.row? other).map fun _ => row else t.row? other := by
  rw [row?, setRow, List.getElem?_set]
  split
  · rename_i same
    subst same
    by_cases bound : id < t.rows.length <;> simp [row?, bound]
  · rfl

/-- A table is made up of its rows. -/
theorem ext_row? {t u : TableView ν} (same : ∀ id, t.row? id = u.row? id) : t = u := by
  obtain ⟨rows⟩ := t
  obtain ⟨rows'⟩ := u
  congr 1
  exact List.ext_getElem? same

end

variable {ν : Type} [RowView ν]

/-- The entry with a number. -/
def entryAt? (t : TableView ν) (id : Nat) : Option EntryView := (t.row? id).map RowView.entry

/-- The first row with an identity that is not gone. -/
def findUuid? (t : TableView ν) (uuid : String) : Option Nat :=
  t.rows.findIdx? fun row => !(RowView.entry row).isTombstone && (RowView.entry row).uuid = uuid

/-- Adds a row for a document at a locality, in the place of the first one that is gone if there is one. -/
def insert (t : TableView ν) (d : Document) (loc : Locality) : TableView ν × Nat :=
  let row := RowView.ofEntry ((EntryView.new loc d).identify d)
  match t.rows.findIdx? fun row => (RowView.entry row).isTombstone with
  | some id => (t.setRow id row, id)
  | none => (⟨t.rows ++ [row]⟩, t.rows.length)

/-- Records a document as the version of a row at a locality. -/
def register (t : TableView ν) (id : Nat) (d : Document) (loc : Locality) : TableView ν :=
  t.modifyRow id fun row => RowView.withEntry row ((RowView.entry row).register d loc)

/-- Cuts off the rows at the end that are gone. -/
def trimRows (rows : List ν) : List ν :=
  (rows.reverse.dropWhile fun row => (RowView.entry row).isTombstone).reverse

/-- Takes out the row with a number. -/
def cut (t : TableView ν) (id : Nat) : TableView ν :=
  if id + 1 = t.size then ⟨trimRows (t.rows.take id)⟩ else t.setRow id (RowView.ofEntry EntryView.tombstone)

/-- A row without the versions of some localities, in its entry and in its tables. -/
def dropRow (row : ν) (loc : Locality) : ν :=
  let left := (RowView.entry row).dropVersions loc
  RowView.release left.2 (RowView.withEntry row left.1)

/-- Drops versions of a row, and the row if no version is left. -/
def drop (t : TableView ν) (id : Nat) (loc : Locality) : TableView ν :=
  match t.row? id with
  | none => t
  | some row =>
    if ((RowView.entry row).dropVersions loc).1.locality.hasSource then t.setRow id (dropRow row loc) else t.cut id

/-- Drops versions from those rows of a list whose entries satisfy a condition. -/
def dropWhere (p : EntryView → Bool) (loc : Locality) (t : TableView ν) : List Nat → TableView ν
  | [] => t
  | id :: ids =>
    if (t.entryAt? id).any p then dropWhere p loc (t.drop id loc) ids else dropWhere p loc t ids

/-- Drops versions from every row that has one of them. -/
def dropAll (t : TableView ν) (loc : Locality) : TableView ν :=
  dropWhere (fun e => e.locality.meets loc) loc t (List.range t.size)

/-- Drops versions from every row that has one of them, but keeps own versions that no file holds yet. -/
def dropVanished (t : TableView ν) (loc : Locality) : TableView ν :=
  dropWhere (fun e => e.locality.meets loc && !(loc.own && e.hasUnsavedOwn)) loc t (List.range t.size)

/-! ## Directories -/

/-- The version that a row has at a locality. -/
def tracked? (t : TableView ν) (loc : Locality) (id : Nat) : Option TrackedView := do
  let e ← t.entryAt? id
  if e.locality.contains loc then
    let document ← e.version loc
    let shadowed := loc = { pristine := true } && e.locality.installed
    return {
      document
      filename := if shadowed then e.shadowedFile.getD document.filename else document.filename
      fixed := shadowed || (loc = { own := true } && e.hasUnsavedOwn) }
  else none

/-- Drops versions whose files are not in a list, row by row. -/
def dropMissing (loc : Locality) (files : List String) (t : TableView ν) : List Nat → TableView ν
  | [] => t
  | id :: ids =>
    if (t.tracked? loc id).any fun v => !files.contains v.filename && !v.fixed then
      dropMissing loc files (t.drop id loc) ids
    else dropMissing loc files t ids

/-- Reads changed files of a list again, row by row, and gives the files that no row has. -/
def reloadChanged (fs : FileSystem) (dir : String) (loc : Locality) (files : List String) (t : TableView ν) :
    List Nat → TableView ν × List String
  | [] => (t, files)
  | id :: ids =>
    match (t.tracked? loc id).filter fun v => files.contains v.filename with
    | none => reloadChanged fs dir loc files t ids
    | some v =>
      let path := Path.join dir v.filename
      let files := files.erase v.filename
      if EntryTable.hasChanged fs path v.document && !v.fixed then
        match Document.load fs path with
        | .ok fresh => reloadChanged fs dir loc files (t.register id fresh loc) ids
        | .error _ => reloadChanged fs dir loc files (t.drop id loc) ids
      else reloadChanged fs dir loc files t ids

/-- What is left of the files when changed ones have been read again. -/
theorem reloadChanged_subset {fs : FileSystem} {dir : String} {loc : Locality} {files : List String} (t : TableView ν)
    (ids : List Nat) : (reloadChanged fs dir loc files t ids).2 ⊆ files := by
  induction ids generalizing t files with
  | nil => exact List.Subset.refl files
  | cons id ids ih =>
    rw [reloadChanged]
    split
    · exact ih t
    · rename_i v found
      dsimp only
      split
      · split
        · exact List.Subset.trans (ih _) List.erase_subset
        · exact List.Subset.trans (ih _) List.erase_subset
      · exact List.Subset.trans (ih _) List.erase_subset

/-- Adds the documents in new files: to the row with the same identity, if there is one. -/
def addNew (fs : FileSystem) (dir : String) (loc : Locality) (t : TableView ν) : List String → TableView ν
  | [] => t
  | filename :: files =>
    match Document.load fs (Path.join dir filename) with
    | .error _ => addNew fs dir loc t files
    | .ok fresh =>
      match (fresh.rootString? "uuid").bind t.findUuid? with
      | some id => addNew fs dir loc (t.register id fresh loc) files
      | none => addNew fs dir loc (t.insert fresh loc).1 files

/-- Brings the versions at a locality in line with the files in a directory that have an extension. -/
def sync (t : TableView ν) (fs : FileSystem) (dir : String) (loc : Locality) (extension : String) : TableView ν :=
  if fs.isDirectory dir then
    let files := listDir fs dir false fun name => hasExtension name ".plist" || hasExtension name extension
    let t := dropMissing loc files t (List.range t.size)
    let (t, files) := reloadChanged fs dir loc files t (List.range t.size)
    addNew fs dir loc t files
  else t.dropVanished loc

/-! ## Rows -/

variable {t : TableView ν} {id other : Nat} {row : ν} {loc : Locality}

theorem trimRows_append (rows : List ν) (row : ν) :
    trimRows (rows ++ [row]) = if (RowView.entry row).isTombstone then trimRows rows else rows ++ [row] := by
  unfold trimRows
  rw [List.reverse_append, List.reverse_singleton, List.singleton_append, List.dropWhile_cons]
  split
  · rfl
  · simp

/-- A row is cut off if it is gone and so are all behind it. -/
theorem getElem?_trimRows (rows : List ν) (id : Nat) :
    (trimRows rows)[id]? = if (rows.drop id).any fun row => !(RowView.entry row).isTombstone then rows[id]? else none := by
  induction rows using List.reverseRecOn with
  | nil => simp [trimRows]
  | append_singleton rows row ih =>
    rw [trimRows_append]
    cases gone : (RowView.entry row).isTombstone with
    | true =>
      rw [if_pos rfl, ih]
      rcases Nat.lt_or_ge id rows.length with inside | outside
      · rw [List.drop_append_of_le_length (Nat.le_of_lt inside), List.getElem?_append_left inside]
        simp [gone]
      · rw [List.drop_eq_nil_of_le outside]
        rcases Nat.eq_or_lt_of_le outside with rfl | beyond
        · simp [gone]
        · rw [List.drop_eq_nil_of_le (by simp; omega)]
          simp
    | false =>
      rw [if_neg Bool.false_ne_true]
      rcases Nat.lt_or_ge rows.length id with beyond | inside
      · rw [List.drop_eq_nil_of_le (by simp; omega), List.getElem?_eq_none (by simp; omega)]
        simp
      · rw [List.drop_append_of_le_length inside]
        simp [gone]

/-- The rows that are left when one is cut out. -/
theorem row?_cut (t : TableView ν) (id other : Nat) :
    (t.cut id).row? other =
      if id + 1 = t.size then
        if other < id ∧ ((t.rows.take id).drop other).any (fun row => !(RowView.entry row).isTombstone)
        then t.row? other else none
      else if id = other then (t.row? other).map fun _ => RowView.ofEntry EntryView.tombstone else t.row? other := by
  rw [cut]
  split
  · rw [row?, getElem?_trimRows, List.getElem?_take]
    by_cases before : other < id
    · simp [before, row?]
    · simp [before]
  · exact row?_setRow t id other _

theorem row?_of_row?_cut (there : (t.cut id).row? other = some row) :
    other ≠ id ∧ t.row? other = some row ∨ other = id ∧ row = RowView.ofEntry EntryView.tombstone := by
  rw [row?_cut] at there
  split at there
  · split at there
    · rename_i before
      exact .inl ⟨by omega, there⟩
    · cases there
  · split at there
    · rename_i same
      obtain ⟨-, -, rfl⟩ := Option.map_eq_some_iff.1 there
      exact .inr ⟨same.symm, rfl⟩
    · rename_i different
      exact .inl ⟨Ne.symm different, there⟩

/-- The rows that are left when versions of one are dropped. -/
theorem row?_of_row?_drop (there : (t.drop id loc).row? other = some row) :
    other ≠ id ∧ t.row? other = some row ∨
      other = id ∧ ∃ before, t.row? id = some before ∧
        (row = dropRow before loc ∨ row = RowView.ofEntry EntryView.tombstone) := by
  rw [drop] at there
  cases found : t.row? id with
  | none =>
    rw [found] at there
    refine .inl ⟨?_, there⟩
    rintro rfl
    rw [found] at there
    cases there
  | some before =>
    rw [found] at there
    dsimp only at there
    split at there
    · rw [row?_setRow] at there
      split at there
      · rename_i same
        obtain ⟨-, -, rfl⟩ := Option.map_eq_some_iff.1 there
        exact .inr ⟨same.symm, before, rfl, .inl rfl⟩
      · rename_i different
        exact .inl ⟨Ne.symm different, there⟩
    · rcases row?_of_row?_cut there with elsewhere | ⟨same, gone⟩
      · exact .inl elsewhere
      · exact .inr ⟨same, before, rfl, .inr gone⟩

/-- A new row is put where there was none or one that is gone. -/
theorem row?_insert (t : TableView ν) (d : Document) (loc : Locality) :
    (∀ other, (t.insert d loc).1.row? other =
      if (t.insert d loc).2 = other then some (RowView.ofEntry ((EntryView.new loc d).identify d)) else t.row? other) ∧
      ∀ row ∈ t.row? (t.insert d loc).2, (RowView.entry row).isTombstone = true := by
  rw [insert]
  cases found : t.rows.findIdx? fun row => (RowView.entry row).isTombstone with
  | some id =>
    obtain ⟨bound, gone, -⟩ := List.findIdx?_eq_some_iff_getElem.1 found
    have there : t.row? id = some t.rows[id] := List.getElem?_eq_getElem bound
    refine ⟨fun other => ?_, fun row member => ?_⟩
    · dsimp only
      rw [row?_setRow]
      split
      · rename_i same
        rw [← same, there]
        rfl
      · rfl
    · dsimp only at member
      rw [there] at member
      obtain rfl := Option.some.inj member
      exact gone
  | none =>
    refine ⟨fun other => ?_, fun row member => ?_⟩
    · dsimp only
      unfold row?
      rcases Nat.lt_trichotomy other t.rows.length with inside | rfl | beyond
      · rw [List.getElem?_append_left inside, if_neg (by omega)]
      · simp
      · rw [List.getElem?_eq_none (by simp; omega), List.getElem?_eq_none (Nat.le_of_lt beyond), if_neg (by omega)]
    · dsimp only [row?] at member
      rw [List.getElem?_eq_none (Nat.le_refl _)] at member
      cases member

end TableView

/-! ## Bundles -/

/-- The values for all kinds, changed kind by kind. -/
def PerKind.map {α β : Type} (f : ItemKind → α → β) (p : PerKind α) : PerKind β where
  languages := f .language p.languages
  commands := f .command p.commands
  snippets := f .snippet p.snippets
  dragCommands := f .dragCommand p.dragCommands
  preferences := f .preference p.preferences
  keyMacros := f .keyMacro p.keyMacros

theorem PerKind.get_map {α β : Type} (f : ItemKind → α → β) (p : PerKind α) (kind : ItemKind) :
    (p.map f).get kind = f kind (p.get kind) := by
  cases kind <;> rfl

/-- A bundle with documents in place of their numbers. -/
structure BundleView where
  entry : EntryView := {}
  dirName : String := ""
  items : PerKind (TableView EntryView) := .replicate {}

instance : RowView BundleView where
  entry := BundleView.entry
  withEntry b e := { b with entry := e }
  ofEntry e := { entry := e }
  release loc b := { b with items := b.items.map fun _ table => table.dropAll loc }

end EditorBundles.Catalog
