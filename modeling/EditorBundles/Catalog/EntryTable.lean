import EditorBundles.Catalog.Entry

/-!
# Tables of entries

Rows keep their number for as long as they live. A row that is removed leaves a tombstone, whose number
the next new row takes; tombstones at the end are cut off. Every operation also takes the table of
documents and deletes those that no row needs any longer.
-/

namespace EditorBundles.Catalog
set_option autoImplicit false
open PropertyList

/-- Rows by number. -/
structure EntryTable (ρ : Type) where
  rows : List ρ := []
  deriving DecidableEq, Repr, Inhabited

namespace EntryTable

variable {ρ : Type}

/-- How many rows there are, tombstones included. -/
def size (t : EntryTable ρ) : Nat := t.rows.length

/-- The row with a number. -/
def row? (t : EntryTable ρ) (id : Nat) : Option ρ := t.rows[id]?

/-- Puts a row at a number that is there. -/
def setRow (t : EntryTable ρ) (id : Nat) (row : ρ) : EntryTable ρ := ⟨t.rows.set id row⟩

/-- Putting a row at a number leaves the number of rows alone. -/
@[simp] theorem size_setRow (t : EntryTable ρ) (id : Nat) (row : ρ) : (t.setRow id row).size = t.size := by
  simp [size, setRow]

/-- Putting a row at a number leaves the others alone. -/
theorem row?_setRow_of_ne (t : EntryTable ρ) {id other : Nat} (h : other ≠ id) (row : ρ) :
    (t.setRow id row).row? other = t.row? other := by
  simp [row?, setRow, List.getElem?_set_ne h.symm]

variable [Row ρ]

/-- The entry with a number. -/
def entryAt? (t : EntryTable ρ) (id : Nat) : Option Entry := (t.row? id).map Row.entry

/-- Changes the entry with a number. -/
def modifyEntry (t : EntryTable ρ) (id : Nat) (change : Entry → Entry) : EntryTable ρ :=
  ⟨t.rows.modify id fun row => Row.withEntry row (change (Row.entry row))⟩

/-- Changing an entry leaves the number of rows alone. -/
@[simp] theorem size_modifyEntry (t : EntryTable ρ) (id : Nat) (change : Entry → Entry) :
    (t.modifyEntry id change).size = t.size := by
  simp [size, modifyEntry]

/-- An entry that was just changed is read as it was changed. -/
theorem entryAt?_modifyEntry_self (t : EntryTable ρ) (id : Nat) (change : Entry → Entry) :
    (t.modifyEntry id change).entryAt? id = (t.entryAt? id).map change := by
  cases h : t.rows[id]? <;> simp [entryAt?, row?, modifyEntry, h]

/-- Changing an entry leaves the other rows alone. -/
theorem row?_modifyEntry_of_ne (t : EntryTable ρ) {id other : Nat} (h : other ≠ id) (change : Entry → Entry) :
    (t.modifyEntry id change).row? other = t.row? other := by
  simp [row?, modifyEntry, h.symm]

/-- The number of the first row whose entry satisfies a condition. -/
def findEntry? (t : EntryTable ρ) (p : Entry → Bool) : Option Nat := t.rows.findIdx? fun row => p (Row.entry row)

/-- The numbers of the rows with a version in effect. -/
def visible (t : EntryTable ρ) : List Nat :=
  (List.range t.size).filter fun id => (t.entryAt? id).any Entry.isVisible

/-- The first row with an identity that is not gone. -/
def findUuid? (t : EntryTable ρ) (uuid : String) : Option Nat :=
  t.findEntry? fun e => !e.isTombstone && e.uuid = uuid

/-- The first row with a name that is not gone. -/
def findName? (t : EntryTable ρ) (name : String) : Option Nat :=
  t.findEntry? fun e => !e.isTombstone && e.name = name

/-- The document in effect for a row. -/
def resolve (t : EntryTable ρ) (id : Nat) : Option Nat := (t.entryAt? id).bind Entry.resolve

/-! ## New rows and new versions -/

/-- Adds a row for a document at a locality, in the place of the first tombstone if there is one. -/
def insert (t : EntryTable ρ) (doc : Nat) (loc : Locality) (docs : DocumentTable) : EntryTable ρ × Nat :=
  let row := Row.ofEntry ((Entry.new loc doc).identify (docs.get doc))
  match t.findEntry? Entry.isTombstone with
  | some id => (t.setRow id row, id)
  | none => (⟨t.rows ++ [row]⟩, t.rows.length)

/-- Records a document as the version of a row at a locality, and deletes the document that it replaces.
A pristine document never replaces an installed one: its file is noted, and it is deleted itself. -/
def register (t : EntryTable ρ) (id doc : Nat) (loc : Locality) (docs : DocumentTable) :
    EntryTable ρ × DocumentTable :=
  match t.entryAt? id with
  | none => (t, docs)
  | some e =>
    let locality := e.locality.union loc
    if loc.own then
      (t.modifyEntry id fun e => { e with ownDoc := some doc, locality }.identify (docs.get doc),
        dropDoc docs e.ownDoc)
    else if loc = { pristine := true } ∧ e.locality.installed then
      (t.modifyEntry id fun e => { e with shadowedFile := some (docs.get doc).filename, locality },
        docs.delete doc)
    else
      (t.modifyEntry id fun e => { e with factoryDoc := some doc, locality }.identify (docs.get doc),
        dropDoc docs e.factoryDoc)

/-- `insert` for a document that may not be there. -/
def insert? (t : EntryTable ρ) (doc : Nat) (loc : Locality) (docs : DocumentTable) :
    Option (EntryTable ρ × Nat) :=
  if docs.isLive doc then some (t.insert doc loc docs) else none

/-- `register` for a row and a document that may not be there. The document must still be there when the
one that it replaces is gone, unless it is not read at all. -/
def register? (t : EntryTable ρ) (id doc : Nat) (loc : Locality) (docs : DocumentTable) :
    Option (EntryTable ρ × DocumentTable) := do
  let e ← t.entryAt? id
  let shadowed := !loc.own && loc = { pristine := true } && e.locality.installed
  if (if shadowed then doc < docs.size else docs.isLive doc && e.docFor loc ≠ some doc) then
    return t.register id doc loc docs
  else none

/-- The own version of a row, which is made as a copy of the factory version if there is none. Gives
nothing for a row without any version. -/
def editable? (t : EntryTable ρ) (id : Nat) (docs : DocumentTable) :
    Option (EntryTable ρ × DocumentTable × Nat) := do
  let e ← t.entryAt? id
  match (if e.locality.own then e.ownDoc else none) with
  | some own => return (t, docs, own)
  | none =>
    let source ← e.factoryDoc
    if e.locality.isFactory then
      let (docs, own) := docs.copy source
      return (t.modifyEntry id fun e =>
        { e with ownDoc := some own, locality := { e.locality with own := true } }, docs, own)
    else none

/-! ## Removal -/

/-- Cuts off the tombstones at the end. -/
def trimRows (rows : List ρ) : List ρ :=
  (rows.reverse.dropWhile fun row => (Row.entry row).isTombstone).reverse

/-- Removes a row with its documents. -/
def removeRow (t : EntryTable ρ) (id : Nat) (docs : DocumentTable) : EntryTable ρ × DocumentTable :=
  match t.row? id with
  | none => (t, docs)
  | some row =>
    let e := Row.entry row
    let docs := dropDoc (dropDoc docs e.factoryDoc) e.ownDoc
    let bare := Row.withEntry row { e with factoryDoc := none, ownDoc := none }
    let docs := (Row.release Locality.all bare docs).2
    if id + 1 = t.size then (⟨trimRows (t.rows.take id)⟩, docs)
    else (t.setRow id (Row.ofEntry Entry.tombstone), docs)

/-- An entry without the versions of some localities, and the documents that it no longer has. Where
there is an installed version, the factory document is that one, and the pristine version goes with
it. -/
def dropVersions (e : Entry) (loc : Locality) : Entry × Locality × List Nat :=
  let factoryGone := if e.locality.installed then loc.installed else loc.pristine && e.locality.pristine
  let loc := if factoryGone && e.locality.installed then { loc with pristine := true } else loc
  let ownGone := loc.own && e.locality.own
  let gone := (if factoryGone then e.factoryDoc.toList else []) ++ (if ownGone then e.ownDoc.toList else [])
  let left : Entry :=
    { e with
      factoryDoc := if factoryGone then none else e.factoryDoc
      ownDoc := if ownGone then none else e.ownDoc
      locality := e.locality.without loc
      shadowedFile := if loc.pristine then none else e.shadowedFile }
  (left, loc, gone)

/-- Drops versions of a row, and the row if no version is left. Tells whether the row is gone. -/
def drop (t : EntryTable ρ) (id : Nat) (loc : Locality) (docs : DocumentTable) :
    EntryTable ρ × DocumentTable × Bool :=
  match t.row? id with
  | none => (t, docs, false)
  | some row =>
    let (left, loc, gone) := dropVersions (Row.entry row) loc
    let docs := gone.foldl DocumentTable.delete docs
    let (row, docs) := Row.release loc (Row.withEntry row left) docs
    let t := t.setRow id row
    if left.locality.hasSource then (t, docs, false)
    else
      let (t, docs) := t.removeRow id docs
      (t, docs, true)

/-- Drops versions from those rows of a list whose entries satisfy a condition. -/
def dropWhere (p : Entry → DocumentTable → Bool) (loc : Locality) (t : EntryTable ρ)
    (docs : DocumentTable) : List Nat → EntryTable ρ × DocumentTable
  | [] => (t, docs)
  | id :: ids =>
    if (t.entryAt? id).any (p · docs) then
      let (t, docs, _) := t.drop id loc docs
      dropWhere p loc t docs ids
    else dropWhere p loc t docs ids

/-- Drops versions from every row that has one of them. -/
def dropAll (t : EntryTable ρ) (loc : Locality) (docs : DocumentTable) : EntryTable ρ × DocumentTable :=
  dropWhere (fun e _ => e.locality.meets loc) loc t docs (List.range t.size)

/-- Drops versions from every row that has one of them, but keeps own versions that no file holds
yet. -/
def dropVanished (t : EntryTable ρ) (loc : Locality) (docs : DocumentTable) : EntryTable ρ × DocumentTable :=
  dropWhere (fun e docs => e.locality.meets loc && !(loc.own && e.hasUnsavedOwn docs)) loc t docs
    (List.range t.size)

/-! ## Deleting and restoring -/

/-- Deletes a file in a directory, if it is there. Documents without a file name have no file. -/
def deleteFile (fs : FileSystem) (dir filename : String) : Except FileFault FileSystem :=
  if filename.isEmpty then .ok fs
  else match fs.removeFile (Path.join dir filename) with
    | .error .notFound => .ok fs
    | result => result

/-- Deletes the own version of a row with its file. A factory version cannot be deleted and is hidden; a
row without one is removed. Nothing changes if the file cannot be deleted. -/
def delete (t : EntryTable ρ) (id : Nat) (dir : String) (docs : DocumentTable) (fs : FileSystem) :
    Except FileFault (EntryTable ρ × DocumentTable × FileSystem) := do
  match t.entryAt? id with
  | none => return (t, docs, fs)
  | some e =>
    let own := if e.locality.own then e.ownDoc else none
    let fs ← match own with
      | some own => deleteFile fs dir (docs.get own).filename
      | none => pure fs
    let docs := dropDoc docs own
    let left := if e.locality.own then
        { e with ownDoc := none, locality := { e.locality with own := false }, modified := false }
      else e
    if left.locality.isFactory then
      return (t.modifyEntry id fun _ => { left with locality := { left.locality with disabled := true } }, docs, fs)
    else
      let (t, docs) := (t.modifyEntry id fun _ => left).removeRow id docs
      return (t, docs, fs)

/-- Shows a hidden row again that has a factory version. Tells whether there was one. -/
def restore (t : EntryTable ρ) (id : Nat) : EntryTable ρ × Bool :=
  match t.entryAt? id with
  | some e =>
    if e.locality.disabled && e.locality.isFactory then
      (t.modifyEntry id fun e => { e with locality := { e.locality with disabled := false } }, true)
    else (t, false)
  | none => (t, false)

end EntryTable

end EditorBundles.Catalog
