import EditorBundles.Catalog.Bundles

/-!
# Working on bundle items

Operations take a kind, the number of a bundle's row and the number of an item's row, and give nothing
where there are no such rows, or where a document that they read is not live.
-/

namespace EditorBundles.Catalog
set_option autoImplicit false
open PropertyList

/-- The items of a kind in a bundle. -/
def itemTable? (c : Catalog) (kind : ItemKind) (b : Nat) : Option (EntryTable Entry) :=
  (c.db.bundles.row? b).map fun row => row.items.get kind

/-- The entry of an item. -/
def item? (c : Catalog) (kind : ItemKind) (b i : Nat) : Option Entry := do (← c.itemTable? kind b).entryAt? i

/-- Puts other items of a kind into a bundle. -/
def withItems (c : Catalog) (kind : ItemKind) (b : Nat) (table : EntryTable Entry) : Catalog :=
  c.modifyBundle b fun row => { row with items := row.items.set kind table }

/-- Changes the entry of an item. -/
def modifyItem (c : Catalog) (kind : ItemKind) (b i : Nat) (change : Entry → Entry) : Catalog :=
  c.modifyBundle b fun row =>
    { row with items := row.items.set kind ((row.items.get kind).modifyEntry i change) }

/-- The items of a kind with a version in effect, in the order of their rows. -/
def listItems? (c : Catalog) (kind : ItemKind) (b : Nat) : Option (List Nat) :=
  (c.itemTable? kind b).map EntryTable.visible

/-- The document in effect. -/
def itemDoc? (c : Catalog) (kind : ItemKind) (b i : Nat) : Option (Option Document) := do
  c.effectiveDoc? (← c.item? kind b i)

/-- The user's own version, which is made if there is none. The item is marked as changed. -/
def editItem? (c : Catalog) (kind : ItemKind) (b i : Nat) : Option (Catalog × Nat) := do
  let (table, docs, own) ← (← c.itemTable? kind b).editable? i c.db.docs
  let table := table.modifyEntry i fun e => { e with modified := true }
  return (((c.withDocs docs).withItems kind b table).markDirty, own)

/-- Adds an item of the user's own. Nothing is written until it is saved. -/
def newItem? (c : Catalog) (kind : ItemKind) (b : Nat) (name : String) : Option (Catalog × Nat) := do
  let table ← c.itemTable? kind b
  let (c, doc) := c.createDoc name none
  let (table, i) := table.insert doc { own := true } c.db.docs
  return ((c.withItems kind b table).markDirty, i)

/-- The directory of the user's own items of a kind. -/
def ownItemDir (c : Catalog) (kind : ItemKind) (dirName : String) : String :=
  Path.join (c.ownDir dirName) kind.dirName

/-- Writes the user's own version of an item. A bundle that was never saved is saved first, and a file name
is chosen if there is none. -/
def saveItem? (c : Catalog) (kind : ItemKind) (b i : Nat) : Option (Catalog × Except Fault Unit) := do
  let row ← c.db.bundles.row? b
  let e ← c.item? kind b i
  match savable? e with
  | none => return (c, .error (.notEditable (.item kind b i)))
  | some own =>
    let (c, saved) ← if row.dirName.isEmpty then c.saveBundle? b else pure (c, .ok ())
    match saved with
    | .error fault => return (c, .error fault)
    | .ok () =>
      let dir := c.ownItemDir kind (← c.bundleDirName? b)
      let _ ← c.liveDoc? own
      let c := c.nameDoc own fun name => freeName c.files dir name kind.extension
      match c.saveDoc own dir with
      | (c, .error fault) => return (c, .error fault)
      | (c, .ok ()) => return ((c.modifyItem kind b i fun e => { e with modified := false }).markDirty, .ok ())

/-- Deletes the user's own version of an item with its file, or hides the factory version. Tells what to
reload. -/
def deleteItem? (c : Catalog) (kind : ItemKind) (b i : Nat) : Option (Catalog × Except Fault Reload) := do
  let row ← c.db.bundles.row? b
  let _ ← c.item? kind b i
  match (row.items.get kind).delete i (c.ownItemDir kind row.dirName) c.db.docs c.files with
  | .error fault => return (c, .error (.file fault))
  | .ok (table, docs, files) =>
    let c : Catalog := { (c.withDocs docs).withItems kind b table with files }
    return (c.markDirty, .ok kind.reload)

/-- Shows a hidden item again. Tells whether there was anything to show. -/
def restoreItem? (c : Catalog) (kind : ItemKind) (b i : Nat) : Option (Catalog × Bool) := do
  let _ ← c.item? kind b i
  let (table, restored) := (← c.itemTable? kind b).restore i
  return (if restored then (c.withItems kind b table).markDirty else c, restored)

/-! ## Places -/

/-- The file of the version in effect. -/
def itemPath? (c : Catalog) (kind : ItemKind) (b i : Nat) : Option (Option String) := do
  let row ← c.db.bundles.row? b
  let e ← c.item? kind b i
  return e.resolve.map fun doc =>
    let dir := if e.locality.own then c.ownDir row.dirName else c.factoryDir e.locality row.dirName
    Path.join (Path.join dir kind.dirName) (c.db.docs.get doc).filename

/-- The time of the file of the version in effect. -/
def itemModDate? (c : Catalog) (kind : ItemKind) (b i : Nat) : Option (Option Int) := do
  return (← c.itemPath? kind b i).bind fun path => (c.files.modTime path).toOption

/-- The address of the version in effect. -/
def itemAddress? (c : Catalog) (kind : ItemKind) (b i : Nat) : Option (Option ItemAddress) := do
  let row ← c.db.bundles.row? b
  let e ← c.item? kind b i
  return e.resolve.map fun doc => ⟨row.dirName, kind, (c.db.docs.get doc).filename⟩

/-- The item that an address leads to: in the first bundle with its directory, the first one in effect
with its file. -/
def findAddress? (c : Catalog) (a : ItemAddress) : Option (ItemKind × Nat × Nat) := do
  let b ← c.findDir? a.bundleDir
  let table ← c.itemTable? a.kind b
  let i ← table.findEntry? fun e => e.resolve.any fun doc => (c.db.docs.get doc).filename = a.filename
  return (a.kind, b, i)

/-- The first item with an identity. -/
def findItem? (c : Catalog) (uuid : String) : Option (ItemKind × Nat × Nat) :=
  (List.range c.db.bundles.size).findSome? fun b =>
    ItemKind.all.findSome? fun kind =>
      ((c.itemTable? kind b).bind (·.findUuid? uuid)).map fun i => (kind, b, i)

end EditorBundles.Catalog
