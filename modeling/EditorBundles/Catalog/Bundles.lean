import EditorBundles.Catalog.Scan

/-!
# Working on bundles

Operations take the number of a bundle's row and give nothing where there is no such row, or where a
document that they read is not live. A bundle that came with the editor cannot be deleted: it is hidden
until it is restored, and then read afresh.
-/

namespace EditorBundles.Catalog
set_option autoImplicit false
open PropertyList

/-- The directory of a bundle's support files. -/
def supportName : String := "Support"

/-- The bundles with a version in effect, ordered by name whatever the case. -/
def bundles (c : Catalog) : List Nat :=
  let key (id : Nat) : String := Text.lower (((c.db.bundles.entryAt? id).map (·.name)).getD "")
  c.db.bundles.visible.mergeSort fun a b => key a ≤ key b

/-- The manifest in effect. -/
def bundleInfo? (c : Catalog) (id : Nat) : Option (Option Document) := do
  c.effectiveDoc? (← c.db.bundles.entryAt? id)

/-- The user's own manifest, which is made if there is none. -/
def editBundle? (c : Catalog) (id : Nat) : Option (Catalog × Nat) := do
  let (bundles, docs, own) ← c.db.bundles.editable? id c.db.docs
  return ((c.withDb { c.db with bundles, docs }).markDirty, own)

/-- Adds a bundle of the user's own. Nothing is written until it is saved. -/
def newBundle (c : Catalog) (name : String) : Catalog × Nat :=
  let (c, manifest) := c.createDoc name (some manifestName)
  let (bundles, id) := c.db.bundles.insert manifest { own := true } c.db.docs
  ((c.withDb { c.db with bundles }).markDirty, id)

/-- Changes a bundle. -/
def modifyBundle (c : Catalog) (id : Nat) (change : Bundle → Bundle) : Catalog :=
  c.withDb { c.db with bundles := ⟨c.db.bundles.rows.modify id change⟩ }

/-- The own document of an entry that can be saved. -/
def savable? (e : Entry) : Option Nat := if e.locality.own then e.ownDoc else none

/-- The file name of an own document, which is chosen if it has none. -/
def nameDoc (c : Catalog) (doc : Nat) (choose : String → String) : Catalog :=
  let d := c.db.docs.get doc
  if d.filename.isEmpty then
    c.withDocs (c.db.docs.set doc { d with filename := choose ((d.rootString? "name").getD "") })
  else c

/-- Writes the user's own manifest. The first time a directory is chosen. -/
def saveBundle? (c : Catalog) (id : Nat) : Option (Catalog × Except Fault Unit) := do
  let b ← c.db.bundles.row? id
  match savable? b.entry with
  | none => return (c, .error (.notEditable (.bundle id)))
  | some own =>
    let d ← c.liveDoc? own
    let choose (name : String) := freeName c.files c.config.ownBundles name ".tmbundle"
    let dirName := if b.dirName.isEmpty then choose ((d.rootString? "name").getD "") else b.dirName
    let c := c.modifyBundle id fun b => { b with dirName }
    match c.files.createDirectories (c.ownDir dirName) with
    | (files, .error fault) => return ({ c with files }, .error (.file fault))
    | (files, .ok ()) =>
      let c := ({ c with files } : Catalog).nameDoc own fun _ => manifestName
      match c.saveDoc own (c.ownDir dirName) with
      | (c, .error fault) => return (c, .error fault)
      | (c, .ok ()) =>
        let c := c.modifyBundle id fun b => { b with entry := { b.entry with modified := false } }
        return (c.markDirty, .ok ())

/-- Removes directories that are there. -/
def removeDirectories (fs : FileSystem) : List String → FileSystem
  | [] => fs
  | dir :: dirs =>
    match fs.removeDirectory dir with
    | .ok fs => removeDirectories fs dirs
    | .error _ => removeDirectories fs dirs

/-- The directories of the own and the installed version of a bundle. -/
def doomedDirs (c : Catalog) (b : Bundle) : List String :=
  let own := c.ownDir b.dirName
  let installed := Path.join c.config.installedBundles b.dirName
  if b.dirName.isEmpty then []
  else ((if c.files.isDirectory own then [own] else [])
    ++ (if b.entry.locality.installed && c.files.isDirectory installed then [installed] else []))

/-- Deletes the own and the installed version of a bundle with all that is in them. A pristine version is
hidden instead. Tells whether the bundle is gone. -/
def deleteBundle? (c : Catalog) (id : Nat) : Option (Catalog × Except Fault Bool) := do
  let b ← c.db.bundles.row? id
  let locality := b.entry.locality
  let doomed := c.doomedDirs b
  let (b, docs) := Row.release { own := true, installed := true } b c.db.docs
  let finish (c : Catalog) (removed : Bool) : Catalog × Except Fault Bool :=
    (({ c with files := removeDirectories c.files doomed } : Catalog).markDirty, .ok removed)
  if locality.pristine then
    let docs := dropDoc docs b.entry.ownDoc
    let entry :=
      { b.entry with ownDoc := none, locality := { pristine := true, disabled := true }, modified := false }
    let c := c.withDb { c.db with bundles := c.db.bundles.setRow id { b with entry }, docs }
    return finish c false
  else
    let docs := if locality.installed then dropDoc docs b.entry.factoryDoc else docs
    let entry := if locality.installed then
        { b.entry with factoryDoc := none, locality := { locality with installed := false } }
      else b.entry
    let c := c.withDb { c.db with bundles := c.db.bundles.setRow id { b with entry }, docs }
    if b.dirName.isEmpty then return finish (c.dropBundle id Locality.sources) true
    else match c.db.bundles.delete id (c.ownDir b.dirName) c.db.docs c.files with
      | .error fault => return (c, .error (.file fault))
      | .ok (bundles, docs, files) =>
        return finish { c.withDb { c.db with bundles, docs } with files } true

/-- Shows a hidden bundle again that came with the editor, and reads it afresh. Tells whether it has a
manifest that can be read. -/
def restoreBundle? (c : Catalog) (id : Nat) : Option (Catalog × Except Fault Bool) := do
  let b ← c.db.bundles.row? id
  if b.entry.locality.pristine && b.entry.locality.disabled then
    let bundleDir := Path.join c.config.pristineBundles b.dirName
    let path := Path.join bundleDir manifestName
    if c.files.isFile path then
      match c.db.docs.load c.files path with
      | .error _ => return (c, .ok false)
      | .ok (docs, manifest) =>
        let c := (c.withDocs docs).modifyBundle id fun b =>
          { b with entry := { b.entry with locality := { pristine := true } } }
        let c := c.registerManifest id manifest { pristine := true }
        return ((c.syncBundleItems bundleDir { pristine := true } id .full).markDirty, .ok true)
    else return (c, .ok false)
  else return (c, .error (.notRestorable id))

/-! ## Places -/

/-- The name of a bundle's directory. -/
def bundleDirName? (c : Catalog) (id : Nat) : Option String := (c.db.bundles.row? id).map (·.dirName)

/-- The locality of a bundle. -/
def bundleLocality? (c : Catalog) (id : Nat) : Option Locality := (c.db.bundles.entryAt? id).map (·.locality)

/-- The directory of a bundle: of its factory version, or else of the user's own. -/
def bundlePath? (c : Catalog) (id : Nat) : Option String :=
  (c.db.bundles.row? id).map fun b =>
    if b.entry.locality.isFactory then c.factoryDir b.entry.locality b.dirName else c.ownDir b.dirName

/-- The directory of a bundle's support files: the user's own if there is one, or else that of the factory
version. -/
def supportPath? (c : Catalog) (id : Nat) : Option (Option String) :=
  (c.db.bundles.row? id).map fun b =>
    let own := Path.join (c.ownDir b.dirName) supportName
    let factory := Path.join (c.factoryDir b.entry.locality b.dirName) supportName
    if b.dirName.isEmpty then none
    else if b.entry.locality.own && c.files.isDirectory own then some own
    else if c.files.isDirectory factory then some factory
    else none

/-- The time of the factory manifest, if there is one. -/
def bundleModDate? (c : Catalog) (id : Nat) : Option (Option Int) :=
  (c.db.bundles.row? id).map fun b =>
    if b.entry.locality.isFactory then
      (c.files.modTime (Path.join (c.factoryDir b.entry.locality b.dirName) manifestName)).toOption
    else none

/-- A bundle that came with the editor or was installed. -/
structure BundleSummary where
  id : Nat
  dirName : String
  uuid : String
  disabled : Bool
  modDate : Int
  deriving DecidableEq, Repr

/-- All bundles that came with the editor or were installed. Hidden ones have no time. -/
def installedBundles (c : Catalog) : List BundleSummary :=
  (List.range c.db.bundles.size).filterMap fun id => do
    let b ← c.db.bundles.row? id
    if b.entry.locality.isFactory then
      let disabled := b.entry.locality.isHidden
      let modDate := if disabled then 0 else ((c.bundleModDate? id).join).getD 0
      return { id, dirName := b.dirName, uuid := b.entry.uuid, disabled, modDate }
    else none

/-- The variables that the snippets and commands of a bundle run with. -/
def bundleEnvironment? (c : Catalog) (id : Nat) : Option (List (String × String)) := do
  match ← c.supportPath? id with
  | some path => return [("TM_BUNDLE_SUPPORT", path)]
  | none => return []

end EditorBundles.Catalog
