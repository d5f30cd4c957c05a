import EditorBundles.Catalog.Scan
import EditorBundles.Proofs.Catalog.Views

/-!
# Views of catalogs

A catalog as it is seen has documents in its rows, and no table of documents that says where they are. A scan
of what is seen goes as the scan of the catalog does.
-/

namespace EditorBundles.Catalog
set_option autoImplicit false
open PropertyList

/-- A catalog with documents in place of their numbers. -/
structure CatalogView where
  config : Config
  themes : TableView EntryView
  bundles : TableView BundleView
  syntaxes : List (String × String)
  files : FileSystem
  identities : Identities
  dirty : Bool
  lastFlush : Int
  pending : Option ScanMode
  complete : Bool

/-- The bundle with the items of one kind brought in line with a directory. -/
def BundleView.syncKind (fs : FileSystem) (dir : String) (loc : Locality) (kind : ItemKind) (b : BundleView) : BundleView :=
  { b with items := b.items.set kind ((b.items.get kind).sync fs dir loc kind.extension) }

/-- The bundle with the items of some kinds brought in line with its directory. -/
def BundleView.syncItems (fs : FileSystem) (bundleDir : String) (loc : Locality) (kinds : List ItemKind) (b : BundleView) :
    BundleView :=
  { b with
    items := b.items.map fun kind table =>
      if kind ∈ kinds then table.sync fs (Path.join bundleDir kind.dirName) loc kind.extension else table }

theorem BundleView.get_syncItems (fs : FileSystem) (bundleDir : String) (loc : Locality) (kinds : List ItemKind)
    (b : BundleView) (kind : ItemKind) : (b.syncItems fs bundleDir loc kinds).items.get kind =
      if kind ∈ kinds then (b.items.get kind).sync fs (Path.join bundleDir kind.dirName) loc kind.extension
      else b.items.get kind :=
  PerKind.get_map _ _ kind

namespace CatalogView

/-- Brings the items of some kinds of a bundle in line with its directory. -/
def syncItems (v : CatalogView) (bundleDir : String) (loc : Locality) (id : Nat) (kinds : List ItemKind) : CatalogView :=
  { v with bundles := v.bundles.modifyRow id fun b => b.syncItems v.files bundleDir loc kinds }

/-- Writes a manifest to a bundle directory if it can. -/
def writeManifest (v : CatalogView) (bundleDir : String) (manifest : Document) : CatalogView × Document :=
  let d := { manifest with filename := manifestName }
  match d.save v.files bundleDir with
  | (files, .ok (d, _)) => ({ v with files }, d)
  | (files, .error _) => ({ v with files }, d)

/-- Makes a manifest for an own bundle directory that has none, and writes it there if it can. -/
def makeManifest (v : CatalogView) (bundleDir dirName : String) : Option Document → CatalogView × Document
  | some factory => v.writeManifest bundleDir factory.copy
  | none =>
    let (uuid, identities) := v.identities.draw
    ({ v with identities } : CatalogView).writeManifest bundleDir (Document.create (displayName dirName) uuid)

/-- The factory manifest of a bundle, if it has one. -/
def factoryManifest? (v : CatalogView) (id : Nat) : Option Document :=
  (v.bundles.entryAt? id).bind fun e => if e.locality.isFactory then e.factory else none

/-- Records a manifest as the version of a bundle at a locality. -/
def registerManifest (v : CatalogView) (id : Nat) (manifest : Document) (loc : Locality) : CatalogView :=
  { v with bundles := v.bundles.register id manifest loc }

/-- Drops a version of a bundle. -/
def dropBundle (v : CatalogView) (id : Nat) (loc : Locality) : CatalogView := { v with bundles := v.bundles.drop id loc }

/-- Reads the manifest of a known bundle again if it has changed. Tells whether the bundle still has the
version. -/
def updateManifest (v : CatalogView) (id : Nat) (bundleDir dirName : String) (loc : Locality) : CatalogView × Bool :=
  let path := Path.join bundleDir manifestName
  if v.files.isFile path then
    match (v.bundles.entryAt? id).bind (·.version loc) with
    | none => (v, true)
    | some current =>
      if EntryTable.hasChanged v.files path current then
        match Document.load v.files path with
        | .ok fresh => (v.registerManifest id fresh loc, true)
        | .error _ => (v.dropBundle id loc, false)
      else (v, true)
  else if loc.own then
    let (v, manifest) := v.makeManifest bundleDir dirName (v.factoryManifest? id)
    (v.registerManifest id manifest loc, true)
  else (v.dropBundle id loc, false)

/-- The manifest of a new bundle directory, if it has or gets one. -/
def newManifest? (v : CatalogView) (bundleDir dirName : String) (loc : Locality) (existing : Option Nat) :
    Option (CatalogView × Document) :=
  let path := Path.join bundleDir manifestName
  if v.files.isFile path then
    match Document.load v.files path with
    | .ok manifest => some (v, manifest)
    | .error _ => none
  else if loc.own then some (v.makeManifest bundleDir dirName (existing.bind v.factoryManifest?))
  else none

/-- Brings a bundle in line with a directory that it has. -/
def updateInDir (v : CatalogView) (id : Nat) (bundleDir dirName : String) (loc : Locality) (mode : ScanMode) : CatalogView :=
  let (v, kept) := if mode = .rest then (v, true) else v.updateManifest id bundleDir dirName loc
  if kept then v.syncItems bundleDir loc id (ItemKind.all.filter mode.covers) else v

/-- Brings known bundles in line with the directories below a root, row by row, and gives the directories
that no row has. -/
def updateKnown (v : CatalogView) (root : String) (loc : Locality) (mode : ScanMode) (dirs : List String) :
    List Nat → CatalogView × List String
  | [] => (v, dirs)
  | id :: ids =>
    match (v.bundles.row? id).filter fun b => b.entry.locality.contains loc with
    | none => updateKnown v root loc mode dirs ids
    | some b =>
      if dirs.contains b.dirName then
        let dirs := dirs.erase b.dirName
        let shadowed := loc = { pristine := true } && b.entry.locality.installed
        if b.entry.locality.isHidden || shadowed then updateKnown v root loc mode dirs ids
        else
          updateKnown (v.updateInDir id (Path.join root b.dirName) b.dirName loc mode) root loc mode dirs ids
      else if loc = { own := true } && b.entry.hasUnsavedOwn then updateKnown v root loc mode dirs ids
      else updateKnown (v.dropBundle id loc) root loc mode dirs ids

/-- The first bundle with a directory that is not gone. -/
def findDir? (v : CatalogView) (dirName : String) : Option Nat :=
  v.bundles.rows.findIdx? fun b => !b.entry.isTombstone && b.dirName = dirName

/-- Records the manifest in a new directory: in the row with the same directory, if there is one, and else in a
new row. -/
def addBundle (v : CatalogView) (dirName : String) (manifest : Document) (loc : Locality) : Option Nat → CatalogView × Nat
  | some id => (v.registerManifest id manifest loc, id)
  | none =>
    let (bundles, id) := v.bundles.insert manifest loc
    ({ v with bundles := bundles.modifyRow id fun b => { b with dirName } }, id)

/-- Adds the bundles in new directories below a root. -/
def addBundles (v : CatalogView) (root : String) (loc : Locality) (mode : ScanMode) : List String → CatalogView
  | [] => v
  | dirName :: dirs =>
    let existing := v.findDir? dirName
    let shadowed := loc = { pristine := true }
      && existing.any fun id => (v.bundles.entryAt? id).any (·.locality.installed)
    let bundleDir := Path.join root dirName
    if shadowed || mode = .rest then addBundles v root loc mode dirs
    else match v.newManifest? bundleDir dirName loc existing with
      | none => addBundles v root loc mode dirs
      | some (v, manifest) =>
        let (v, id) := v.addBundle dirName manifest loc existing
        addBundles (v.syncItems bundleDir loc id (ItemKind.all.filter mode.covers)) root loc mode dirs

/-- The directories below a root that can be those of bundles. -/
def bundleDirs (fs : FileSystem) (root : String) : List String := listDir fs root true fun name => hasExtension name ".tmbundle"

/-- Brings the versions of bundles at a locality in line with the directories below a root. -/
def updateBundles (v : CatalogView) (root : String) (loc : Locality) (mode : ScanMode) : CatalogView :=
  if v.files.isDirectory root then
    let (v, dirs) := v.updateKnown root loc mode (bundleDirs v.files root) (List.range v.bundles.size)
    v.addBundles root loc mode dirs
  else { v with bundles := v.bundles.dropVanished loc }

/-- Brings the versions of themes at a locality in line with a directory. -/
def updateThemes (v : CatalogView) (dir : String) (loc : Locality) : CatalogView :=
  { v with themes := v.themes.sync v.files dir loc ".tmTheme" }

/-- Brings what is seen in line with the directories, as far as the mode says. -/
def update (v : CatalogView) (mode : ScanMode) : CatalogView :=
  let v := if mode = .rest then v
    else (v.updateThemes v.config.pristineThemes { pristine := true }).updateThemes v.config.ownThemes { own := true }
  let v := v.updateBundles v.config.installedBundles { installed := true } mode
  let v := v.updateBundles v.config.pristineBundles { pristine := true } mode
  let v := v.updateBundles v.config.ownBundles { own := true } mode
  let v := if mode = .languages then v else { v with complete := true, pending := none }
  { v with dirty := true }

end CatalogView

end EditorBundles.Catalog
