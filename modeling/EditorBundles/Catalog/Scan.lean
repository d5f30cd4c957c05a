import EditorBundles.Catalog.Basic
import EditorBundles.Catalog.Sync

/-!
# Scans

A scan brings the whole catalog in line with the directories of its configuration. It can be run in two
phases: manifests and languages first, all else later. An own bundle directory without a manifest gets
one, copied from the factory version if there is one; a factory bundle without a manifest is none.
-/

namespace EditorBundles.Catalog
set_option autoImplicit false
open PropertyList

/-- What the directory of a bundle is named after, without its extension. -/
def displayName (dirName : String) : String :=
  let cs := dirName.toList
  if cs.contains '.' then String.ofList ((cs.reverse.dropWhile (· ≠ '.')).drop 1).reverse else dirName

/-- Does a scan of a mode look at the items of a kind? -/
def ScanMode.covers (mode : ScanMode) (kind : ItemKind) : Bool :=
  if kind = .language then mode ≠ .rest else mode ≠ .languages

/-- Brings the items of several kinds in line with the directories of a bundle. -/
def syncItems (c : Catalog) (bundleDir : String) (loc : Locality) (id : Nat) : List ItemKind → Catalog
  | [] => c
  | kind :: kinds =>
    match c.db.bundles.row? id with
    | none => c
    | some b =>
      let (table, docs) :=
        (b.items.get kind).sync c.db.docs c.files (Path.join bundleDir kind.dirName) loc kind.extension
      let bundles := c.db.bundles.setRow id { b with items := b.items.set kind table }
      syncItems (c.withDb { c.db with bundles, docs }) bundleDir loc id kinds

/-- Brings the items of a bundle in line with its directory, as far as the mode covers them. -/
def syncBundleItems (c : Catalog) (bundleDir : String) (loc : Locality) (id : Nat) (mode : ScanMode) :
    Catalog :=
  c.syncItems bundleDir loc id (ItemKind.all.filter mode.covers)

/-- Stores a manifest for an own bundle directory that has none, and writes it there if it can: a copy of
a factory manifest if one is given, else a new one. -/
def makeManifest (c : Catalog) (bundleDir dirName : String) (factory : Option Nat) : Catalog × Nat :=
  let (c, manifest) := match factory with
    | some factory =>
      let (docs, manifest) := c.db.docs.copy factory
      (c.withDocs docs, manifest)
    | none => c.createDoc (displayName dirName) (some manifestName)
  let c := c.withDocs (c.db.docs.modify manifest fun d => { d with filename := manifestName })
  ((c.saveDoc manifest bundleDir).1, manifest)

/-- The factory manifest of a bundle, if it has one. -/
def factoryManifest? (c : Catalog) (id : Nat) : Option Nat :=
  (c.db.bundles.entryAt? id).bind fun e => if e.locality.isFactory then e.factoryDoc else none

/-- Records a manifest as the version of a bundle at a locality. -/
def registerManifest (c : Catalog) (id manifest : Nat) (loc : Locality) : Catalog :=
  let (bundles, docs) := c.db.bundles.register id manifest loc c.db.docs
  c.withDb { c.db with bundles, docs }

/-- Drops a version of a bundle. -/
def dropBundle (c : Catalog) (id : Nat) (loc : Locality) : Catalog :=
  let (bundles, docs, _) := c.db.bundles.drop id loc c.db.docs
  c.withDb { c.db with bundles, docs }

/-- Reads the manifest of a known bundle again if it has changed. Tells whether the bundle still has the
version. -/
def updateManifest (c : Catalog) (id : Nat) (bundleDir dirName : String) (loc : Locality) : Catalog × Bool :=
  let path := Path.join bundleDir manifestName
  if c.files.isFile path then
    match (c.db.bundles.entryAt? id).bind (·.docFor loc) with
    | none => (c, true)
    | some current =>
      if EntryTable.hasChanged c.files path (c.db.docs.get current) then
        match c.db.docs.load c.files path with
        | .ok (docs, fresh) => ((c.withDocs docs).registerManifest id fresh loc, true)
        | .error _ => (c.dropBundle id loc, false)
      else (c, true)
  else if loc.own then
    let (c, manifest) := c.makeManifest bundleDir dirName (c.factoryManifest? id)
    (c.registerManifest id manifest loc, true)
  else (c.dropBundle id loc, false)

/-- Stores the manifest of a new bundle directory, if it has or gets one. -/
def newManifest? (c : Catalog) (bundleDir dirName : String) (loc : Locality) (existing : Option Nat) :
    Option (Catalog × Nat) :=
  let path := Path.join bundleDir manifestName
  if c.files.isFile path then
    match c.db.docs.load c.files path with
    | .ok (docs, manifest) => some (c.withDocs docs, manifest)
    | .error _ => none
  else if loc.own then some (c.makeManifest bundleDir dirName (existing.bind c.factoryManifest?))
  else none

/-- Brings known bundles in line with the directories below a root, row by row, and gives the directories
that no row has. -/
def updateKnown (c : Catalog) (root : String) (loc : Locality) (mode : ScanMode) (dirs : List String) :
    List Nat → Catalog × List String
  | [] => (c, dirs)
  | id :: ids =>
    match (c.db.bundles.row? id).filter fun b => b.entry.locality.contains loc with
    | none => updateKnown c root loc mode dirs ids
    | some b =>
      if dirs.contains b.dirName then
        let dirs := dirs.erase b.dirName
        let shadowed := loc = { pristine := true } && b.entry.locality.installed
        if b.entry.locality.isHidden || shadowed then updateKnown c root loc mode dirs ids
        else
          let bundleDir := Path.join root b.dirName
          let (c, kept) := if mode = .rest then (c, true) else c.updateManifest id bundleDir b.dirName loc
          let c := if kept then c.syncBundleItems bundleDir loc id mode else c
          updateKnown c root loc mode dirs ids
      else if loc = { own := true } && b.entry.hasUnsavedOwn c.db.docs then updateKnown c root loc mode dirs ids
      else updateKnown (c.dropBundle id loc) root loc mode dirs ids

/-- The first bundle with a directory that is not gone. -/
def findDir? (c : Catalog) (dirName : String) : Option Nat :=
  c.db.bundles.rows.findIdx? fun b => !b.entry.isTombstone && b.dirName = dirName

/-- Adds the bundles in new directories below a root: to the row with the same directory, if there is
one. -/
def addBundles (c : Catalog) (root : String) (loc : Locality) (mode : ScanMode) : List String → Catalog
  | [] => c
  | dirName :: dirs =>
    let existing := c.findDir? dirName
    let shadowed := loc = { pristine := true }
      && existing.any fun id => (c.db.bundles.entryAt? id).any (·.locality.installed)
    let bundleDir := Path.join root dirName
    if shadowed || mode = .rest then addBundles c root loc mode dirs
    else match c.newManifest? bundleDir dirName loc existing with
      | none => addBundles c root loc mode dirs
      | some (c, manifest) =>
        match existing with
        | some id =>
          let c := (c.registerManifest id manifest loc).syncBundleItems bundleDir loc id mode
          addBundles c root loc mode dirs
        | none =>
          let (bundles, id) := c.db.bundles.insert manifest loc c.db.docs
          let bundles := ⟨bundles.rows.modify id fun b => { b with dirName }⟩
          let c := (c.withDb { c.db with bundles }).syncBundleItems bundleDir loc id mode
          addBundles c root loc mode dirs

/-- Brings the versions of bundles at a locality in line with the directories below a root. -/
def updateBundles (c : Catalog) (root : String) (loc : Locality) (mode : ScanMode) : Catalog :=
  if c.files.isDirectory root then
    let dirs := listDir c.files root true fun name => hasExtension name ".tmbundle"
    let (c, dirs) := c.updateKnown root loc mode dirs (List.range c.db.bundles.size)
    c.addBundles root loc mode dirs
  else
    let (bundles, docs) := c.db.bundles.dropVanished loc c.db.docs
    c.withDb { c.db with bundles, docs }

/-- Brings the versions of themes at a locality in line with a directory. -/
def updateThemes (c : Catalog) (dir : String) (loc : Locality) : Catalog :=
  let (themes, docs) := c.db.themes.sync c.db.docs c.files dir loc ".tmTheme"
  c.withDb { c.db with themes, docs }

/-- Brings the catalog in line with its directories, as far as the mode says. -/
def update (c : Catalog) (mode : ScanMode) : Catalog :=
  let c := if mode = .rest then c
    else (c.updateThemes c.config.pristineThemes { pristine := true }).updateThemes c.config.ownThemes
      { own := true }
  let c := c.updateBundles c.config.installedBundles { installed := true } mode
  let c := c.updateBundles c.config.pristineBundles { pristine := true } mode
  let c := c.updateBundles c.config.ownBundles { own := true } mode
  let c := if mode = .languages then c else { c with complete := true, pending := none }
  c.markDirty

/-- Runs the scan that is still to come, if there is one. Tells whether another one remains. -/
def resume (c : Catalog) : Catalog × Bool :=
  match c.pending with
  | none => (c, false)
  | some .languages => ({ (({ c with pending := none } : Catalog).update .languages) with pending := some .rest }, true)
  | some mode => (({ c with pending := none } : Catalog).update mode, false)

/-- Opens a catalog on a file system: the snapshot is read and the languages are scanned. -/
def openAt (config : Config) (files : FileSystem) (identities : Identities) :
    FileSystem × Except Fault Catalog :=
  match files.createDirectories config.dataDir with
  | (files, .error fault) => (files, .error (.file fault))
  | (files, .ok ()) =>
    let (db, files) := Database.load files config.snapshotPath config.rebuild
    let c : Catalog := { config, db, files, identities, lastFlush := files.clock, pending := some .languages }
    let c := c.resume.1
    (c.files, .ok c)

end EditorBundles.Catalog
