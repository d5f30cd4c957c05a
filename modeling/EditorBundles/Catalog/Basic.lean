import EditorBundles.Catalog.Config
import EditorBundles.Catalog.Snapshot

/-!
# The catalog

The catalog lists themes, bundles and the items of bundles in all their versions. It works in memory on
its tables and on the file system that it was opened on; a snapshot of the tables is written when
something has changed.
-/

namespace EditorBundles
set_option autoImplicit false
open PropertyList

namespace Catalog

/-- What can be named in a fault. -/
inductive Subject where
  | theme (id : Nat)
  | bundle (id : Nat)
  | item (kind : ItemKind) (owner id : Nat)
  deriving DecidableEq, Repr

/-- How a fault names its subject. -/
def Subject.describe : Subject → String
  | .theme id => "theme " ++ toString id
  | .bundle id => "bundle " ++ toString id
  | .item kind owner id => kind.name ++ " " ++ toString id ++ " in bundle " ++ toString owner

/-- Why an operation on the catalog fails. -/
inductive Fault where
  | document (fault : PropertyList.Fault)
  | file (fault : FileFault)
  | notEditable (subject : Subject)
  | disabled (subject : Subject)
  | notRestorable (bundle : Nat)
  | missingManifest (path : String)
  deriving DecidableEq, Repr

/-- The wording of a fault. -/
def Fault.message : Fault → String
  | .document fault => fault.message
  | .file fault => fault.name
  | .notEditable subject => subject.describe ++ " has no local version to save"
  | .disabled subject => "Invalid catalog state: " ++ subject.describe ++ " is disabled"
  | .notRestorable bundle =>
    "Invalid catalog state: bundle " ++ toString bundle ++ " is not a disabled shipped bundle"
  | .missingManifest path => "Bundle has no manifest at " ++ path

/-- How much of the directories a scan walks: all, manifests and languages only, or all that such a scan
leaves out. -/
inductive ScanMode where
  | full
  | languages
  | rest
  deriving DecidableEq, Repr

/-- Identities for new documents, and how many of them have been drawn. -/
structure Identities where
  nth : Nat → String
  drawn : Nat := 0

/-- The next identity. -/
def Identities.draw (s : Identities) : String × Identities := (s.nth s.drawn, { s with drawn := s.drawn + 1 })

end Catalog

/-- A catalog. `pending` is the scan that is still to come, and `complete` tells that all directories
have been scanned. -/
structure Catalog where
  config : Catalog.Config
  db : Catalog.Database := {}
  files : FileSystem := {}
  identities : Catalog.Identities
  dirty : Bool := false
  lastFlush : Int := 0
  pending : Option Catalog.ScanMode := none
  complete : Bool := false

namespace Catalog

/-- The file of a bundle's manifest. -/
def manifestName : String := "info.plist"

/-- Notes that the tables differ from the snapshot. -/
def markDirty (c : Catalog) : Catalog := { c with dirty := true }

/-- Puts other tables into the catalog. -/
def withDb (c : Catalog) (db : Database) : Catalog := { c with db }

/-- Puts another table of documents into the catalog. -/
def withDocs (c : Catalog) (docs : DocumentTable) : Catalog := { c with db := { c.db with docs } }

/-- Stores a new document with a name and an identity of its own. -/
def createDoc (c : Catalog) (name : String) (filename : Option String) : Catalog × Nat :=
  let (uuid, identities) := c.identities.draw
  let (docs, doc) := c.db.docs.create name uuid filename
  ({ c.withDocs docs with identities }, doc)

/-- Writes a document to its file in a directory. -/
def saveDoc (c : Catalog) (doc : Nat) (dir : String) : Catalog × Except Fault Unit :=
  match c.db.docs.save c.files doc dir with
  | (docs, files, .ok _) => ({ c.withDocs docs with files }, .ok ())
  | (docs, files, .error fault) => ({ c.withDocs docs with files }, .error (.document fault))

/-- The directory of the user's own version of a bundle. -/
def ownDir (c : Catalog) (dirName : String) : String := Path.join c.config.ownBundles dirName

/-- The directory of the factory version of a bundle. -/
def factoryDir (c : Catalog) (locality : Locality) (dirName : String) : String :=
  Path.join (if locality.installed then c.config.installedBundles else c.config.pristineBundles) dirName

/-- The document behind a number, if it is given and live. -/
def liveDoc? (c : Catalog) (doc : Nat) : Option Document :=
  if c.db.docs.isLive doc then some (c.db.docs.get doc) else none

/-- The document in effect for an entry, if there is one. Gives nothing where the document that it names is
not live. -/
def effectiveDoc? (c : Catalog) (e : Entry) : Option (Option Document) :=
  match e.resolve with
  | none => some none
  | some doc => (c.liveDoc? doc).map some

/-! ## Snapshots -/

/-- Writes the snapshot if the tables differ from it. -/
def flush (c : Catalog) : Catalog × Except Fault Unit :=
  if c.dirty then
    match c.db.save c.files c.config.dataDir c.config.snapshotPath with
    | (files, .ok ()) => ({ c with files, dirty := false, lastFlush := files.clock }, .ok ())
    | (files, .error fault) => ({ c with files }, .error (.file fault))
  else ({ c with lastFlush := c.files.clock }, .ok ())

/-- Writes the snapshot if the tables differ from it and the last one is old enough at a time. Tells
whether it was written. -/
def flushIfDue (c : Catalog) (now : Int) : Catalog × Except Fault Bool :=
  if c.dirty && (c.config.interval * 1000000000 : Int) ≤ now - c.lastFlush then
    let (c, result) := c.flush
    (c, result.map fun _ => true)
  else (c, .ok false)

/-- Writes those themes of a list of rows that were changed to their files, up to the first fault. -/
def saveThemes (c : Catalog) : List Nat → Catalog × Except Fault Unit
  | [] => (c, .ok ())
  | id :: ids =>
    match (c.db.themes.entryAt? id).bind fun e => if e.modified && e.locality.own then e.ownDoc else none with
    | none => saveThemes c ids
    | some own =>
      match c.saveDoc own c.config.ownThemes with
      | (c, .error fault) => (c, .error fault)
      | (c, .ok ()) =>
        let themes := c.db.themes.modifyEntry id fun e => { e with modified := false }
        saveThemes (c.withDb { c.db with themes }) ids

/-- Writes every changed theme to its file, and then the snapshot. -/
def commit (c : Catalog) : Catalog × Except Fault Unit :=
  match c.saveThemes (List.range c.db.themes.size) with
  | (c, .error fault) => (c, .error fault)
  | (c, .ok ()) => c.markDirty.flush

/-- The files that a catalog leaves behind: the snapshot is written if it can be. -/
def close (c : Catalog) : FileSystem := c.flush.1.files

/-! ## Languages -/

/-- The language of files with an extension. -/
def syntaxFor? (c : Catalog) (ext : String) : Option String := Entries.get? c.db.syntaxes ext

/-- Gives a language to files with an extension. -/
def setSyntax (c : Catalog) (ext name : String) : Catalog :=
  (c.withDb { c.db with syntaxes := associate ext name c.db.syntaxes }).markDirty

end Catalog

end EditorBundles
