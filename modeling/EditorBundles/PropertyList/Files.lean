import EditorBundles.FileSystem.Basic
import EditorBundles.PropertyList.Editing
import EditorBundles.PropertyList.Import
import EditorBundles.PropertyList.Printer
import EditorBundles.PropertyList.Reader

/-!
# Documents in files

Loading a document notes the name of its file and the time of the file's last change. Saving
replaces the file in one step, keeps the permissions of a file that is there, and leaves a file alone
that already holds the same text, so that its time does not move.
-/

namespace EditorBundles.PropertyList
set_option autoImplicit false

/-- Why an operation on a document fails. -/
inductive Fault where
  | file (fault : FileFault)
  | reading (fault : ReadFault)
  | importing (fault : ImportFault)
  | missingFilename
  deriving DecidableEq, Repr

/-- The wording of a fault. -/
def Fault.message : Fault → String
  | .file fault => fault.name
  | .reading (.markup fault) => "XML error: " ++ fault.message
  | .reading (.unknownElement name) => "Unsupported plist element <" ++ name ++ ">"
  | .reading fault => "Invalid plist: " ++ fault.detail
  | .importing fault => fault.message
  | .missingFilename => "Cannot save a plist that has no filename"

namespace Document

/-- The document that octets write. -/
def parse (octets : ByteArray) : Except ReadFault Document := (read octets).map ofEntries

/-- The text of a document. -/
def print (d : Document) : String := PropertyList.print d.root

/-- A document with a name and an identity of its own. -/
def create (name uuid : String) : Document :=
  (new.setString rootSlot "name" name).setString rootSlot "uuid" uuid

/-- The document in a file. -/
def load (fs : FileSystem) (path : String) : Except Fault Document := do
  let octets ← (fs.read path).mapError Fault.file
  let d ← (parse octets).mapError Fault.reading
  let modTime ← (fs.modTime path).mapError Fault.file
  return { d with filename := (Path.fileName? path).getD d.filename, modTime }

/-- The permissions that a written file gets: those of the file that it replaces, if there is one. -/
def savedMode (fs : FileSystem) (path : String) : Nat := (fs.modeAt path).toOption.getD FileSystem.fileMode

/-- Writes a document to the file of its name in a directory, which is made if it is missing. The
document notes the new time of the file. -/
def save (d : Document) (fs : FileSystem) (dir : String) : FileSystem × Except Fault (Document × String) :=
  let path := Path.join dir d.filename
  let octets := d.print.toUTF8
  let stamp (fs : FileSystem) : Except Fault (Document × String) :=
    match fs.modTime path with
    | .ok modTime => .ok ({ d with modTime }, path)
    | .error fault => .error (.file fault)
  if d.filename.isEmpty then (fs, .error .missingFilename)
  else if fs.holds path octets then (fs, stamp fs)
  else match fs.createDirectories dir with
    | (fs, .error fault) => (fs, .error (.file fault))
    | (fs, .ok ()) =>
      match fs.replaceFile path octets (savedMode fs path) with
      | .error fault => (fs, .error (.file fault))
      | .ok fs => (fs, stamp fs)

end Document

end EditorBundles.PropertyList
