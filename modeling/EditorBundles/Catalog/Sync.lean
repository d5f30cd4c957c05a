import EditorBundles.Catalog.EntryTable
import EditorBundles.Catalog.FileName

/-!
# Tables and directories

Bringing a table in line with the files of a directory goes in three rounds: versions whose files are
gone are dropped, changed files are read again, and new files are added. A file that cannot be read
counts as none. Two kinds of version stay as they are: the user's own that no file holds yet, and
pristine ones behind installed ones.
-/

namespace EditorBundles.Catalog
set_option autoImplicit false
open PropertyList

/-- The names in a directory, in increasing order: of its directories or of its files, those that satisfy
a condition. -/
def listDir (fs : FileSystem) (dir : String) (directories : Bool) (keep : String → Bool) : List String :=
  let names := (fs.children dir).filterMap fun child =>
    if child.2.isDirectory = directories && keep child.1 then some child.1 else none
  names.mergeSort fun a b => a ≤ b

/-- A version of a row, its file, and whether it stays as it is. -/
structure Tracked where
  doc : Nat
  filename : String
  fixed : Bool
  deriving DecidableEq, Repr

namespace EntryTable

variable {ρ : Type} [Row ρ]

/-- The version that a row has at a locality. -/
def tracked? (t : EntryTable ρ) (docs : DocumentTable) (loc : Locality) (id : Nat) : Option Tracked := do
  let e ← t.entryAt? id
  if e.locality.contains loc then
    let doc ← e.docFor loc
    let shadowed := loc = { pristine := true } && e.locality.installed
    let filename := (docs.get doc).filename
    return {
      doc
      filename := if shadowed then e.shadowedFile.getD filename else filename
      fixed := shadowed || (loc = { own := true } && e.hasUnsavedOwn docs) }
  else none

/-- Drops versions whose files are not in a list, row by row. -/
def dropMissing (loc : Locality) (files : List String) (t : EntryTable ρ) (docs : DocumentTable) :
    List Nat → EntryTable ρ × DocumentTable
  | [] => (t, docs)
  | id :: ids =>
    if (t.tracked? docs loc id).any fun v => !files.contains v.filename && !v.fixed then
      let (t, docs, _) := t.drop id loc docs
      dropMissing loc files t docs ids
    else dropMissing loc files t docs ids

/-- Has a file another time than its document? -/
def hasChanged (fs : FileSystem) (path : String) (d : Document) : Bool :=
  match fs.modTime path with
  | .ok modTime => modTime ≠ d.modTime
  | .error _ => true

/-- Reads changed files of a list again, row by row, and gives the files that no row has. -/
def reloadChanged (fs : FileSystem) (dir : String) (loc : Locality) (files : List String)
    (t : EntryTable ρ) (docs : DocumentTable) : List Nat → EntryTable ρ × DocumentTable × List String
  | [] => (t, docs, files)
  | id :: ids =>
    match (t.tracked? docs loc id).filter fun v => files.contains v.filename with
    | none => reloadChanged fs dir loc files t docs ids
    | some v =>
      let path := Path.join dir v.filename
      let files := files.erase v.filename
      if hasChanged fs path (docs.get v.doc) && !v.fixed then
        match docs.load fs path with
        | .ok (docs, fresh) =>
          let (t, docs) := t.register id fresh loc docs
          reloadChanged fs dir loc files t docs ids
        | .error _ =>
          let (t, docs, _) := t.drop id loc docs
          reloadChanged fs dir loc files t docs ids
      else reloadChanged fs dir loc files t docs ids

/-- Adds the documents in new files: to the row with the same identity, if there is one. -/
def addNew (fs : FileSystem) (dir : String) (loc : Locality) (t : EntryTable ρ) (docs : DocumentTable) :
    List String → EntryTable ρ × DocumentTable
  | [] => (t, docs)
  | filename :: files =>
    match docs.load fs (Path.join dir filename) with
    | .error _ => addNew fs dir loc t docs files
    | .ok (docs, fresh) =>
      match ((docs.get fresh).rootString? "uuid").bind t.findUuid? with
      | some id =>
        let (t, docs) := t.register id fresh loc docs
        addNew fs dir loc t docs files
      | none => addNew fs dir loc (t.insert fresh loc docs).1 docs files

/-- Brings the versions at a locality in line with the files in a directory that have an extension. -/
def sync (t : EntryTable ρ) (docs : DocumentTable) (fs : FileSystem) (dir : String) (loc : Locality)
    (extension : String) : EntryTable ρ × DocumentTable :=
  if fs.isDirectory dir then
    let files := listDir fs dir false fun name => hasExtension name ".plist" || hasExtension name extension
    let (t, docs) := dropMissing loc files t docs (List.range t.size)
    let (t, docs, files) := reloadChanged fs dir loc files t docs (List.range t.size)
    addNew fs dir loc t docs files
  else t.dropVanished loc docs

end EntryTable

end EditorBundles.Catalog
