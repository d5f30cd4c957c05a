import EditorBundles.Catalog.Bundle
import EditorBundles.Json.Printer
import EditorBundles.PropertyList.Cells

/-!
# Snapshots

A snapshot writes all tables of the catalog down as they are, row by row and slot by slot, so that reading
it back gives equal tables. One that cannot be read, or that has another version, is discarded.
-/

namespace EditorBundles.Catalog
set_option autoImplicit false
open PropertyList
open Json (Decoder)

/-- The tables of the catalog. `syntaxes` has the names of languages by the extensions of files, in
increasing order. -/
structure Database where
  themes : EntryTable Entry := {}
  bundles : EntryTable Bundle := {}
  docs : DocumentTable := {}
  syntaxes : List (String × String) := []
  deriving DecidableEq, Repr, Inhabited

/-- The version of the layout of snapshots. -/
def snapshotVersion : Nat := 1

/-! ## Writing -/

/-- The JSON of a slot number that can be missing. -/
def optionalSlotToJson : Option Nat → Json
  | some slot => slotToJson slot
  | none => .null

/-- The JSON of an entry. -/
def Entry.toJson (e : Entry) : Json :=
  .object ([
    ("uuid", .string e.uuid),
    ("name", .string e.name),
    ("locality", .string e.locality.print),
    ("modified", .bool e.modified),
    ("pristine_ref", optionalSlotToJson e.factoryDoc),
    ("local_ref", optionalSlotToJson e.ownDoc)]
    ++ (e.shadowedFile.map fun file => ("shadowed_file", Json.string file)).toList)

/-- The JSON of a table of entries. -/
def entriesToJson (t : EntryTable Entry) : Json := .array (t.rows.map Entry.toJson)

/-- The JSON of a bundle. -/
def Bundle.toJson (b : Bundle) : Json :=
  .object [
    ("entry", b.entry.toJson),
    ("dir_name", .string b.dirName),
    ("items", .array (b.items.toList.map entriesToJson))]

/-- The JSON of the tables. -/
def Database.toJson (db : Database) : Json :=
  .object [
    ("version", .integer snapshotVersion),
    ("themes", entriesToJson db.themes),
    ("bundles", .array (db.bundles.rows.map Bundle.toJson)),
    ("plists", db.docs.toJson),
    ("syntax_assocs", .object (db.syntaxes.map fun s => (s.1, .string s.2)))]

/-! ## Reading back -/

/-- Reads an entry. -/
def Entry.decoder : Decoder Entry :=
  Decoder.record [
    Decoder.field "uuid" Decoder.string fun e uuid => { e with uuid },
    Decoder.field "name" Decoder.string fun e name => { e with name },
    Decoder.field "locality" (Decoder.string.mapFit Locality.parse?) fun e locality => { e with locality },
    Decoder.field "modified" Decoder.bool fun e modified => { e with modified },
    Decoder.nullableField "pristine_ref" slotDecoder fun e factoryDoc => { e with factoryDoc },
    Decoder.nullableField "local_ref" slotDecoder fun e ownDoc => { e with ownDoc },
    Decoder.optionalField "shadowed_file" (Decoder.optional Decoder.string) fun e shadowedFile =>
      { e with shadowedFile }] {}

/-- Reads a table of rows. -/
def tableDecoder {ρ : Type} (row : Decoder ρ) : Decoder (EntryTable ρ) := (Decoder.list row).map EntryTable.mk

/-- Reads a bundle. -/
def Bundle.decoder : Decoder Bundle :=
  Decoder.record [
    Decoder.field "entry" Entry.decoder fun b entry => { b with entry },
    Decoder.field "dir_name" Decoder.string fun b dirName => { b with dirName },
    Decoder.field "items" ((Decoder.list (tableDecoder Entry.decoder)).mapFit PerKind.ofList?) fun b items =>
      { b with items }] {}

/-- The name of a language put at the place of its extension. -/
def associate (ext name : String) : List (String × String) → List (String × String)
  | [] => [(ext, name)]
  | (e, n) :: rest =>
    if e = ext then (ext, name) :: rest
    else if ext < e then (ext, name) :: (e, n) :: rest
    else (e, n) :: associate ext name rest

/-- Reads the version of a snapshot and its tables. -/
def Database.decoder : Decoder (Nat × Database) :=
  Decoder.record [
    Decoder.field "version" (Decoder.natural 0x100000000) fun s version => (version, s.2),
    Decoder.field "themes" (tableDecoder Entry.decoder) fun s themes => (s.1, { s.2 with themes }),
    Decoder.field "bundles" (tableDecoder Bundle.decoder) fun s bundles => (s.1, { s.2 with bundles }),
    Decoder.field "plists" DocumentTable.decoder fun s docs => (s.1, { s.2 with docs }),
    Decoder.field "syntax_assocs" (Decoder.entries Decoder.string) fun s pairs =>
      (s.1, { s.2 with syntaxes := pairs.foldl (fun sorted p => associate p.1 p.2 sorted) [] })] (0, {})

/-- The tables that a text writes. -/
def Database.parse? (text : String) : Option Database :=
  match Database.decoder.run text with
  | .ok (version, db) => if version = snapshotVersion then some db else none
  | .error _ => none

/-! ## Files -/

/-- The tables in a snapshot, and the file system without it if it was discarded; empty tables where there
is none. -/
def Database.load (fs : FileSystem) (path : String) (rebuild : Bool) : Database × FileSystem :=
  let discarded := match fs.removeFile path with
    | .ok fs => fs
    | .error _ => fs
  if !fs.pathExists path then ({}, fs)
  else if rebuild then ({}, discarded)
  else match (fs.read path).toOption.bind String.fromUTF8? |>.bind Database.parse? with
    | some db => (db, fs)
    | none => ({}, discarded)

/-- Writes the tables to a file in one step. The directory around it is made if it is missing. -/
def Database.save (db : Database) (fs : FileSystem) (dir path : String) : FileSystem × Except FileFault Unit :=
  match fs.createDirectories dir with
  | (fs, .error fault) => (fs, .error fault)
  | (fs, .ok ()) =>
    match fs.replaceFile path db.toJson.compact.toUTF8 FileSystem.temporaryMode with
    | .ok fs => (fs, .ok ())
    | .error fault => (fs, .error fault)

end EditorBundles.Catalog
