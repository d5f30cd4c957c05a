import EditorBundles.Json.Decoder
import EditorBundles.PropertyList.DocumentTable

/-!
# Documents as stored cells

A snapshot keeps a document table by table, slots and free stacks included, so that reading it back
gives the same document and not only an equal value. A free stack is written with its top last.
-/

namespace EditorBundles.PropertyList
set_option autoImplicit false

/-- The JSON of a slot number. -/
def slotToJson (slot : Nat) : Json := .integer slot

/-- The JSON of a cell: an object with the name of its kind. -/
def Cell.toJson : Cell → Json
  | .string slot => .object [("String", slotToJson slot)]
  | .dict slot => .object [("Dict", slotToJson slot)]
  | .array slot => .object [("Array", slotToJson slot)]
  | .integer n => .object [("Integer", .integer n.toInt)]
  | .bool b => .object [("Bool", .bool b)]

/-- The JSON of a document's tables. -/
def Document.toJson (d : Document) : Json :=
  .object [
    ("filename", .string d.filename),
    ("mod_time", .integer d.modTime),
    ("strings", .array (d.strings.toList.map .string)),
    ("dicts", .array (d.dicts.toList.map fun entries => .object (entries.map fun e => (e.1, e.2.toJson)))),
    ("arrays", .array (d.arrays.toList.map fun items => .array (items.map Cell.toJson))),
    ("free_strings", .array (d.freeStrings.reverse.map slotToJson)),
    ("free_dicts", .array (d.freeDicts.reverse.map slotToJson)),
    ("free_arrays", .array (d.freeArrays.reverse.map slotToJson))]

/-- The JSON of a table of documents. -/
def DocumentTable.toJson (t : DocumentTable) : Json :=
  .object [
    ("plists", .array (t.documents.toList.map Document.toJson)),
    ("free", .array (t.free.reverse.map slotToJson))]

/-! ## Reading back -/

open Json (Decoder)

/-- Reads a slot number. -/
def slotDecoder : Decoder Nat := Decoder.natural 0x100000000

/-- Reads a free stack. -/
def freeDecoder : Decoder (List Nat) := (Decoder.list slotDecoder).map List.reverse

/-- Reads a cell. -/
def Cell.decoder : Decoder Cell :=
  Decoder.oneOf fun
    | "String" => some (slotDecoder.map .string)
    | "Dict" => some (slotDecoder.map .dict)
    | "Array" => some (slotDecoder.map .array)
    | "Integer" => some (Decoder.int64.map fun n => .integer (Int64.ofInt n))
    | "Bool" => some (Decoder.bool.map .bool)
    | _ => none

/-- Reads a document. -/
def Document.decoder : Decoder Document :=
  Decoder.record [
    Decoder.field "filename" Decoder.string fun d filename => { d with filename },
    Decoder.field "mod_time" Decoder.int64 fun d modTime => { d with modTime },
    Decoder.field "strings" (Decoder.list Decoder.string) fun d strings => { d with strings := strings.toArray },
    Decoder.field "dicts" (Decoder.list (Decoder.entries Cell.decoder)) fun d dicts =>
      { d with dicts := dicts.toArray },
    Decoder.field "arrays" (Decoder.list (Decoder.list Cell.decoder)) fun d arrays =>
      { d with arrays := arrays.toArray },
    Decoder.field "free_strings" freeDecoder fun d freeStrings => { d with freeStrings },
    Decoder.field "free_dicts" freeDecoder fun d freeDicts => { d with freeDicts },
    Decoder.field "free_arrays" freeDecoder fun d freeArrays => { d with freeArrays }] {}

/-- Reads a table of documents. -/
def DocumentTable.decoder : Decoder DocumentTable :=
  Decoder.record [
    Decoder.field "plists" (Decoder.list Document.decoder) fun t documents =>
      { t with documents := documents.toArray },
    Decoder.field "free" freeDecoder fun t free => { t with free }] {}

end EditorBundles.PropertyList
