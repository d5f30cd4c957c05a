import EditorBundles.PropertyList.Cells
import EditorBundles.Proofs.Json.Decoding
import EditorBundles.Proofs.PropertyList.Keyed

/-!
# Documents read back from their cells

A document is read back from the JSON of its tables slot by slot: every text, the entries of every dictionary in
their order, and the free stacks as they were. It need not be well formed for that. Only what its tables are made
of has to be storable: slot numbers of 32 bits, a time of 64 bits, and dictionaries without a key that comes twice.
-/

namespace EditorBundles.PropertyList
set_option autoImplicit false
open Json (Decodes FieldsRead IsInt64)

/-- The slot numbers that are stored. -/
def IsSlot (slot : Nat) : Prop := slot < 0x100000000

/-- The slot that a cell names can be stored. -/
def Cell.Fits : Cell → Prop
  | .string slot => IsSlot slot
  | .dict slot => IsSlot slot
  | .array slot => IsSlot slot
  | .integer _ => True
  | .bool _ => True

/-- The numbers in the tables of a document can be stored. -/
structure Document.Fits (d : Document) : Prop where
  modTime : IsInt64 d.modTime
  dicts : ∀ entries ∈ d.dicts, ∀ entry ∈ entries, entry.2.Fits
  arrays : ∀ items ∈ d.arrays, ∀ cell ∈ items, cell.Fits
  freeStrings : ∀ slot ∈ d.freeStrings, IsSlot slot
  freeDicts : ∀ slot ∈ d.freeDicts, IsSlot slot
  freeArrays : ∀ slot ∈ d.freeArrays, IsSlot slot

theorem Document.fits_vacant : vacant.Fits := by
  refine ⟨⟨by decide, by decide⟩, ?_, ?_, ?_, ?_, ?_⟩ <;> simp [vacant]

/-- The numbers in a new document are small. -/
theorem Document.fits_create (name uuid filename : String) : { create name uuid with filename : Document }.Fits := by
  have modTime : IsInt64 0 := ⟨by decide, by decide⟩
  have dicts : (create name uuid).dicts = #[[("name", .string 0), ("uuid", .string 1)]] := rfl
  have arrays : (create name uuid).arrays = #[] := rfl
  refine ⟨modTime, ?_, ?_, List.forall_mem_nil _, List.forall_mem_nil _, List.forall_mem_nil _⟩
  · dsimp only
    rw [dicts]
    intro entries member entry inside
    obtain rfl := List.mem_singleton.1 (Array.mem_def.1 member)
    rcases List.mem_pair.1 inside with rfl | rfl
    · exact (by decide : 0 < 0x100000000)
    · exact (by decide : 1 < 0x100000000)
  · dsimp only
    rw [arrays]
    intro items member
    exact absurd (Array.mem_def.1 member) List.not_mem_nil

theorem decodes_slot {slot : Nat} (fits : IsSlot slot) : Decodes slotDecoder (slotToJson slot) slot :=
  Json.decodes_natural (by decide) fits

/-- A free stack is written from its bottom and read from its top. -/
theorem decodes_free {free : List Nat} (fits : ∀ slot ∈ free, IsSlot slot) :
    Decodes freeDecoder (.array (free.reverse.map slotToJson)) free := by
  have each : ∀ slot ∈ free.reverse, Decodes slotDecoder (slotToJson slot) slot := by
    intro slot member
    exact decodes_slot (fits slot (List.mem_reverse.1 member))
  have read := (Json.decodes_list each).map List.reverse
  rwa [List.reverse_reverse] at read

theorem Cell.decodes {cell : Cell} (fits : cell.Fits) : Decodes Cell.decoder cell.toJson cell := by
  cases cell with
  | string slot => exact ((decodes_slot fits).map Cell.string).oneOf rfl
  | dict slot => exact ((decodes_slot fits).map Cell.dict).oneOf rfl
  | array slot => exact ((decodes_slot fits).map Cell.array).oneOf rfl
  | integer n =>
    have bounds : IsInt64 n.toInt := ⟨n.le_toInt, n.toInt_lt⟩
    have read := (Json.decodes_int64 bounds).map fun n => Cell.integer (Int64.ofInt n)
    rw [Int64.ofInt_toInt] at read
    exact read.oneOf rfl
  | bool b => exact ((Json.decodes_bool b).map Cell.bool).oneOf rfl

variable {d : Document}

theorem Document.decodes_strings (d : Document) :
    Decodes (Json.Decoder.list Json.Decoder.string) (.array (d.strings.toList.map .string)) d.strings.toList :=
  Json.decodes_list fun s _ => Json.decodes_string s

theorem Document.decodes_dicts (fits : d.Fits) (keyed : d.Keyed) :
    Decodes (Json.Decoder.list (Json.Decoder.entries Cell.decoder))
      (.array (d.dicts.toList.map fun entries => .object (entries.map fun e => (e.1, e.2.toJson)))) d.dicts.toList := by
  refine Json.decodes_list fun entries member => ?_
  have here : entries ∈ d.dicts := Array.mem_toList_iff.1 member
  exact Json.decodes_entries (keyed entries here) fun entry inside => Cell.decodes (fits.dicts entries here entry inside)

theorem Document.decodes_arrays (fits : d.Fits) :
    Decodes (Json.Decoder.list (Json.Decoder.list Cell.decoder))
      (.array (d.arrays.toList.map fun items => .array (items.map Cell.toJson))) d.arrays.toList := by
  refine Json.decodes_list fun items member => ?_
  have here : items ∈ d.arrays := Array.mem_toList_iff.1 member
  exact Json.decodes_list fun cell inside => Cell.decodes (fits.arrays items here cell inside)

/-- A document is read back from its tables. -/
theorem Document.decodes (fits : d.Fits) (keyed : d.Keyed) : Decodes Document.decoder d.toJson d := by
  refine FieldsRead.decodes_record ?_ (by decide)
  refine .next ((Json.decodes_string d.filename).field _) ?_
  refine .next ((Json.decodes_int64 fits.modTime).field _) ?_
  refine .next (d.decodes_strings.field _) ?_
  refine .next ((Document.decodes_dicts fits keyed).field _) ?_
  refine .next ((Document.decodes_arrays fits).field _) ?_
  refine .next ((decodes_free fits.freeStrings).field _) ?_
  refine .next ((decodes_free fits.freeDicts).field _) ?_
  refine .next ((decodes_free fits.freeArrays).field _) ?_
  exact .rest rfl

/-- The numbers in a table of documents can be stored. -/
structure DocumentTable.Fits (t : DocumentTable) : Prop where
  documents : ∀ d ∈ t.documents, d.Fits
  free : ∀ index ∈ t.free, IsSlot index

theorem DocumentTable.decodes {t : DocumentTable} (fits : t.Fits) (keyed : ∀ d ∈ t.documents, d.Keyed) :
    Decodes DocumentTable.decoder t.toJson t := by
  have documents : Decodes (Json.Decoder.list Document.decoder) (.array (t.documents.toList.map Document.toJson))
      t.documents.toList := by
    refine Json.decodes_list fun d member => ?_
    have here : d ∈ t.documents := Array.mem_toList_iff.1 member
    exact Document.decodes (fits.documents d here) (keyed d here)
  refine FieldsRead.decodes_record ?_ (by decide)
  refine .next (documents.field _) ?_
  refine .next ((decodes_free fits.free).field _) ?_
  exact .rest rfl

end EditorBundles.PropertyList
