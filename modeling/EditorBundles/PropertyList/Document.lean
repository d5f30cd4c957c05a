import EditorBundles.Entries
import EditorBundles.PropertyList.Value

/-!
# Documents

A document keeps its texts, dictionaries and lists in three tables of cells, and a cell names the
cells it holds by their slot. Dictionary 0 is the root. A freed slot is emptied first and then goes
on the free stack of its table, whose top is handed out again before the table grows; so a reused
slot never brings old content along.

`Document.value` and `Document.root` read the tables back as the nested values that they mean.
-/

namespace EditorBundles.PropertyList
set_option autoImplicit false

/-- What a dictionary or list holds at one place: a slot of a table, or a scalar. -/
inductive Cell where
  | string (slot : Nat)
  | dict (slot : Nat)
  | array (slot : Nat)
  | integer (n : Int64)
  | bool (b : Bool)
  deriving DecidableEq, Repr, Inhabited

/-- The truth value of a cell; a number is read as whether it differs from zero. -/
def Cell.truth? : Cell → Option Bool
  | .bool b => some b
  | .integer n => some (n ≠ 0)
  | _ => none

/-- The name of a cell's kind. -/
def Cell.kind : Cell → String
  | .string _ => "String"
  | .dict _ => "Dict"
  | .array _ => "Array"
  | .integer _ => "Integer"
  | .bool _ => "Bool"

/-- A document. The free stacks have their top first. `modTime` is 0 as long as no file holds the
document. -/
structure Document where
  filename : String := ""
  modTime : Int := 0
  strings : Array String := #[]
  dicts : Array (List (String × Cell)) := #[]
  arrays : Array (List Cell) := #[]
  freeStrings : List Nat := []
  freeDicts : List Nat := []
  freeArrays : List Nat := []
  deriving DecidableEq, Repr, Inhabited

namespace Document

/-- A document without even a root, as a cleared place of a table of documents holds it. -/
def vacant : Document := {}

/-- A document of an empty root. -/
def new : Document := { dicts := #[[]] }

/-- Has the document no root? -/
def isVacant (d : Document) : Bool := d.dicts.isEmpty

/-- The slot of the root dictionary. -/
def rootSlot : Nat := 0

/-- A copy to be edited, which no file holds yet. -/
def copy (d : Document) : Document := { d with modTime := 0 }

/-! ## Cells -/

/-- The text in a slot. -/
def string (d : Document) (slot : Nat) : String := d.strings[slot]?.getD ""

/-- The entries of the dictionary in a slot. -/
def dict (d : Document) (slot : Nat) : List (String × Cell) := d.dicts[slot]?.getD []

/-- The items of the list in a slot. -/
def array (d : Document) (slot : Nat) : List Cell := d.arrays[slot]?.getD []

/-- Puts other entries into the dictionary of a slot. -/
def setDict (d : Document) (slot : Nat) (entries : List (String × Cell)) : Document :=
  { d with dicts := d.dicts.setIfInBounds slot entries }

/-- Puts other items into the list of a slot. -/
def setArray (d : Document) (slot : Nat) (items : List Cell) : Document :=
  { d with arrays := d.arrays.setIfInBounds slot items }

/-- Puts another text into a slot. -/
def setText (d : Document) (slot : Nat) (text : String) : Document :=
  { d with strings := d.strings.setIfInBounds slot text }

/-- A dictionary that was just written is the one that is read. -/
theorem dict_setDict_self (d : Document) {slot : Nat} (h : slot < d.dicts.size) (entries : List (String × Cell)) :
    (d.setDict slot entries).dict slot = entries := by
  simp [dict, setDict, h]

/-- Writing a dictionary leaves the others alone. -/
theorem dict_setDict_of_ne (d : Document) {slot other : Nat} (h : other ≠ slot) (entries : List (String × Cell)) :
    (d.setDict slot entries).dict other = d.dict other := by
  simp [dict, setDict, Array.getElem?_setIfInBounds_ne h.symm]

/-- A list that was just written is the one that is read. -/
theorem array_setArray_self (d : Document) {slot : Nat} (h : slot < d.arrays.size) (items : List Cell) :
    (d.setArray slot items).array slot = items := by
  simp [array, setArray, h]

/-- Writing a list leaves the others alone. -/
theorem array_setArray_of_ne (d : Document) {slot other : Nat} (h : other ≠ slot) (items : List Cell) :
    (d.setArray slot items).array other = d.array other := by
  simp [array, setArray, Array.getElem?_setIfInBounds_ne h.symm]

/-- A text that was just written is the one that is read. -/
theorem string_setText_self (d : Document) {slot : Nat} (h : slot < d.strings.size) (text : String) :
    (d.setText slot text).string slot = text := by
  simp [string, setText, h]

/-- Writing a text leaves the others alone. -/
theorem string_setText_of_ne (d : Document) {slot other : Nat} (h : other ≠ slot) (text : String) :
    (d.setText slot text).string other = d.string other := by
  simp [string, setText, Array.getElem?_setIfInBounds_ne h.symm]

/-- Stores a text and gives its slot. -/
def addString (d : Document) (text : String) : Document × Nat :=
  match d.freeStrings with
  | slot :: free => ({ d.setText slot text with freeStrings := free }, slot)
  | [] => ({ d with strings := d.strings.push text }, d.strings.size)

/-- Takes a slot for an empty dictionary. -/
def addDict (d : Document) : Document × Nat :=
  match d.freeDicts with
  | slot :: free => ({ d with freeDicts := free }, slot)
  | [] => ({ d with dicts := d.dicts.push [] }, d.dicts.size)

/-- Takes a slot for an empty list. -/
def addArray (d : Document) : Document × Nat :=
  match d.freeArrays with
  | slot :: free => ({ d with freeArrays := free }, slot)
  | [] => ({ d with arrays := d.arrays.push [] }, d.arrays.size)

/-- Frees what a cell names and all below it, the containers inside before the one around them.
`levels` bounds the nesting. -/
def releaseWithin (levels : Nat) (d : Document) (cell : Cell) : Document :=
  match cell with
  | .string slot => { d.setText slot "" with freeStrings := slot :: d.freeStrings }
  | .dict slot =>
    match levels with
    | 0 => d
    | levels + 1 =>
      let freed := ((d.dict slot).map Prod.snd).foldl (releaseWithin levels) (d.setDict slot [])
      { freed with freeDicts := slot :: freed.freeDicts }
  | .array slot =>
    match levels with
    | 0 => d
    | levels + 1 =>
      let freed := (d.array slot).foldl (releaseWithin levels) (d.setArray slot [])
      { freed with freeArrays := slot :: freed.freeArrays }
  | .integer _ => d
  | .bool _ => d

/-- More levels than containers can be nested: each level empties one of them before it goes down. -/
def levels (d : Document) : Nat := d.dicts.size + d.arrays.size + 1

/-- Frees what a cell names and all below it. -/
def release (d : Document) (cell : Cell) : Document := releaseWithin d.levels d cell

/-- Frees what each cell of a list names. -/
def releaseAll (d : Document) (cells : List Cell) : Document := cells.foldl release d

/-- The numbers of texts, dictionaries and lists in use. -/
structure LiveCells where
  strings : Nat
  dicts : Nat
  arrays : Nat
  deriving DecidableEq, Repr

/-- How many cells of each table are in use. -/
def liveCells (d : Document) : LiveCells where
  strings := d.strings.size - d.freeStrings.length
  dicts := d.dicts.size - d.freeDicts.length
  arrays := d.arrays.size - d.freeArrays.length

/-! ## Values -/

/-- The value that a cell means, down to `levels` levels of containers. -/
def valueWithin (levels : Nat) (d : Document) (cell : Cell) : Value :=
  match cell with
  | .string slot => .string (d.string slot)
  | .integer n => .integer n
  | .bool b => .bool b
  | .dict slot =>
    match levels with
    | 0 => .dict []
    | levels + 1 => .dict ((d.dict slot).map fun entry => (entry.1, valueWithin levels d entry.2))
  | .array slot =>
    match levels with
    | 0 => .array []
    | levels + 1 => .array ((d.array slot).map (valueWithin levels d))

/-- The value that a cell means. -/
def value (d : Document) (cell : Cell) : Value := valueWithin d.levels d cell

/-- The entries of the dictionary in a slot, as values. -/
def entries (d : Document) (slot : Nat) : List (String × Value) :=
  (d.dict slot).map fun entry => (entry.1, d.value entry.2)

/-- The entries of the root. -/
def root (d : Document) : List (String × Value) := d.entries rootSlot

/-- The text at a key of the root, if there is one. -/
def rootString? (d : Document) (key : String) : Option String :=
  match Entries.get? (d.dict rootSlot) key with
  | some (.string slot) => some (d.string slot)
  | _ => none

end Document

end EditorBundles.PropertyList
