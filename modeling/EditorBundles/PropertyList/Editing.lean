import EditorBundles.PropertyList.Document

/-!
# Editing documents

The operations on a dictionary or a list take the slot that it has in its document. Each frees what
it replaces or removes. A text that is already there is overwritten where it lies; every other new
value gets its cell before the old one is freed.
-/

namespace EditorBundles.PropertyList.Document
set_option autoImplicit false

/-! ## Dictionaries -/

/-- Stores a cell at a key and frees what was there. -/
def replace (d : Document) (slot : Nat) (key : String) (cell : Cell) : Document :=
  let old := Entries.get? (d.dict slot) key
  let written := d.setDict slot (Entries.put (d.dict slot) key cell)
  match old with
  | some old => written.release old
  | none => written

/-- Stores a text at a key. -/
def setString (d : Document) (slot : Nat) (key text : String) : Document :=
  match Entries.get? (d.dict slot) key with
  | some (.string old) => d.setText old text
  | _ =>
    let (d, new) := d.addString text
    d.replace slot key (.string new)

/-- Stores a number at a key. -/
def setInteger (d : Document) (slot : Nat) (key : String) (n : Int64) : Document :=
  d.replace slot key (.integer n)

/-- Stores a truth value at a key. -/
def setBool (d : Document) (slot : Nat) (key : String) (b : Bool) : Document :=
  d.replace slot key (.bool b)

/-- Removes a key, if it is there. -/
def deleteKey (d : Document) (slot : Nat) (key : String) : Document :=
  match Entries.get? (d.dict slot) key with
  | some old => (d.setDict slot (Entries.erase (d.dict slot) key)).release old
  | none => d

/-- Stores a text at a key; the empty text removes it. -/
def updateString (d : Document) (slot : Nat) (key text : String) : Document :=
  if text.isEmpty then d.deleteKey slot key else d.setString slot key text

/-- Removes all keys. -/
def clearDict (d : Document) (slot : Nat) : Document :=
  (d.setDict slot []).releaseAll ((d.dict slot).map Prod.snd)

/-- The slot of the dictionary at a key, which is made if none is there. -/
def newDict (d : Document) (slot : Nat) (key : String) : Document × Nat :=
  match Entries.get? (d.dict slot) key with
  | some (.dict inner) => (d, inner)
  | _ =>
    let (d, inner) := d.addDict
    (d.replace slot key (.dict inner), inner)

/-- The slot of the list at a key, which is made if none is there. -/
def newArray (d : Document) (slot : Nat) (key : String) : Document × Nat :=
  match Entries.get? (d.dict slot) key with
  | some (.array inner) => (d, inner)
  | _ =>
    let (d, inner) := d.addArray
    (d.replace slot key (.array inner), inner)

/-! ## Lists -/

/-- Puts a cell at an index, if that is not past the end. -/
def insertCell? (d : Document) (slot index : Nat) (cell : Cell) : Option Document :=
  let items := d.array slot
  if index ≤ items.length then some (d.setArray slot (items.take index ++ cell :: items.drop index)) else none

/-- Puts a cell at the end. -/
def pushCell (d : Document) (slot : Nat) (cell : Cell) : Document := d.setArray slot (d.array slot ++ [cell])

/-- Puts a text at an index, if that is not past the end. -/
def insertString? (d : Document) (slot index : Nat) (text : String) : Option Document :=
  let (d, new) := d.addString text
  d.insertCell? slot index (.string new)

/-- Puts an empty dictionary at an index, if that is not past the end, and gives its slot. -/
def insertDict? (d : Document) (slot index : Nat) : Option (Document × Nat) :=
  let (d, new) := d.addDict
  (d.insertCell? slot index (.dict new)).map fun d => (d, new)

/-- Puts an empty list at an index, if that is not past the end, and gives its slot. -/
def insertArray? (d : Document) (slot index : Nat) : Option (Document × Nat) :=
  let (d, new) := d.addArray
  (d.insertCell? slot index (.array new)).map fun d => (d, new)

/-- Puts a text at the end. -/
def pushString (d : Document) (slot : Nat) (text : String) : Document :=
  let (d, new) := d.addString text
  d.pushCell slot (.string new)

/-- Puts an empty dictionary at the end and gives its slot. -/
def pushDict (d : Document) (slot : Nat) : Document × Nat :=
  let (d, new) := d.addDict
  (d.pushCell slot (.dict new), new)

/-- Puts an empty list at the end and gives its slot. -/
def pushArray (d : Document) (slot : Nat) : Document × Nat :=
  let (d, new) := d.addArray
  (d.pushCell slot (.array new), new)

/-- Removes the item at an index, if there is one. -/
def deleteItem (d : Document) (slot index : Nat) : Document :=
  match (d.array slot)[index]? with
  | some old => (d.setArray slot ((d.array slot).eraseIdx index)).release old
  | none => d

/-- Removes all items. -/
def clearArray (d : Document) (slot : Nat) : Document := (d.setArray slot []).releaseAll (d.array slot)

/-! ## Whole values -/

mutual

/-- Stores a nested value in cells of its own, without a place that holds it yet. -/
def addValue (d : Document) : Value → Document × Cell
  | .string s => let (d, slot) := d.addString s; (d, .string slot)
  | .integer n => (d, .integer n)
  | .bool b => (d, .bool b)
  | .array items =>
    let (d, slot) := d.addArray
    (addItems d slot items, .array slot)
  | .dict entries =>
    let (d, slot) := d.addDict
    (addEntries d slot entries, .dict slot)

/-- Puts values at the end of a list, one after the other. -/
def addItems (d : Document) (slot : Nat) : List Value → Document
  | [] => d
  | v :: rest =>
    let (d, cell) := addValue d v
    addItems (d.pushCell slot cell) slot rest

/-- Puts values at keys of a dictionary, one after the other; a repeated key replaces the value. -/
def addEntries (d : Document) (slot : Nat) : List (String × Value) → Document
  | [] => d
  | (key, v) :: rest =>
    let (d, cell) := addValue d v
    addEntries (d.replace slot key cell) slot rest

end

/-- The document whose root has the given entries. -/
def ofEntries (entries : List (String × Value)) : Document := new.addEntries rootSlot entries

end EditorBundles.PropertyList.Document
