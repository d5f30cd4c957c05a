import EditorBundles.PropertyList.Import

/-!
# Editing operations as data

An editing operation on a dictionary or a list is read in two ways: what it does to a document, given
the slot of the container, and what it does to the value of the container, as an operation on ordered
maps and lists. A path of keys and indices leads to a container, in a document and in a value alike.
-/

namespace EditorBundles.PropertyList
set_option autoImplicit false

/-- One step from a container to what it holds. -/
inductive Step where
  | key (key : String)
  | item (index : Nat)
  deriving DecidableEq, Repr

namespace Document

/-- The cell that one step leads to. -/
def child? (d : Document) (cell : Cell) (step : Step) : Option Cell :=
  match cell, step with
  | .dict slot, .key key => Entries.get? (d.dict slot) key
  | .array slot, .item index => (d.array slot)[index]?
  | _, _ => none

/-- The cell at a path below a cell. -/
def follow? (d : Document) (cell : Cell) : List Step → Option Cell
  | [] => some cell
  | step :: path => (d.child? cell step).bind fun cell => d.follow? cell path

theorem follow?_append_singleton (d : Document) (cell : Cell) (path : List Step) (step : Step) :
    d.follow? cell (path ++ [step]) = (d.follow? cell path).bind fun cell => d.child? cell step := by
  induction path generalizing cell with
  | nil => cases found : d.child? cell step <;> simp [follow?, found]
  | cons first path ih =>
    simp only [List.cons_append, follow?, ih]
    rw [Option.bind_assoc]

end Document

namespace Value

/-- The value that one step leads to. -/
def child? : Value → Step → Option Value
  | .dict entries, .key key => Entries.get? entries key
  | .array items, .item index => items[index]?
  | _, _ => none

/-- The value with another one in the place of what one step leads to. -/
def setChild (v new : Value) (step : Step) : Value :=
  match v, step with
  | .dict entries, .key key => .dict (Entries.put entries key new)
  | .array items, .item index => .array (items.set index new)
  | v, _ => v

/-- The value at a path. -/
def follow? (v : Value) : List Step → Option Value
  | [] => some v
  | step :: path => (v.child? step).bind fun child => child.follow? path

/-- The value with another one at a path, and everything else as it was. -/
def setAt (v new : Value) : List Step → Value
  | [] => new
  | step :: path =>
    match v.child? step with
    | some child => v.setChild (child.setAt new path) step
    | none => v

end Value

/-- An editing operation on a dictionary. -/
inductive DictEdit where
  | setString (key text : String)
  | updateString (key text : String)
  | setInteger (key : String) (n : Int64)
  | setBool (key : String) (b : Bool)
  | newDict (key : String)
  | newArray (key : String)
  | deleteKey (key : String)
  | clear
  deriving DecidableEq, Repr

namespace DictEdit

/-- The edited document, and the container that the operation gives out. -/
def run (d : Document) (slot : Nat) : DictEdit → Document × Option Cell
  | .setString key text => (d.setString slot key text, none)
  | .updateString key text => (d.updateString slot key text, none)
  | .setInteger key n => (d.setInteger slot key n, none)
  | .setBool key b => (d.setBool slot key b, none)
  | .newDict key => let (d, inner) := d.newDict slot key; (d, some (.dict inner))
  | .newArray key => let (d, inner) := d.newArray slot key; (d, some (.array inner))
  | .deleteKey key => (d.deleteKey slot key, none)
  | .clear => (d.clearDict slot, none)

/-- The dictionary at a key: the one that is there, or else an empty one. -/
def dictAt (entries : List (String × Value)) (key : String) : List (String × Value) :=
  match Entries.get? entries key with
  | some (.dict inner) => inner
  | _ => []

/-- The list at a key: the one that is there, or else an empty one. -/
def arrayAt (entries : List (String × Value)) (key : String) : List Value :=
  match Entries.get? entries key with
  | some (.array inner) => inner
  | _ => []

/-- What an operation makes of the entries. -/
def onEntries (entries : List (String × Value)) : DictEdit → List (String × Value)
  | .setString key text => Entries.put entries key (.string text)
  | .updateString key text =>
    if text.isEmpty then Entries.erase entries key else Entries.put entries key (.string text)
  | .setInteger key n => Entries.put entries key (.integer n)
  | .setBool key b => Entries.put entries key (.bool b)
  | .newDict key => Entries.put entries key (.dict (dictAt entries key))
  | .newArray key => Entries.put entries key (.array (arrayAt entries key))
  | .deleteKey key => Entries.erase entries key
  | .clear => []

/-- Where the container that an operation gives out stands, and what it holds. -/
def handle? (entries : List (String × Value)) : DictEdit → Option (Step × Value)
  | .newDict key => some (.key key, .dict (dictAt entries key))
  | .newArray key => some (.key key, .array (arrayAt entries key))
  | _ => none

theorem child?_of_handle? {entries : List (String × Value)} {edit : DictEdit} {step : Step} {v : Value}
    (given : edit.handle? entries = some (step, v)) :
    (Value.dict (edit.onEntries entries)).child? step = some v := by
  cases edit <;> cases given
  all_goals exact Entries.get?_put_self entries _ _

end DictEdit

/-- An editing operation on a list. -/
inductive ArrayEdit where
  | insertString (index : Nat) (text : String)
  | insertInteger (index : Nat) (n : Int64)
  | insertBool (index : Nat) (b : Bool)
  | insertDict (index : Nat)
  | insertArray (index : Nat)
  | pushString (text : String)
  | pushInteger (n : Int64)
  | pushBool (b : Bool)
  | pushDict
  | pushArray
  | deleteItem (index : Nat)
  | clear
  deriving DecidableEq, Repr

namespace ArrayEdit

/-- The edited document, and the container that the operation gives out. Nothing comes of inserting
past the end. -/
def run? (d : Document) (slot : Nat) : ArrayEdit → Option (Document × Option Cell)
  | .insertString index text => (d.insertString? slot index text).map fun d => (d, none)
  | .insertInteger index n => (d.insertCell? slot index (.integer n)).map fun d => (d, none)
  | .insertBool index b => (d.insertCell? slot index (.bool b)).map fun d => (d, none)
  | .insertDict index => (d.insertDict? slot index).map fun r => (r.1, some (.dict r.2))
  | .insertArray index => (d.insertArray? slot index).map fun r => (r.1, some (.array r.2))
  | .pushString text => some (d.pushString slot text, none)
  | .pushInteger n => some (d.pushCell slot (.integer n), none)
  | .pushBool b => some (d.pushCell slot (.bool b), none)
  | .pushDict => let (d, inner) := d.pushDict slot; some (d, some (.dict inner))
  | .pushArray => let (d, inner) := d.pushArray slot; some (d, some (.array inner))
  | .deleteItem index => some (d.deleteItem slot index, none)
  | .clear => some (d.clearArray slot, none)

/-- The value that an operation puts into a list of some length, and its index. -/
def inserted? (length : Nat) : ArrayEdit → Option (Nat × Value)
  | .insertString index text => some (index, .string text)
  | .insertInteger index n => some (index, .integer n)
  | .insertBool index b => some (index, .bool b)
  | .insertDict index => some (index, .dict [])
  | .insertArray index => some (index, .array [])
  | .pushString text => some (length, .string text)
  | .pushInteger n => some (length, .integer n)
  | .pushBool b => some (length, .bool b)
  | .pushDict => some (length, .dict [])
  | .pushArray => some (length, .array [])
  | .deleteItem _ => none
  | .clear => none

/-- What an operation makes of the items. Deleting past the end changes nothing. -/
def onItems? (items : List Value) (edit : ArrayEdit) : Option (List Value) :=
  match edit with
  | .deleteItem index => some (items.eraseIdx index)
  | .clear => some []
  | edit => (edit.inserted? items.length).bind fun (index, v) =>
    if index ≤ items.length then some (items.insertIdx index v) else none

/-- Where the container that an operation gives out stands, and what it holds. -/
def handle? (items : List Value) : ArrayEdit → Option (Step × Value)
  | .insertDict index => some (.item index, .dict [])
  | .insertArray index => some (.item index, .array [])
  | .pushDict => some (.item items.length, .dict [])
  | .pushArray => some (.item items.length, .array [])
  | _ => none

theorem child?_of_handle? {items items' : List Value} {edit : ArrayEdit} {step : Step} {v : Value}
    (fits : edit.onItems? items = some items') (given : edit.handle? items = some (step, v)) :
    (Value.array items').child? step = some v := by
  have stored {index : Nat} {w : Value}
      (fits : (if index ≤ items.length then some (items.insertIdx index w) else none) = some items') :
      items'[index]? = some w := by
    obtain ⟨bound, rfl⟩ : index ≤ items.length ∧ items.insertIdx index w = items' := by simpa using fits
    simp [List.getElem?_insertIdx_self, bound]
  cases edit <;> cases given
  all_goals exact stored fits

end ArrayEdit

/-- An editing operation on a container. -/
inductive Edit where
  | dict (edit : DictEdit)
  | array (edit : ArrayEdit)
  deriving DecidableEq, Repr

namespace Edit

/-- The edited document, and the container that the operation gives out. -/
def run? (d : Document) (container : Cell) (edit : Edit) : Option (Document × Option Cell) :=
  match container, edit with
  | .dict slot, .dict edit => some (edit.run d slot)
  | .array slot, .array edit => edit.run? d slot
  | _, _ => none

/-- What an operation makes of the container's value. -/
def onValue? (v : Value) (edit : Edit) : Option Value :=
  match v, edit with
  | .dict entries, .dict edit => some (.dict (edit.onEntries entries))
  | .array items, .array edit => (edit.onItems? items).map .array
  | _, _ => none

/-- Where the container that an operation gives out stands, and what it holds. -/
def handle? (v : Value) (edit : Edit) : Option (Step × Value) :=
  match v, edit with
  | .dict entries, .dict edit => edit.handle? entries
  | .array items, .array edit => edit.handle? items
  | _, _ => none

/-- In the edited value, a container that was given out stands where and holds what it should. -/
theorem child?_of_handle? {v w x : Value} {edit : Edit} {step : Step} (fits : edit.onValue? v = some w)
    (given : edit.handle? v = some (step, x)) : w.child? step = some x := by
  cases v <;> cases edit <;> simp only [onValue?, handle?, reduceCtorEq] at fits given
  case dict.dict entries edit =>
    obtain rfl := Option.some.inj fits
    exact DictEdit.child?_of_handle? given
  case array.array items edit =>
    obtain ⟨items', made, rfl⟩ := Option.map_eq_some_iff.1 fits
    exact ArrayEdit.child?_of_handle? made given

end Edit

end EditorBundles.PropertyList
