import EditorBundles.Entries

/-!
# JSON values

Members of an object keep the order in which they were written. A number is an integer when its
literal has neither fraction nor exponent and fits 64 bits, signed or unsigned; every other number
keeps its literal, because nothing here computes with it.
-/

namespace EditorBundles
set_option autoImplicit false

/-- A JSON value. -/
inductive Json where
  | null
  | bool (b : Bool)
  | integer (n : Int)
  | decimal (literal : String)
  | string (s : String)
  | array (items : List Json)
  | object (members : List (String × Json))
  deriving Repr, Inhabited

namespace Json

/-- The value of the first member called `key` of an object. -/
def get? (j : Json) (key : String) : Option Json :=
  match j with
  | .object members => Entries.get? members key
  | _ => none

mutual

/-- Keeps one member for each key of every object: the last value, at the first position. -/
def collapse : Json → Json
  | .array items => .array (collapseItems items)
  | .object members => .object (collapseMembers [] members)
  | j => j

/-- `collapse` on each item. -/
def collapseItems : List Json → List Json
  | [] => []
  | j :: rest => collapse j :: collapseItems rest

/-- `collapse` on members, added one by one to those already `seen`. -/
def collapseMembers (seen : List (String × Json)) : List (String × Json) → List (String × Json)
  | [] => seen
  | (key, j) :: rest => collapseMembers (Entries.put seen key (collapse j)) rest

end

end Json

end EditorBundles
