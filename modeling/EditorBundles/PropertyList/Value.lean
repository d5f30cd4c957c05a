import EditorBundles.Json.Basic

/-!
# Property-list values

The nested view of a property list: texts, whole numbers of 64 bits, truth values, lists and
dictionaries. A document keeps its values in tables; this is what the tables mean, and what the
reader reads and the printers print.
-/

namespace EditorBundles.PropertyList
set_option autoImplicit false

/-- A property-list value. A dictionary keeps the order of its keys. -/
inductive Value where
  | string (s : String)
  | integer (n : Int64)
  | bool (b : Bool)
  | array (items : List Value)
  | dict (entries : List (String × Value))
  deriving Repr, Inhabited

/-- The number of 64 bits that a whole number is, if it is one. -/
def int64OfInt? (n : Int) : Option Int64 :=
  if -0x8000000000000000 ≤ n ∧ n < 0x8000000000000000 then some (Int64.ofInt n) else none

/-- The keys that identify an item and that an edited copy of its content leaves out. -/
def identityKeys : List String := ["uuid", "scope", "keyEquivalent"]

namespace Value

mutual

/-- The value as JSON. -/
def toJson : Value → Json
  | .string s => .string s
  | .integer n => .integer n.toInt
  | .bool b => .bool b
  | .array items => .array (itemsToJson items)
  | .dict entries => .object (entriesToJson entries)

/-- The items of an array as JSON. -/
def itemsToJson : List Value → List Json
  | [] => []
  | v :: rest => toJson v :: itemsToJson rest

/-- The entries of a dictionary as JSON members. -/
def entriesToJson : List (String × Value) → List (String × Json)
  | [] => []
  | (key, v) :: rest => (key, toJson v) :: entriesToJson rest

end

end Value

/-- A dictionary as JSON, on request without the identity keys of its top level. -/
def dictToJson (strip : Bool) (entries : List (String × Value)) : Json :=
  .object (Value.entriesToJson (if strip then entries.filter (fun e => e.1 ∉ identityKeys) else entries))

end EditorBundles.PropertyList
