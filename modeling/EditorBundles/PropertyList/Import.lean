import EditorBundles.PropertyList.Editing

/-!
# Importing JSON

A JSON object can replace the content of a dictionary. Only texts, truth values, whole numbers of 64
bits, arrays and objects have a place in a property list; a value with anything else in it, at any
depth, is refused before the dictionary is touched. On request the identity keys stay as they are.
-/

namespace EditorBundles.PropertyList
set_option autoImplicit false

/-- A JSON value that no property list can hold: where it stands and what it is. -/
structure ImportFault where
  path : String
  kind : String
  deriving DecidableEq, Repr

/-- The wording of a fault. -/
def ImportFault.message (f : ImportFault) : String :=
  "Cannot store JSON " ++ f.kind ++ " at '" ++ f.path ++ "' in a plist"

mutual

/-- The first value, in the order of the text, that no property list can hold. -/
def importFault? (path : String) : Json → Option ImportFault
  | .null => some ⟨path, "null"⟩
  | .decimal _ => some ⟨path, "non-integer number"⟩
  | .integer n => if (int64OfInt? n).isNone then some ⟨path, "non-integer number"⟩ else none
  | .bool _ => none
  | .string _ => none
  | .array items => itemsFault? path 0 items
  | .object members => membersFault? path members

/-- The first such value among the items of an array from `index` on. -/
def itemsFault? (path : String) (index : Nat) : List Json → Option ImportFault
  | [] => none
  | j :: rest => (importFault? (path ++ "/" ++ toString index) j).or (itemsFault? path (index + 1) rest)

/-- The first such value among the members of an object. -/
def membersFault? (path : String) : List (String × Json) → Option ImportFault
  | [] => none
  | (key, j) :: rest => (importFault? (path ++ "/" ++ key) j).or (membersFault? path rest)

end

namespace Document

mutual

/-- Writes a JSON value at a key of a dictionary. -/
def importMember (d : Document) (slot : Nat) (key : String) : Json → Document
  | .string s => d.setString slot key s
  | .bool b => d.setBool slot key b
  | .integer n => match int64OfInt? n with
    | some n => d.setInteger slot key n
    | none => d
  | .object members =>
    let (d, inner) := d.newDict slot key
    importMembers d inner members
  | .array items =>
    let (d, inner) := d.newArray slot key
    importItems d inner items
  | .null => d
  | .decimal _ => d

/-- Writes the members of a JSON object into a dictionary. -/
def importMembers (d : Document) (slot : Nat) : List (String × Json) → Document
  | [] => d
  | (key, j) :: rest => importMembers (importMember d slot key j) slot rest

/-- Writes a JSON value at the end of a list. -/
def importItem (d : Document) (slot : Nat) : Json → Document
  | .string s => d.pushString slot s
  | .bool b => d.pushCell slot (.bool b)
  | .integer n => match int64OfInt? n with
    | some n => d.pushCell slot (.integer n)
    | none => d
  | .object members =>
    let (d, inner) := d.pushDict slot
    importMembers d inner members
  | .array items =>
    let (d, inner) := d.pushArray slot
    importItems d inner items
  | .null => d
  | .decimal _ => d

/-- Writes the items of a JSON array at the end of a list. -/
def importItems (d : Document) (slot : Nat) : List Json → Document
  | [] => d
  | j :: rest => importItems (importItem d slot j) slot rest

end

/-- Replaces the content of a dictionary by the members of a JSON object. With `strip`, the identity
keys of the dictionary stay and those of the object count for nothing. -/
def setJson (d : Document) (slot : Nat) (json : Json) (strip : Bool) : Except ImportFault Document :=
  match json with
  | .null => .error ⟨"", "null"⟩
  | .array _ => .error ⟨"", "array at the top level"⟩
  | .object members =>
    match membersFault? "" members with
    | some fault => .error fault
    | none =>
      let kept := fun key => strip ∧ key ∈ identityKeys
      let doomed := (Entries.keys (d.dict slot)).filter fun key => ¬ kept key
      let emptied := doomed.foldl (fun d key => d.deleteKey slot key) d
      .ok (emptied.importMembers slot (members.filter fun m => ¬ kept m.1))
  | _ => .error ⟨"", "scalar at the top level"⟩

end Document

end EditorBundles.PropertyList
