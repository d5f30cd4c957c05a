import EditorBundles.Text.Blank

/-!
# Localities

A locality is a set of flags: where the versions of an entry come from, and whether it is hidden or gone.
Snapshots write it as the names of its flags between bars. Flags without a name are kept together as
a word of bits and written as a number of base 16.
-/

namespace EditorBundles.Catalog
set_option autoImplicit false

/-- A set of flags. `pristine` versions came with the editor, `installed` ones were added to it, and
`own` ones are the user's. `unnamed` has the bits of all other flags. -/
structure Locality where
  pristine : Bool := false
  own : Bool := false
  disabled : Bool := false
  deleted : Bool := false
  installed : Bool := false
  unnamed : UInt32 := 0
  deriving DecidableEq, Repr, Inhabited

namespace Locality

/-- The versions that a user cannot change. -/
def factory : Locality := { pristine := true, installed := true }

/-- All versions. -/
def sources : Locality := { pristine := true, own := true, installed := true }

/-- Disabled or deleted. -/
def hidden : Locality := { disabled := true, deleted := true }

/-- All flags that have a name. -/
def all : Locality :=
  { pristine := true, own := true, disabled := true, deleted := true, installed := true }

/-- Both sets together. -/
def union (s t : Locality) : Locality where
  pristine := s.pristine || t.pristine
  own := s.own || t.own
  disabled := s.disabled || t.disabled
  deleted := s.deleted || t.deleted
  installed := s.installed || t.installed
  unnamed := s.unnamed ||| t.unnamed

/-- The named flags of the first set that are not in the second. -/
def without (s t : Locality) : Locality where
  pristine := s.pristine && !t.pristine
  own := s.own && !t.own
  disabled := s.disabled && !t.disabled
  deleted := s.deleted && !t.deleted
  installed := s.installed && !t.installed

/-- Are all flags of the second set in the first? -/
def contains (s t : Locality) : Bool :=
  (!t.pristine || s.pristine) && (!t.own || s.own) && (!t.disabled || s.disabled)
    && (!t.deleted || s.deleted) && (!t.installed || s.installed) && s.unnamed &&& t.unnamed == t.unnamed

/-- Do the sets share a flag? -/
def meets (s t : Locality) : Bool :=
  (s.pristine && t.pristine) || (s.own && t.own) || (s.disabled && t.disabled)
    || (s.deleted && t.deleted) || (s.installed && t.installed) || s.unnamed &&& t.unnamed != 0

/-- Is there a version that a user cannot change? -/
def isFactory (s : Locality) : Bool := s.pristine || s.installed

/-- Is there any version? -/
def hasSource (s : Locality) : Bool := s.pristine || s.own || s.installed

/-- Is the entry disabled or deleted? -/
def isHidden (s : Locality) : Bool := s.disabled || s.deleted

/-! ## Bits -/

/-- The set whose flags have the set bits of a word. -/
def ofBits (bits : UInt32) : Locality where
  pristine := bits &&& 1 != 0
  own := bits &&& 2 != 0
  disabled := bits &&& 4 != 0
  deleted := bits &&& 8 != 0
  installed := bits &&& 16 != 0
  unnamed := bits &&& 0xFFFFFFE0

/-- The word of a set. -/
def toBits (s : Locality) : UInt32 :=
  (if s.pristine then 1 else 0) + (if s.own then 2 else 0) + (if s.disabled then 4 else 0)
    + (if s.deleted then 8 else 0) + (if s.installed then 16 else 0) + s.unnamed

/-! ## Text -/

/-- The parts of a set's text. -/
def parts (s : Locality) : List String :=
  (if s.pristine then ["PRISTINE"] else []) ++ (if s.own then ["LOCAL"] else [])
    ++ (if s.disabled then ["DISABLED"] else []) ++ (if s.deleted then ["DELETED"] else [])
    ++ (if s.installed then ["INSTALLED"] else [])
    ++ (if s.unnamed = 0 then [] else ["0x" ++ String.ofList (Nat.toDigits 16 s.unnamed.toNat)])

/-- The text of a set. -/
def print (s : Locality) : String := String.intercalate " | " s.parts

/-- The value of a digit of base 16. -/
def hexDigit? (c : Char) : Option Nat :=
  if c.isDigit then some (c.toNat - '0'.toNat)
  else if 'a' ≤ c ∧ c ≤ 'f' then some (c.toNat - 'a'.toNat + 10)
  else if 'A' ≤ c ∧ c ≤ 'F' then some (c.toNat - 'A'.toNat + 10)
  else none

/-- The word that digits of base 16 write, perhaps behind a plus sign. -/
def parseHex? (cs : List Char) : Option UInt32 := do
  let digits := if cs.head? = some '+' then cs.drop 1 else cs
  let values ← digits.mapM hexDigit?
  let n := values.foldl (fun n d => n * 16 + d) 0
  if values = [] ∨ 0x100000000 ≤ n then none else return UInt32.ofNat n

/-- The set that a name stands for. -/
def named? (name : String) : Option Locality :=
  match name with
  | "PRISTINE" => some { pristine := true }
  | "LOCAL" => some { own := true }
  | "DISABLED" => some { disabled := true }
  | "DELETED" => some { deleted := true }
  | "INSTALLED" => some { installed := true }
  | "FACTORY" => some factory
  | "SOURCES" => some sources
  | _ => none

/-- The set that one part of a text stands for. -/
def parsePart? (part : List Char) : Option Locality :=
  match Text.trim part with
  | '0' :: 'x' :: digits => (parseHex? digits).map ofBits
  | name => named? (String.ofList name)

/-- The set that a text writes. Blank text is the empty set; no part of another text may be blank. -/
def parse? (text : String) : Option Locality :=
  let cs := text.toList
  if Text.trim cs = [] then some {}
  else ((cs.splitOnP (· = '|')).mapM parsePart?).map fun sets => sets.foldl union {}

end Locality

end EditorBundles.Catalog
