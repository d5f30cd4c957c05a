/-!
# Sets of characters

A set is kept as ranges of code points in increasing order, neither touching nor overlapping, so
that membership is a binary search and the set operations are sweeps. `ofTable` reads the compact
text in which the tables of character properties are written.
-/

namespace EditorBundles.Text
set_option autoImplicit false

/-- A set of code points, as increasing ranges with both ends included. -/
structure CharSet where
  ranges : Array (Nat × Nat)
  deriving Repr, DecidableEq, Inhabited

namespace CharSet

/-- The largest code point. -/
def last : Nat := 0x10FFFF

/-- Joins ranges, sorted by their start, that touch or overlap; `low` to `high` is the range being
grown. -/
def joinFrom (low high : Nat) : List (Nat × Nat) → List (Nat × Nat)
  | [] => [(low, high)]
  | (a, b) :: rest =>
    if a ≤ high + 1 then joinFrom low (max high b) rest else (low, high) :: joinFrom a b rest

/-- The set of all code points in some range of a list; a range whose end comes first is empty. -/
def ofRanges (ranges : List (Nat × Nat)) : CharSet :=
  match (ranges.filter fun r => r.1 ≤ r.2).mergeSort (fun r s => r.1 ≤ s.1) with
  | [] => ⟨#[]⟩
  | (a, b) :: rest => ⟨(joinFrom a b rest).toArray⟩

/-- No character. -/
def empty : CharSet := ⟨#[]⟩

/-- Every character. -/
def all : CharSet := ⟨#[(0, last)]⟩

/-- A single character. -/
def singleton (c : Char) : CharSet := ⟨#[(c.toNat, c.toNat)]⟩

/-- Both sets together. -/
def union (s t : CharSet) : CharSet := ofRanges (s.ranges.toList ++ t.ranges.toList)

/-- The gaps between increasing ranges, from `low` on. -/
def gapsFrom (low : Nat) : List (Nat × Nat) → List (Nat × Nat)
  | [] => if low ≤ last then [(low, last)] else []
  | (a, b) :: rest => if low < a then (low, a - 1) :: gapsFrom (b + 1) rest else gapsFrom (b + 1) rest

/-- All other characters. -/
def complement (s : CharSet) : CharSet := ⟨(gapsFrom 0 s.ranges.toList).toArray⟩

/-- The characters of both sets. -/
def inter (s t : CharSet) : CharSet := (s.complement.union t.complement).complement

/-- The characters of the first set that are not in the second. -/
def diff (s t : CharSet) : CharSet := s.inter t.complement

/-- The characters of exactly one of two sets. -/
def symmDiff (s t : CharSet) : CharSet := (s.diff t).union (t.diff s)

/-- Is no character in the set? -/
def isEmpty (s : CharSet) : Bool := s.ranges.isEmpty

/-- Does a range at index `low` or above, but below `high`, hold the code point? -/
def search (ranges : Array (Nat × Nat)) (n : Nat) (fuel low high : Nat) : Bool :=
  match fuel with
  | 0 => false
  | fuel + 1 =>
    if high ≤ low then false
    else
      let middle := (low + high) / 2
      match ranges[middle]? with
      | none => false
      | some (a, b) =>
        if n < a then search ranges n fuel low middle
        else if b < n then search ranges n fuel (middle + 1) high
        else true

/-- Is the character in the set? -/
def contains (s : CharSet) (c : Char) : Bool := search s.ranges c.toNat s.ranges.size 0 s.ranges.size

/-- The digits of base 36, lower case. -/
def digitValue (c : Char) : Nat :=
  if c ≤ '9' then c.toNat - '0'.toNat else c.toNat - 'a'.toNat + 10

/-- The number that digits of base 36 write. -/
def number (digits : List Char) : Nat := digits.foldl (fun n c => n * 36 + digitValue c) 0

/-- Reads a table: numbers of base 36 between blanks, by turns the distance from the end of the last
range to the start of the next, and the length of that range less one. -/
def decode (position : Nat) : List (List Char) → List (Nat × Nat)
  | gap :: span :: rest =>
    let low := position + number gap
    let high := low + number span
    (low, high) :: decode high rest
  | _ => []

/-- The numbers of a table. -/
def numerals (table : String) : List (List Char) := (table.toList.splitOnP (· = ' ')).filter (· ≠ [])

/-- The set that a table writes. -/
def ofTable (table : String) : CharSet := ⟨(decode 0 (numerals table)).toArray⟩

end CharSet

end EditorBundles.Text
