import EditorBundles.Text.CaseTables
import EditorBundles.Text.CharSet

/-!
# Upper and lower case

Every character has an upper and a lower case, each a sequence of characters: of itself where nothing
changes, of several for a few such as `ß`. A whole text is mapped character by character, but for the
capital sigma, whose lower case at the end of a word is the final sigma.
-/

namespace EditorBundles.Text
set_option autoImplicit false

/-- Maps a character by its row of a table, if it has one. -/
def mapCase (runs : List CaseRun) (sequences : List (Nat × List Nat)) (c : Char) : List Char :=
  match sequences.lookup c.toNat with
  | some ns => ns.map Char.ofNat
  | none =>
    match runs.findSome? (·.map? c.toNat) with
    | some n => [Char.ofNat n]
    | none => [c]

/-- The upper case of a character. -/
def upperChar (c : Char) : List Char :=
  if c.toNat < 0x80 then [c.toUpper] else mapCase upperRuns upperSequences c

/-- The lower case of a character by itself. -/
def lowerChar (c : Char) : List Char :=
  if c.toNat < 0x80 then [c.toLower] else mapCase lowerRuns lowerSequences c

/-- The characters that have a case. -/
def cased : CharSet := .ofTable casedTable

/-- The characters that are passed over when the case around a letter is looked at. -/
def caseIgnorable : CharSet := .ofTable caseIgnorableTable

/-- Is the first character that counts one with a case? -/
def meetsCased (cs : List Char) : Bool :=
  match cs.dropWhile caseIgnorable.contains with
  | c :: _ => cased.contains c
  | [] => false

/-- The lower case of a text; `before` is what stands before it, latest first. -/
def lowerFrom (before : List Char) : List Char → List Char
  | [] => []
  | c :: rest =>
    let lower :=
      if c = 'Σ' then (if meetsCased before && !meetsCased rest then ['ς'] else ['σ']) else lowerChar c
    lower ++ lowerFrom (c :: before) rest

/-- The lower case of a text. -/
def lower (s : String) : String := String.ofList (lowerFrom [] s.toList)

/-- The upper case of a text. -/
def upper (s : String) : String := String.ofList (s.toList.flatMap upperChar)

/-- Each character that case folding changes, with what it becomes. -/
def foldings : List (Nat × Nat) :=
  foldRuns.flatMap fun r => r.members.map fun n => (n, ((n : Int) + r.shift).toNat)

namespace CharSet

/-- Is the code point in the set? -/
def containsNat (s : CharSet) (n : Nat) : Bool := search s.ranges n s.ranges.size 0 s.ranges.size

/-- The characters that differ from one of the set at most by case: those that fold to what one of
the set folds to. -/
def closeUnderCase (s : CharSet) : CharSet :=
  let met := ofRanges ((foldings.filter fun f => s.containsNat f.1 || s.containsNat f.2).map fun f => (f.2, f.2))
  let joined := foldings.filter fun f => met.containsNat f.2
  s.union (ofRanges (joined.flatMap fun f => [(f.1, f.1), (f.2, f.2)]))

end CharSet

end EditorBundles.Text
