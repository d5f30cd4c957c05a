import EditorBundles.Text.CharSet

/-!
# Regular expressions

What a pattern means once its flags are spent: sets of characters, conditions on a position,
numbered groups, sequences, alternatives in order of preference, and loops.
-/

namespace EditorBundles
set_option autoImplicit false
open Text (CharSet)

namespace Regex

/-- Which side of a word a position must be at. -/
inductive WordSide where
  | edge
  | inside
  | start
  | stop
  | startHalf
  | stopHalf
  deriving DecidableEq, Repr

/-- A condition on a position. `word` has the set of characters that words are made of. -/
inductive Look where
  | textStart
  | textStop
  | lineStart (crlf : Bool)
  | lineStop (crlf : Bool)
  | word (side : WordSide) (ascii : Bool)
  deriving DecidableEq, Repr

end Regex

/-- A regular expression. -/
inductive Regex where
  | empty
  | oneOf (s : CharSet)
  | look (condition : Regex.Look)
  | group (index : Nat) (body : Regex)
  | sequence (items : List Regex)
  | choice (branches : List Regex)
  | loop (body : Regex) (min : Nat) (max : Option Nat) (greedy : Bool)
  deriving Repr, Inhabited

namespace Regex

mutual

/-- Can the expression match without taking a character? -/
def nullable : Regex → Bool
  | .empty => true
  | .oneOf s => s.isEmpty
  | .look _ => true
  | .group _ body => nullable body
  | .sequence items => allNullable items
  | .choice branches => someNullable branches
  | .loop body min _ _ => min = 0 || nullable body

/-- Can every item match without taking a character? -/
def allNullable : List Regex → Bool
  | [] => true
  | r :: rest => nullable r && allNullable rest

/-- Can some branch match without taking a character? -/
def someNullable : List Regex → Bool
  | [] => false
  | r :: rest => nullable r || someNullable rest

end

mutual

/-- Does the expression never take a character? -/
def takesNothing : Regex → Bool
  | .empty => true
  | .oneOf _ => false
  | .look _ => true
  | .group _ body => takesNothing body
  | .sequence items => allTakeNothing items
  | .choice branches => allTakeNothing branches
  | .loop body _ max _ => max = some 0 || takesNothing body

/-- Does none of the expressions take a character? -/
def allTakeNothing : List Regex → Bool
  | [] => true
  | r :: rest => takesNothing r && allTakeNothing rest

end

mutual

/-- How deep the constructs of an expression are nested. -/
def depth : Regex → Nat
  | .empty => 0
  | .oneOf _ => 0
  | .look _ => 0
  | .group _ body => depth body + 1
  | .sequence items => deepest items + 1
  | .choice branches => deepest branches + 1
  | .loop body _ _ _ => depth body + 1

/-- The greatest depth among expressions. -/
def deepest : List Regex → Nat
  | [] => 0
  | r :: rest => max (depth r) (deepest rest)

end

end Regex

end EditorBundles
