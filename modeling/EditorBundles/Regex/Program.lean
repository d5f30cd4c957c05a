import EditorBundles.Regex.Basic

/-!
# Programs of expressions

An expression becomes a list of instructions that threads run over a text. Code is written for the
place where it will stand; when it is through, it goes on right behind its end. So code is put
together by setting one piece behind the other, and only forks and jumps name a place.
-/

namespace EditorBundles.Regex
set_option autoImplicit false
open Text (CharSet)

/-- What a thread does next. -/
inductive Instruction where
  | take (s : CharSet)
  | check (condition : Look)
  | save (slot : Nat)
  | fork (first second : Nat)
  | jump (target : Nat)
  | accept
  deriving Repr, Inhabited

/-- Instructions, given the place of the first. -/
abbrev Code := Nat → List Instruction

namespace Code

/-- No instructions. -/
def nothing : Code := fun _ => []

/-- A single instruction. -/
def one (i : Instruction) : Code := fun _ => [i]

/-- One piece behind the other. -/
def followedBy (first second : Code) : Code := fun place =>
  let written := first place
  written ++ second (place + written.length)

/-- A number of copies, one behind the other. -/
def copies (body : Code) : Nat → Code
  | 0 => nothing
  | n + 1 => body.followedBy (copies body n)

/-- A fork that prefers to go on with the first place, or, where it is not greedy, with the second. -/
def forkTo (greedy : Bool) (first second : Nat) : Instruction :=
  if greedy then .fork first second else .fork second first

/-- The body, or nothing. -/
def optional (greedy : Bool) (body : Code) : Code := fun place =>
  let written := body (place + 1)
  forkTo greedy (place + 1) (place + 1 + written.length) :: written

/-- The body, up to a number of times. -/
def upTo (greedy : Bool) (body : Code) : Nat → Code
  | 0 => nothing
  | n + 1 => optional greedy (body.followedBy (upTo greedy body n))

/-- The body, once or more. -/
def onceOrMore (greedy : Bool) (body : Code) : Code := fun place =>
  let written := body place
  written ++ [forkTo greedy place (place + written.length + 1)]

/-- The body, any number of times. A body that can take nothing is tried once before the loop, so
that a round that takes nothing ends it. -/
def anyNumber (greedy bodyNullable : Bool) (body : Code) : Code :=
  if bodyNullable then optional greedy (onceOrMore greedy body)
  else fun place =>
    let written := body (place + 1)
    forkTo greedy (place + 1) (place + written.length + 2) :: (written ++ [.jump place])

/-- Either piece, the first one preferred. -/
def either (first second : Code) : Code := fun place =>
  let left := first (place + 1)
  let behind := place + left.length + 2
  let right := second behind
  .fork (place + 1) behind :: (left ++ .jump (behind + right.length) :: right)

end Code

mutual

/-- The code of an expression. -/
def code : Regex → Code
  | .empty => .nothing
  | .oneOf s => .one (.take s)
  | .look condition => .one (.check condition)
  | .group index body =>
    (Code.one (.save (2 * index))).followedBy ((code body).followedBy (.one (.save (2 * index + 1))))
  | .sequence items => sequenceCode items
  | .choice branches => choiceCode branches
  | .loop body min max greedy =>
    match max, min with
    | some max, min => ((code body).copies min).followedBy ((code body).upTo greedy (max - min))
    | none, 0 => (code body).anyNumber greedy body.nullable
    | none, min + 1 => ((code body).copies min).followedBy ((code body).onceOrMore greedy)

/-- The code of expressions that follow each other. -/
def sequenceCode : List Regex → Code
  | [] => .nothing
  | r :: rest => (code r).followedBy (sequenceCode rest)

/-- The code of alternatives. -/
def choiceCode : List Regex → Code
  | [] => .nothing
  | [r] => code r
  | r :: rest => (code r).either (choiceCode rest)

end

/-- The space that a set takes in a program, in octets: little for ASCII characters, more for each range
of others. -/
def setWeight (s : CharSet) : Nat :=
  s.ranges.foldl (fun n r => n + (if r.2 < 0x80 then 8 else 64)) 32

mutual

/-- The space that the program of an expression takes, in octets. -/
def weight : Regex → Nat
  | .empty => 32
  | .oneOf s => setWeight s
  | .look _ => 32
  | .group _ body => weight body + 64
  | .sequence items => weights items
  | .choice branches => weights branches + 32
  | .loop body min max _ => (weight body + 32) * (max.getD min + 1)

/-- The space that the programs of expressions take together, in octets. -/
def weights : List Regex → Nat
  | [] => 0
  | r :: rest => weight r + weights rest

end

/-- Programs that take more space than ten mebibytes are refused. -/
def weightLimit : Nat := 10 * 1024 * 1024

/-- The program of an expression, whose whole match is group 0. Gives nothing where it would be too
large. -/
def program? (r : Regex) : Option (Array Instruction) :=
  if r.weight ≤ weightLimit then
    some (((code (.group 0 r)).followedBy (.one .accept)) 0).toArray
  else none

end EditorBundles.Regex
