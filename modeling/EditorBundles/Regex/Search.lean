import EditorBundles.Regex.Parser
import EditorBundles.Regex.Program

/-!
# Finding matches

A search runs the threads of a program from each position on, the preferred thread first, until one
accepts. What a thread can reach depends only on its place in the program and its position in the
text, so each pair is entered once: a thread that comes to one a second time cannot succeed where the
first one failed.
-/

namespace EditorBundles.Regex
set_option autoImplicit false
open Text (CharSet)

/-- Does the character at a position, if there is one, satisfy the condition? -/
def holdsAt (text : Array Char) (position : Nat) (p : Char → Bool) : Bool := (text[position]?).any p

/-- Does the character before a position, if there is one, satisfy the condition? -/
def holdsBefore (text : Array Char) (position : Nat) (p : Char → Bool) : Bool :=
  0 < position && holdsAt text (position - 1) p

/-- Is `c` one of the characters that words are made of? -/
def isWordChar (ascii : Bool) (c : Char) : Bool :=
  if c.toNat < 0x80 then c.isAlphanum || c = '_' else !ascii && Property.word.contains c

/-- Does a position satisfy a condition? -/
def Look.holds (text : Array Char) (position : Nat) : Look → Bool
  | .textStart => position = 0
  | .textStop => position = text.size
  | .lineStart false => position = 0 || holdsBefore text position (· = '\n')
  | .lineStart true =>
    position = 0 || holdsBefore text position (· = '\n')
      || (holdsBefore text position (· = '\r') && !holdsAt text position (· = '\n'))
  | .lineStop false => position = text.size || holdsAt text position (· = '\n')
  | .lineStop true =>
    position = text.size || holdsAt text position (· = '\r')
      || (holdsAt text position (· = '\n') && !holdsBefore text position (· = '\r'))
  | .word side ascii =>
    let before := holdsBefore text position (isWordChar ascii)
    let behind := holdsAt text position (isWordChar ascii)
    match side with
    | .edge => before != behind
    | .inside => before == behind
    | .start => !before && behind
    | .stop => before && !behind
    | .startHalf => !before
    | .stopHalf => !behind

/-- Where a thread stands in the program and in the text, and the positions it has saved, the latest
first. -/
structure Thread where
  place : Nat
  position : Nat
  slots : List (Nat × Nat)
  deriving Repr, DecidableEq

/-- What becomes of a thread at an instruction: the threads to run instead, in order of preference. -/
def Thread.step (text : Array Char) (t : Thread) : Instruction → List Thread
  | .take s =>
    if holdsAt text t.position s.contains then [{ t with place := t.place + 1, position := t.position + 1 }]
    else []
  | .check condition => if condition.holds text t.position then [{ t with place := t.place + 1 }] else []
  | .save slot => [{ t with place := t.place + 1, slots := (slot, t.position) :: t.slots }]
  | .fork first second => [{ t with place := first }, { t with place := second }]
  | .jump target => [{ t with place := target }]
  | .accept => []

/-- Runs threads, the first one to its end before the next, and gives the one that accepts. `entered`
tells for each place and position whether a thread has been there. -/
def runThreads (program : Array Instruction) (text : Array Char) (fuel : Nat) (entered : Array Bool) :
    List Thread → Array Bool × Option Thread
  | [] => (entered, none)
  | t :: rest =>
    match fuel with
    | 0 => (entered, none)
    | fuel + 1 =>
      let index := t.place * (text.size + 1) + t.position
      if entered.getD index true then runThreads program text fuel entered rest
      else match program[t.place]? with
        | none => runThreads program text fuel entered rest
        | some .accept => (entered, some t)
        | some i => runThreads program text fuel (entered.setIfInBounds index true) (t.step text i ++ rest)

/-- Starts a thread at each of so many positions, from `position` on. -/
def runFrom (program : Array Instruction) (text : Array Char) (position : Nat) (entered : Array Bool) :
    Nat → Option Thread
  | 0 => none
  | positions + 1 =>
    let fuel := 2 * entered.size + 2
    match runThreads program text fuel entered [⟨0, position, []⟩] with
    | (_, some t) => some t
    | (entered, none) => runFrom program text (position + 1) entered positions

/-- A match: its span, and the positions that its groups saved. -/
structure Match where
  start : Nat
  stop : Nat
  slots : List (Nat × Nat)
  deriving Repr, DecidableEq

/-- The text that a group took, if it took part in the match. -/
def Match.group? (text : Array Char) (m : Match) (index : Nat) : Option (List Char) := do
  let start ← m.slots.lookup (2 * index)
  let stop ← m.slots.lookup (2 * index + 1)
  return (text.extract start stop).toList

/-- The first match that starts at a position or behind it. -/
def find? (program : Array Instruction) (text : Array Char) (position : Nat) : Option Match := do
  let entered := Array.replicate (program.size * (text.size + 1)) false
  let t ← runFrom program text position entered (text.size + 1 - position)
  let start ← t.slots.lookup 0
  let stop ← t.slots.lookup 1
  if position ≤ start ∧ start ≤ stop ∧ stop ≤ text.size then some ⟨start, stop, t.slots⟩ else none

/-- A match lies behind the position where the search began, in order and inside the text. -/
theorem bounds_of_find? {program : Array Instruction} {text : Array Char} {position : Nat} {m : Match}
    (h : find? program text position = some m) :
    position ≤ m.start ∧ m.start ≤ m.stop ∧ m.stop ≤ text.size := by
  simp only [find?, Option.bind_eq_bind, Option.bind_eq_some_iff, Option.ite_none_right_eq_some,
    Option.some.injEq] at h
  obtain ⟨t, -, start, -, stop, -, inside, rfl⟩ := h
  exact inside

/-- The program of a pattern under flags that hold from its start. Gives nothing for what is no
pattern. -/
def compile? (pattern : String) (flags : Flags) : Option (Array Instruction) := do
  let r ← parse? pattern flags
  program? r

end EditorBundles.Regex
