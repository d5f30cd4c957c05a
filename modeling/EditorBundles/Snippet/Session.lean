import EditorBundles.Snippet.Buffer
import EditorBundles.Snippet.Expansion

/-!
# Sessions

A session keeps the intervals of an expansion on their text while a buffer is edited. When a tab stop
has changed, its mirrors and the substitutions over it are written anew, and what lies behind moves.
-/

namespace EditorBundles.Snippet
set_option autoImplicit false
open Text (byteLength)

/-- A running snippet. Intervals and `finish` are relative to `offset`; `current` is the tab stop that
is being edited. -/
structure Session where
  offset : Nat
  intervals : List Interval
  stops : Stops
  bindings : List Binding
  finish : Nat
  current : Nat
  indent : List Char
  indentUnit : List Char
  env : Environment
  deriving Repr, Inhabited

namespace Session

/-- An interval by its number. -/
def interval (s : Session) (id : Nat) : Interval := s.intervals.getD id ⟨0, 0, none⟩

/-- Where an interval stands in the buffer. -/
def range (s : Session) (id : Nat) : Nat × Nat :=
  (s.offset + (s.interval id).start, s.offset + (s.interval id).stop)

/-- Where a tab stop stands in the buffer. -/
def stopRange? (s : Session) (number : Nat) : Option (Nat × Nat) :=
  (s.stops.get? number).map fun stop => s.range stop.interval

/-- Where the cursor goes when the session ends. -/
def finishPosition (s : Session) : Nat := s.offset + s.finish

/-- The intervals around an interval, from the inside out. There are fewer of them than `fuel`. -/
def ancestorsUpTo (s : Session) (fuel id : Nat) : List Nat :=
  match fuel with
  | 0 => []
  | fuel + 1 =>
    match (s.interval id).parent with
    | none => []
    | some parent => parent :: ancestorsUpTo s fuel parent

/-- The intervals around an interval, from the inside out. -/
def ancestors (s : Session) (id : Nat) : List Nat := s.ancestorsUpTo (id + 1) id

/-- Does an interval lie inside another? -/
def isDescendant (s : Session) (id ancestor : Nat) : Bool := (s.ancestors id).contains ancestor

/-- The intervals after interval `id` has changed its length: those around it grow, those behind it
move, and those inside it that start with it only grow. -/
def resize (s : Session) (id : Nat) (distance : Int) : Session :=
  if distance = 0 then s
  else
    let start := (s.interval id).start
    let around := s.ancestors id
    let moved (index : Nat) (i : Interval) : Interval :=
      if index = id ∨ around.contains index then { i with stop := shifted i.stop distance }
      else if id < index then
        { i with
          start := if i.start = start ∧ s.isDescendant index id then i.start else shifted i.start distance
          stop := shifted i.stop distance }
      else i
    { s with
      intervals := s.intervals.mapIdx moved
      finish := if start ≤ s.finish then shifted s.finish distance else s.finish }

/-- The intervals inside an interval. -/
def nested (s : Session) (id : Nat) : List Nat :=
  (List.range s.intervals.length).filter fun index => id < index && s.isDescendant index id

/-- Drops the tab stops, mirrors and substitutions inside an interval. Their intervals collapse onto its
start. -/
def dropNested (s : Session) (id : Nat) : Session :=
  let inside := s.nested id
  let start := (s.interval id).start
  { s with
    intervals := s.intervals.mapIdx fun index i =>
      if inside.contains index then { i with start, stop := start } else i
    stops := (s.stops.filter fun stop => !inside.contains stop.2.interval).map fun stop =>
      (stop.1, { stop.2 with mirrors := stop.2.mirrors.filter fun m => !inside.contains m })
    bindings := s.bindings.filter fun b => !inside.contains b.interval }

/-- Text with the indent of the session behind every line feed. -/
def indentText (s : Session) (text : List Char) : List Char :=
  text.flatMap fun c => if c = '\n' then c :: s.indent else [c]

/-- Writes a text into an interval. -/
def write? (s : Session) (b : Buffer) (id : Nat) (content : List Char) : Option (Session × Buffer) := do
  let (start, stop) := s.range id
  let b ← b.delete? start stop
  let b ← b.insert? start content
  return (s.resize id ((byteLength content : Int) - (stop - start : Nat)), b)

/-- Writes a text into each of several intervals. -/
def writeAll? (s : Session) (b : Buffer) (content : List Char) : List Nat → Option (Session × Buffer)
  | [] => some (s, b)
  | id :: rest => do
    let (s, b) ← s.write? b id content
    writeAll? s b content rest

/-- Writes what substitutions make of interval `source` into their intervals. -/
def applyAll? (s : Session) (b : Buffer) (source : Nat) : List Binding → Option (Session × Buffer)
  | [] => some (s, b)
  | binding :: rest => do
    let (start, stop) := s.range source
    let input ← b.textOf? start stop
    let (s, b) ← s.write? b binding.interval (s.indentText (binding.transform.apply input s.indentUnit))
    applyAll? s b source rest

/-- Brings the mirrors of a tab stop and the substitutions over it up to date, after its length has
changed. `rewritten` tells that its text was replaced, so that nothing inside it is left. -/
def refresh? (s : Session) (b : Buffer) (number : Nat) (distance : Int) (rewritten : Bool) :
    Option (Session × Buffer) :=
  match s.stops.get? number with
  | none => some (s, b)
  | some stop => do
    let id := stop.interval
    let s := s.resize id distance
    let s := if rewritten then s.dropNested id else s
    let (start, stop) := s.range id
    let content ← b.textOf? start stop
    let mirrors := ((s.stops.get? number).map (·.mirrors)).getD []
    let (s, b) ← s.writeAll? b content mirrors
    s.applyAll? b id (s.bindings.filter fun binding => binding.source = number)

/-- Brings several tab stops up to date, one after the other. -/
def refreshAll? (s : Session) (b : Buffer) : List Nat → Option (Session × Buffer)
  | [] => some (s, b)
  | number :: rest => do
    let (s, b) ← s.refresh? b number 0 false
    refreshAll? s b rest

/-- Adds the text of every tab stop to an environment. -/
def addStopTexts? (s : Session) (b : Buffer) (env : Environment) : Stops → Option Environment
  | [] => some env
  | (number, stop) :: rest => do
    let (start, stop) := s.range stop.interval
    let text ← b.textOf? start stop
    addStopTexts? s b (env.set ("TM_TABSTOP_".toList ++ (toString number).toList) text) rest

/-- The environment of a command that a tab stop is piped through: that of the session, with the text of
the snippet up to its end marker and the texts of the tab stops. -/
def pipeEnvironment? (s : Session) (b : Buffer) : Option Environment := do
  let text ← b.textOf? s.offset s.finishPosition
  s.addStopTexts? b (s.env.set "TM_SNIPPET".toList text) s.stops

end Session

end EditorBundles.Snippet
