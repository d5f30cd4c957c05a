import EditorBundles.Snippet.Environment
import EditorBundles.Snippet.Substitution
import EditorBundles.Text.Offset

/-!
# Expansions

Expanding a template gives its text and the intervals that its tab stops, mirrors and transforms take
in it. Intervals are numbered in the order in which they start, so that a parent comes before what it
holds and earlier text before later text.
-/

namespace EditorBundles.Snippet
set_option autoImplicit false
open Text (byteLength)

/-- A span of the expansion. `parent` is the innermost interval around it. -/
structure Interval where
  start : Nat
  stop : Nat
  parent : Option Nat
  deriving DecidableEq, Repr, Inhabited

/-- A tab stop: its interval, its command, and the intervals of its mirrors. -/
structure Stop where
  interval : Nat
  pipe : Option (List Char)
  mirrors : List Nat
  deriving DecidableEq, Repr, Inhabited

/-- An interval that shows what a substitution makes of a tab stop. -/
structure Binding where
  source : Nat
  interval : Nat
  transform : Transform
  deriving DecidableEq, Repr, Inhabited

/-- What can be wrong with a template. -/
inductive TemplateFault where
  | undefinedStop (number : Nat)
  deriving DecidableEq, Repr

/-- What is told about a template that cannot be started. -/
def TemplateFault.message : TemplateFault → String
  | .undefinedStop number => "Tab stop $" ++ toString number ++ " is transformed but never defined"

/-- Tab stops by number, in increasing order. -/
abbrev Stops := List (Nat × Stop)

namespace Stops

/-- The tab stop with a number. -/
def get? (stops : Stops) (number : Nat) : Option Stop := Entries.get? stops number

/-- Puts a new tab stop at the place of its number. -/
def insert (number : Nat) (stop : Stop) : Stops → Stops
  | [] => [(number, stop)]
  | (n, s) :: rest => if number < n then (number, stop) :: (n, s) :: rest else (n, s) :: insert number stop rest

/-- Changes the tab stop with a number. -/
def modify (stops : Stops) (number : Nat) (change : Stop → Stop) : Stops :=
  stops.map fun s => if s.1 = number then (s.1, change s.2) else s

/-- The first tab stop with a number from `low` on. -/
def next? (stops : Stops) (low : Nat) : Option (Nat × Stop) := stops.find? fun s => low ≤ s.1

/-- The last tab stop with a number of 1 or more below `high`. -/
def previous? (stops : Stops) (high : Nat) : Option (Nat × Stop) :=
  (stops.filter fun s => 1 ≤ s.1 && s.1 < high).getLast?

end Stops

/-- What a template has become so far. `finish` is where the cursor goes at the end, `parent` the interval
that is open, and `calls` are the commands that were run. -/
structure Expansion where
  text : List Char := []
  intervals : List Interval := []
  stops : Stops := []
  bindings : List Binding := []
  finish : Option Nat := none
  parent : Option Nat := none
  calls : List Call := []
  deriving Repr, Inhabited

namespace Expansion

/-- Appends text. -/
def append (e : Expansion) (s : List Char) : Expansion := { e with text := e.text ++ s }

/-- Opens an interval inside the one that is open. -/
def openInterval (e : Expansion) : Expansion :=
  let position := byteLength e.text
  { e with intervals := e.intervals ++ [⟨position, position, e.parent⟩], parent := some e.intervals.length }

/-- Closes an interval; the one around it is open again. -/
def closeInterval (e : Expansion) (id : Nat) : Expansion :=
  let position := byteLength e.text
  { e with
    intervals := e.intervals.modify id fun i => { i with stop := position }
    parent := (e.intervals[id]?).bind (·.parent) }

/-- Text with its tabs replaced by the indent unit. -/
def indentTabs (indentUnit s : List Char) : List Char := s.flatMap fun c => if c = '\t' then indentUnit else [c]

/-- The text of a variable that has one. -/
def valueOf? (env : Environment) (name : List Char) : Option (List Char) := (env.get? name).filter (· ≠ [])

/-- Runs a command and appends what it prints. -/
def runCommand (e : Expansion) (runner : Runner) (call : Call) : Expansion :=
  { e with text := e.text ++ ((runner call).map chomp).getD [], calls := e.calls ++ [call] }

mutual

/-- Expands a part of a template. -/
def node (runner : Runner) (env : Environment) (indentUnit : List Char) (e : Expansion) : Node → Expansion
  | .text s => e.append (indentTabs indentUnit s)
  | .stop number placeholder pipe =>
    if number = 0 ∧ placeholder.isEmpty ∧ pipe = none then { e with finish := some (byteLength e.text) }
    else
      let id := e.intervals.length
      let opened := e.openInterval
      match opened.stops.get? number with
      | some _ =>
        { opened with stops := opened.stops.modify number fun s => { s with mirrors := s.mirrors ++ [id] } }.closeInterval id
      | none =>
        let defined := { opened with stops := opened.stops.insert number ⟨id, pipe, []⟩ }
        (nodes runner env indentUnit defined placeholder).closeInterval id
  | .stopTransform number t =>
    let id := e.intervals.length
    let closed := e.openInterval.closeInterval id
    { closed with bindings := closed.bindings ++ [⟨number, id, t⟩] }
  | .var name => e.append ((valueOf? env name).getD [])
  | .varOr name fallback =>
    match valueOf? env name with
    | some value => e.append value
    | none => nodes runner env indentUnit e fallback
  | .varTransform name t => e.append (t.apply ((env.get? name).getD []) indentUnit)
  | .shell command => e.runCommand runner ⟨command, [], env⟩

/-- Expands the parts of a template one after the other. -/
def nodes (runner : Runner) (env : Environment) (indentUnit : List Char) (e : Expansion) :
    List Node → Expansion
  | [] => e
  | n :: rest => nodes runner env indentUnit (node runner env indentUnit e n) rest

end

/-- The expansion of a template. -/
def ofNodes (runner : Runner) (env : Environment) (indentUnit : List Char) (template : List Node) :
    Expansion :=
  nodes runner env indentUnit {} template

/-- Where the cursor goes at the end: to the last bare stop 0, or behind the text. -/
def finishPosition (e : Expansion) : Nat := e.finish.getD (byteLength e.text)

/-- The first substitution over a tab stop that nothing defines. -/
def fault? (e : Expansion) : Option TemplateFault :=
  (e.bindings.find? fun b => (e.stops.get? b.source).isNone).map fun b => .undefinedStop b.source

end Expansion

/-- A position moved by a distance, to 0 at least. -/
def shifted (position : Nat) (distance : Int) : Nat := (position + distance).toNat

/-- An interval after the text behind a position has moved: one that holds the position grows, one
behind it moves. -/
def Interval.shiftFrom (i : Interval) (position : Nat) (distance : Int) : Interval :=
  if position < i.stop then
    { i with
      start := if position < i.start then shifted i.start distance else i.start
      stop := shifted i.stop distance }
  else i

namespace Expansion

/-- Puts the indent behind every line feed of the text that is still to come; `before` is the text in
front of it. Intervals and the end marker stay on their text. -/
def indentFrom (indent before : List Char) (intervals : List Interval) (finish : Nat) :
    List Char → List Char × List Interval × Nat
  | [] => (before, intervals, finish)
  | c :: rest =>
    if c = '\n' then
      let position := byteLength before
      let distance : Int := byteLength indent
      indentFrom indent (before ++ c :: indent) (intervals.map (·.shiftFrom position distance))
        (if position < finish then shifted finish distance else finish) rest
    else indentFrom indent (before ++ [c]) intervals finish rest

/-- Puts an indent behind every line feed. -/
def indentLines (e : Expansion) (indent : List Char) : Expansion :=
  let (text, intervals, finish) := indentFrom indent [] e.intervals e.finishPosition e.text
  { e with text, intervals, finish := some finish }

end Expansion

end EditorBundles.Snippet
