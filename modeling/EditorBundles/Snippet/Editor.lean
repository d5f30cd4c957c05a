import EditorBundles.Snippet.Session
import EditorBundles.Snippet.TemplateReader

/-!
# Editing with snippets

An editor is a buffer and, while a snippet is being filled in, its session. Starting a snippet inserts
its expansion at the cursor and selects its first tab stop; typing inside the current tab stop keeps the
session going, and typing elsewhere, or moving past the last tab stop, ends it.
-/

namespace EditorBundles.Snippet
set_option autoImplicit false
open Text (byteLength)

/-- A buffer with the session over it, if one is running, and the commands that were run. -/
structure Editor where
  buffer : Buffer
  session : Option Session := none
  calls : List Call := []
  deriving Repr, Inhabited

namespace Editor

/-- Is a session running? -/
def isActive (e : Editor) : Bool := e.session.isSome

/-- The tab stop that is being edited. -/
def currentStop? (e : Editor) : Option Nat := e.session.map (·.current)

/-- Where a tab stop stands. -/
def stopRange? (e : Editor) (number : Nat) : Option (Nat × Nat) := e.session.bind (·.stopRange? number)

/-- Where the cursor goes when the session ends. -/
def finishPosition? (e : Editor) : Option Nat := e.session.map (·.finishPosition)

/-- Ends the session and leaves the text as it is. -/
def clear (e : Editor) : Editor := { e with session := none }

/-- Does a range hold a position? Both ends count. -/
def holds (range : Nat × Nat) (position : Nat) : Bool := range.1 ≤ position && position ≤ range.2

/-- Types a text at the cursor. Inside the current tab stop it replaces the selection and the tab stop is
brought up to date; elsewhere the session ends. A lone line feed carries the indentation on. -/
def insert? (e : Editor) (text : List Char) : Option Editor := do
  match e.session with
  | none => return { e with buffer := ← e.buffer.type? text }
  | some s =>
    match (s.stopRange? s.current).filter (holds · e.buffer.cursor) with
    | none => return { e with buffer := ← e.buffer.type? text, session := none }
    | some (start, stop) =>
      let selected := e.buffer.isSelected
      let buffer ←
        if selected then do pure ((← e.buffer.deselect.delete? start stop).setCursor start)
        else pure e.buffer
      let removed : Nat := if selected then stop - start else 0
      let typed ← if text = ['\n'] then buffer.newline? else pure text
      let buffer ← buffer.type? typed
      let (s, buffer) ← s.refresh? buffer s.current ((byteLength typed : Int) - removed) true
      return { e with buffer, session := some s }

/-- Deletes what stands between two offsets. Inside the current tab stop it is brought up to date;
elsewhere the session ends. -/
def delete? (e : Editor) (start stop : Nat) : Option Editor := do
  match e.session with
  | none => return { e with buffer := ← e.buffer.delete? start stop }
  | some s =>
    match (s.stopRange? s.current).filter fun range => range.1 ≤ start && stop ≤ range.2 with
    | none => return { e with buffer := ← e.buffer.delete? start stop, session := none }
    | some _ =>
      let buffer := e.buffer.deselect
      if start < stop then
        let buffer ← buffer.delete? start stop
        let (s, buffer) ← s.refresh? buffer s.current (-((stop - start : Nat) : Int)) true
        return { e with buffer, session := some s }
      else return { e with buffer }

/-- Pipes a tab stop through its command, if it has one: its text becomes what the command prints, if
that is anything. -/
def pipe? (runner : Runner) (e : Editor) (number : Nat) : Option Editor := do
  match e.session with
  | none => return e
  | some s =>
    match s.stops.get? number with
    | none => return e
    | some stop =>
      match stop.pipe with
      | none => return e
      | some command =>
        let env ← s.pipeEnvironment? e.buffer
        let (start, stop) := s.range stop.interval
        let input ← e.buffer.textOf? start stop
        let call : Call := ⟨command, input, env⟩
        let e := { e with calls := e.calls ++ [call] }
        match (runner call).filter (· ≠ []) with
        | none => return e
        | some output =>
          let buffer := (e.buffer.setCursor start).select start stop
          insert? { e with buffer } (chomp output)

/-- Selects a tab stop and makes it the current one. -/
def enter (e : Editor) (s : Session) (number : Nat) (range : Nat × Nat) : Editor :=
  { e with
    buffer := (e.buffer.setCursor range.1).select range.1 range.2
    session := some { s with current := number } }

/-- Ends a session that has no tab stop left to go to: on tab stop 0, which is piped through its command
if it has one, or on the end marker. -/
def conclude? (runner : Runner) (e : Editor) (s : Session) : Option Editor := do
  match s.stops.get? 0 with
  | none => return { e with buffer := e.buffer.setCursor s.finishPosition }.clear
  | some last =>
    if last.pipe.isSome then
      return (← { e with session := some { s with current := 0 } }.pipe? runner 0).clear
    else
      let (start, stop) := s.range last.interval
      let buffer := if start < stop then e.buffer.select start stop else e.buffer
      return { e with buffer := buffer.setCursor stop }.clear

/-- Moves to the next tab stop, once the current one has been piped through its command. Past the last
one the session ends; so it does on the last one if that is empty, at the end marker and has no
command. Numbers are 32-bit words, which wrap. -/
def next? (runner : Runner) (e : Editor) : Option Editor := do
  match e.session with
  | none => return e
  | some s =>
    let current := s.current
    let e ← if current = 0 then pure e else e.pipe? runner current
    match e.session with
    | none => return e
    | some s =>
      let e := { e with buffer := e.buffer.deselect }
      match s.stops.next? ((current + 1) % Node.numberLimit) with
      | none => e.conclude? runner s
      | some (number, stop) =>
        let range := s.range stop.interval
        let isLast := (s.stops.next? ((number + 1) % Node.numberLimit)).isNone
        let atFinish := (s.interval stop.interval).start = s.finish
        let e := e.enter s number range
        return if range.2 ≤ range.1 ∧ isLast ∧ atFinish ∧ stop.pipe.isNone then e.clear else e

/-- Moves to the previous tab stop. On the first one nothing happens. -/
def previous (e : Editor) : Editor :=
  match e.session with
  | none => e
  | some s =>
    match s.stops.previous? s.current with
    | none => e
    | some (number, stop) => e.enter s number (s.range stop.interval)

/-- Inserts the expansion of a template at the cursor and selects its first tab stop. A session that is
running ends first. Nothing is inserted if the template has a fault. -/
def start? (runner : Runner) (e : Editor) (template : List Char) (env : Environment) :
    Option (Option TemplateFault × Editor) := do
  let e := e.clear
  if template = [] then return (none, e)
  else
    let expansion := Expansion.ofNodes runner env e.buffer.indentUnit (parseTemplate template)
    let e := { e with calls := e.calls ++ expansion.calls }
    match expansion.fault? with
    | some fault => return (some fault, e)
    | none =>
      let offset := e.buffer.cursor
      let indent ← e.buffer.lineIndent? offset
      let expansion := expansion.indentLines indent
      let buffer ← e.buffer.insert? offset expansion.text
      let session : Session :=
        { offset, intervals := expansion.intervals, stops := expansion.stops,
          bindings := expansion.bindings, finish := expansion.finishPosition, current := 0, indent,
          indentUnit := buffer.indentUnit, env }
      let (session, buffer) ← session.refreshAll? buffer (session.stops.map (·.1))
      let e ← { e with buffer, session := some session }.next? runner
      return (none, e)

/-- Is the cursor still inside the current tab stop? If it is not, the session ends. -/
def validate (e : Editor) : Bool × Editor :=
  match e.session with
  | none => (false, e)
  | some s =>
    if (s.stopRange? s.current).any (holds · e.buffer.cursor) then (true, e) else (false, e.clear)

/-- Moves the cursor to the end marker and ends the session. -/
def goToFinish (e : Editor) : Editor :=
  match e.session with
  | none => e
  | some s => { e with buffer := e.buffer.setCursor s.finishPosition }.clear

end Editor

end EditorBundles.Snippet
