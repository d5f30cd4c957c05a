import EditorBundles.Text.Offset

/-!
# Text buffers

A buffer is a text with a cursor and perhaps a selection, both given by offsets in octets. Edits move
the cursor with the text behind them and leave the selection as it was set. An edit at an offset that
is no place in the text gives nothing.
-/

namespace EditorBundles.Snippet
set_option autoImplicit false
open Text (byteLength)

/-- A text that is edited. `indentUnit` is what one level of indentation inserts. -/
structure Buffer where
  text : List Char
  cursor : Nat
  selection : Option (Nat × Nat) := none
  indentUnit : List Char := ['\t']
  deriving DecidableEq, Repr, Inhabited

namespace Buffer

/-- A buffer with the cursor at the end. -/
def ofText (text : List Char) : Buffer := { text, cursor := byteLength text }

/-- Moves the cursor, to the end at most. -/
def setCursor (b : Buffer) (position : Nat) : Buffer := { b with cursor := min position (byteLength b.text) }

/-- The cursor never stands behind the end of the text. -/
theorem cursor_setCursor_le (b : Buffer) (position : Nat) :
    (b.setCursor position).cursor ≤ byteLength (b.setCursor position).text := Nat.min_le_right _ _

/-- Selects what stands between two offsets. -/
def select (b : Buffer) (start stop : Nat) : Buffer := { b with selection := some (start, stop) }

/-- Selects nothing. -/
def deselect (b : Buffer) : Buffer := { b with selection := none }

/-- Is anything selected? -/
def isSelected (b : Buffer) : Bool := b.selection.isSome

/-- Inserts a text; a cursor behind it moves along. -/
def insert? (b : Buffer) (position : Nat) (new : List Char) : Option Buffer := do
  let text ← Text.splice? b.text position position new
  return { b with text, cursor := if position < b.cursor then b.cursor + byteLength new else b.cursor }

/-- Deletes what stands between two offsets; a cursor inside moves to the first, one behind moves
along. -/
def delete? (b : Buffer) (start stop : Nat) : Option Buffer := do
  let text ← Text.splice? b.text start stop []
  let cursor :=
    if stop ≤ b.cursor then b.cursor - (stop - start) else if start < b.cursor then start else b.cursor
  return { b with text, cursor }

/-- The text between two offsets. -/
def textOf? (b : Buffer) (start stop : Nat) : Option (List Char) := Text.slice? b.text start stop

/-- The text that is selected. -/
def selected? (b : Buffer) : Option (Option (List Char)) :=
  match b.selection with
  | none => some none
  | some (start, stop) => (b.textOf? start stop).map some

/-- The last line of a text and all that follows it. -/
def lineFrom (before behind : List Char) : List Char :=
  (before.reverse.takeWhile (· ≠ '\n')).reverse ++ behind

/-- The blanks that the line around an offset starts with. -/
def lineIndent? (b : Buffer) (position : Nat) : Option (List Char) := do
  let (before, behind) ← Text.splitAt? b.text position
  return (lineFrom before behind).takeWhile fun c => c = ' ' || c = '\t'

/-- Inserts a text at the cursor and leaves the cursor behind it. -/
def type? (b : Buffer) (new : List Char) : Option Buffer := do
  let position := b.cursor
  return (← b.insert? position new).setCursor (position + byteLength new)

/-- A line feed and the blanks that the line of the cursor starts with. -/
def newline? (b : Buffer) : Option (List Char) := do return '\n' :: (← b.lineIndent? b.cursor)

end Buffer

end EditorBundles.Snippet
