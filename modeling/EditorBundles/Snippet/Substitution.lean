import EditorBundles.Regex.Search
import EditorBundles.Snippet.Format
import EditorBundles.Snippet.Template

/-!
# Substitutions

Matches are replaced from left to right, the first one or all. After an empty match one character is
passed over, so that the same match is not found again.
-/

namespace EditorBundles.Snippet
set_option autoImplicit false
open Regex (Match)

/-- The text from a position on, with what `render` makes of the matches in their places: of all, or of
the first one only. -/
def substituteFrom (find : Nat → Option Match) (render : Match → List Char) (text : Array Char)
    (everywhere : Bool) (fuel position : Nat) : List Char :=
  match fuel with
  | 0 => (text.extract position).toList
  | fuel + 1 =>
    match find position with
    | none => (text.extract position).toList
    | some m =>
      let passed := if m.start = m.stop then (text.extract m.stop (m.stop + 1)).toList else []
      let next := m.stop + passed.length
      let rest :=
        if text.size ≤ next ∨ !everywhere then (text.extract next).toList
        else substituteFrom find render text everywhere fuel next
      (text.extract position m.start).toList ++ render m ++ passed ++ rest

/-- The text with what `render` makes of the matches in their places. -/
def substitute (find : Nat → Option Match) (render : Match → List Char) (text : Array Char)
    (everywhere : Bool) : List Char :=
  substituteFrom find render text everywhere (text.size + 1) 0

namespace Transform

/-- Is every match replaced, and not just the first one? -/
def isGlobal (t : Transform) : Bool := t.flags.contains 'g'

/-- The program of the pattern under the flags, if it is a pattern. -/
def program? (t : Transform) : Option (Array Regex.Instruction) :=
  Regex.compile? (String.ofList t.regex)
    { ignoreCase := t.flags.contains 'i', multiLine := t.flags.contains 'm' }

/-- The input with its matches replaced. What is no pattern leaves the input as it is. -/
def apply (t : Transform) (input indentUnit : List Char) : List Char :=
  match t.program? with
  | none => input
  | some program =>
    let text := input.toArray
    let render (m : Match) := Format.expand t.format (m.group? text) indentUnit
    substitute (Regex.find? program text) render text t.isGlobal

end Transform

end EditorBundles.Snippet
