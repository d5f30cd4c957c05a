/-!
# Templates

A template is text with holes: tab stops, which the user fills in, their mirrors and transforms,
variables of the environment, and commands.
-/

namespace EditorBundles.Snippet
set_option autoImplicit false

/-- A substitution: matches of a pattern are replaced by what a format makes of them. -/
structure Transform where
  regex : List Char
  format : List Char
  flags : List Char
  deriving DecidableEq, Repr, Inhabited

/-- A part of a template. The first tab stop with a number defines it, the others are its mirrors. -/
inductive Node where
  | text (s : List Char)
  | stop (number : Nat) (placeholder : List Node) (pipe : Option (List Char))
  | stopTransform (number : Nat) (t : Transform)
  | var (name : List Char)
  | varOr (name : List Char) (fallback : List Node)
  | varTransform (name : List Char) (t : Transform)
  | shell (command : List Char)
  deriving Repr, Inhabited

namespace Node

/-- Puts a character before parts, into the text that they start with, if they do. -/
def consChar (c : Char) : List Node → List Node
  | .text s :: nodes => .text (c :: s) :: nodes
  | nodes => .text [c] :: nodes

/-- Tab stops are numbered by 32-bit words. -/
def numberLimit : Nat := 0x100000000

end Node

end EditorBundles.Snippet
