import EditorBundles.Json.Basic

/-!
# JSON text

Two layouts of the same value: compact, without any blank, and indented by two spaces a level, where
empty containers stay on one line. Text is written as it is but for quotes, backslashes and control
characters.
-/

namespace EditorBundles.Json
set_option autoImplicit false

/-- The lower-case hexadecimal digit of a number below sixteen. -/
def hexDigit (n : Nat) : Char :=
  if n < 10 then Char.ofNat ('0'.toNat + n) else Char.ofNat ('a'.toNat + (n - 10))

/-- How a character is written inside quotes. -/
def escape (c : Char) : List Char :=
  if c = '"' then ['\\', '"']
  else if c = '\\' then ['\\', '\\']
  else if c = '\x08' then ['\\', 'b']
  else if c = '\t' then ['\\', 't']
  else if c = '\n' then ['\\', 'n']
  else if c = '\x0c' then ['\\', 'f']
  else if c = '\r' then ['\\', 'r']
  else if c.toNat < 0x20 then ['\\', 'u', '0', '0', hexDigit (c.toNat / 16), hexDigit (c.toNat % 16)]
  else [c]

/-- A text in quotes. -/
def quote (s : String) : String :=
  "\"" ++ String.ofList (s.toList.flatMap escape) ++ "\""

mutual

/-- The value without blanks. -/
def compact : Json → String
  | .null => "null"
  | .bool b => if b then "true" else "false"
  | .integer n => toString n
  | .decimal literal => literal
  | .string s => quote s
  | .array items => "[" ++ compactItems true items ++ "]"
  | .object members => "\x7b" ++ compactMembers true members ++ "\x7d"

/-- Items with commas between them; `first` tells whether one stands before. -/
def compactItems (first : Bool) : List Json → String
  | [] => ""
  | j :: rest => (if first then "" else ",") ++ compact j ++ compactItems false rest

/-- Members with commas between them; `first` tells whether one stands before. -/
def compactMembers (first : Bool) : List (String × Json) → String
  | [] => ""
  | (key, j) :: rest =>
    (if first then "" else ",") ++ quote key ++ ":" ++ compact j ++ compactMembers false rest

end

/-- A line break and the indentation of a level. -/
def newline (level : Nat) : String := "\n" ++ String.ofList (List.replicate (2 * level) ' ')

mutual

/-- The value over several lines, whose containers stand at `level`. -/
def prettyAt (level : Nat) : Json → String
  | .null => "null"
  | .bool b => if b then "true" else "false"
  | .integer n => toString n
  | .decimal literal => literal
  | .string s => quote s
  | .array [] => "[]"
  | .array items => "[" ++ prettyItems (level + 1) true items ++ newline level ++ "]"
  | .object [] => "\x7b\x7d"
  | .object members => "\x7b" ++ prettyMembers (level + 1) true members ++ newline level ++ "\x7d"

/-- Items, each on a line of its own. -/
def prettyItems (level : Nat) (first : Bool) : List Json → String
  | [] => ""
  | j :: rest =>
    (if first then "" else ",") ++ newline level ++ prettyAt level j ++ prettyItems level false rest

/-- Members, each on a line of its own. -/
def prettyMembers (level : Nat) (first : Bool) : List (String × Json) → String
  | [] => ""
  | (key, j) :: rest =>
    (if first then "" else ",") ++ newline level ++ quote key ++ ": " ++ prettyAt level j
      ++ prettyMembers level false rest

end

/-- The value over several lines. -/
def pretty (j : Json) : String := prettyAt 0 j

end EditorBundles.Json
