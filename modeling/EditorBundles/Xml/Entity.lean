import EditorBundles.Text.Offset
import EditorBundles.Text.Quoted

/-!
# Character entities

Five characters have a name in XML text, and any other can be given by its number. `escape` writes
the five names; `unescape` reads both kinds and refuses an ampersand that starts neither. Ranges in
faults count octets from the start of the piece of text that is read.
-/

namespace EditorBundles.Xml.Entity
set_option autoImplicit false
open Text (byteLength)

/-- Why a piece of text holds no valid entities. -/
inductive Fault where
  | nullCharacter (start stop : Nat)
  | unknownName (start stop : Nat) (name : String)
  | unterminated (start stop : Nat)
  | tooLongHexadecimal
  | tooLongDecimal
  | notHexadecimal (c : Char)
  | notDecimal (c : Char)
  | notCodePoint (n : Nat)
  deriving DecidableEq, Repr

/-- The wording of a fault. -/
def Fault.message : Fault → String
  | .nullCharacter start stop =>
    s!"Error while escaping character at range {start}..{stop}: Null character entity not allowed"
  | .unknownName start stop name =>
    s!"Error while escaping character at range {start}..{stop}: Unrecognized escape symbol: "
      ++ Text.quoted name
  | .unterminated start stop =>
    s!"Error while escaping character at range {start}..{stop}: Cannot find ';' after '&'"
  | .tooLongHexadecimal => "Cannot convert hexadecimal to utf8"
  | .tooLongDecimal => "Cannot convert decimal to utf8"
  | .notHexadecimal c => "'" ++ String.singleton c ++ "' is not a valid hexadecimal character"
  | .notDecimal c => "'" ++ String.singleton c ++ "' is not a valid decimal character"
  | .notCodePoint n => s!"'{n}' is not a valid codepoint"

/-- How a character is written in text. -/
def escapeChar (c : Char) : List Char :=
  if c = '<' then ['&', 'l', 't', ';']
  else if c = '>' then ['&', 'g', 't', ';']
  else if c = '&' then ['&', 'a', 'm', 'p', ';']
  else if c = '\'' then ['&', 'a', 'p', 'o', 's', ';']
  else if c = '"' then ['&', 'q', 'u', 'o', 't', ';']
  else [c]

/-- How a text is written. -/
def escape (cs : List Char) : List Char := cs.flatMap escapeChar

/-- The character that a name stands for. -/
def named? (name : List Char) : Option Char :=
  if name = ['l', 't'] then some '<'
  else if name = ['g', 't'] then some '>'
  else if name = ['a', 'm', 'p'] then some '&'
  else if name = ['a', 'p', 'o', 's'] then some '\''
  else if name = ['q', 'u', 'o', 't'] then some '"'
  else none

/-- The character whose number is the first octet of `c`. -/
def firstOctet (c : Char) : Char :=
  if c.toNat < 0x80 then c
  else if c.toNat < 0x800 then Char.ofNat (0xC0 + c.toNat / 64)
  else if c.toNat < 0x10000 then Char.ofNat (0xE0 + c.toNat / 4096)
  else Char.ofNat (0xF0 + c.toNat / 262144)

/-- The number that hexadecimal digits of either case write after `n`. -/
def hexadecimal (n : Nat) : List Char → Except Fault Nat
  | [] => .ok n
  | c :: rest =>
    if '0' ≤ c && c ≤ '9' then hexadecimal (n * 16 + (c.toNat - '0'.toNat)) rest
    else if 'a' ≤ c && c ≤ 'f' then hexadecimal (n * 16 + (c.toNat - 'a'.toNat + 10)) rest
    else if 'A' ≤ c && c ≤ 'F' then hexadecimal (n * 16 + (c.toNat - 'A'.toNat + 10)) rest
    else .error (.notHexadecimal (firstOctet c))

/-- The number that decimal digits write after `n`. -/
def decimal (n : Nat) : List Char → Except Fault Nat
  | [] => .ok n
  | c :: rest =>
    if '0' ≤ c && c ≤ '9' then decimal (n * 10 + (c.toNat - '0'.toNat)) rest
    else .error (.notDecimal (firstOctet c))

/-- The number behind `#`. More digits than the largest code point has are refused unread. -/
def number (digits : List Char) : Except Fault Nat :=
  match digits with
  | 'x' :: digits => if 6 < byteLength digits then .error .tooLongHexadecimal else hexadecimal 0 digits
  | digits => if 7 < byteLength digits then .error .tooLongDecimal else decimal 0 digits

/-- The character that `body`, the text between `&` and `;`, stands for. The ampersand is at octet
`start`. -/
def resolve (start : Nat) (body : List Char) : Except Fault Char :=
  match body with
  | '#' :: digits =>
    match number digits with
    | .error fault => .error fault
    | .ok n =>
      if n = 0 then .error (.nullCharacter start (start + 1 + byteLength body))
      else if n.isValidChar then .ok (Char.ofNat n)
      else .error (.notCodePoint n)
  | body =>
    match named? body with
    | some c => .ok c
    | none => .error (.unknownName (start + 1) (start + 1 + byteLength body) (String.ofList body))

/-- Does an entity's body end before `c`? -/
def endsBody (c : Char) : Bool := c = '&' || c = ';'

/-- Reads the text from octet `pos` on; `total` is the length of the whole piece. -/
def unescapeFrom (total pos : Nat) (cs : List Char) : Except Fault (List Char) :=
  match cs with
  | [] => .ok []
  | c :: rest =>
    if c = '&' then
      let body := rest.takeWhile (fun c => !endsBody c)
      match rest.drop body.length with
      | ';' :: _ =>
        match resolve pos body with
        | .error fault => .error fault
        | .ok char =>
          match unescapeFrom total (pos + byteLength body + 2) (rest.drop (body.length + 1)) with
          | .ok text => .ok (char :: text)
          | .error fault => .error fault
      | _ => .error (.unterminated pos total)
    else
      match unescapeFrom total (pos + c.utf8Size) rest with
      | .ok text => .ok (c :: text)
      | .error fault => .error fault
  termination_by cs.length

/-- The text that a piece of markup text stands for. -/
def unescape (cs : List Char) : Except Fault (List Char) := unescapeFrom (byteLength cs) 0 cs

end EditorBundles.Xml.Entity
