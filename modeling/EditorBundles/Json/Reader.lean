import EditorBundles.Json.Basic
import EditorBundles.Text.Offset

/-!
# Reading JSON text

A recursive-descent reader on characters. Each step gives what it read and the rest of the input.
Faults are told apart only by what a caller can act on: the text is no JSON, it ends too early, or
it is JSON of another shape than wanted.

A value that nobody looks at is read in `.skipping` mode, which checks the syntax but neither the
range of numbers, nor the pairing of surrogates, nor the nesting depth.
-/

namespace EditorBundles.Json
set_option autoImplicit false

/-- Why a text gives no value. -/
inductive Fault where
  | malformed
  | ended
  | unfit
  deriving DecidableEq, Repr

/-- Whether a value is wanted or only passed over. -/
inductive Mode where
  | keeping
  | skipping
  deriving DecidableEq, Repr

/-- Containers nested this deep are refused. -/
def depthLimit : Nat := 128

/-- Is `c` one of the four blanks between tokens? -/
def isBlank (c : Char) : Bool := c = ' ' || c = '\n' || c = '\t' || c = '\r'

/-- The input after its leading blanks. -/
def skipBlanks (cs : List Char) : List Char := cs.dropWhile isBlank

/-- The value of a hexadecimal digit of either case. -/
def hexValue? (c : Char) : Option Nat :=
  if '0' ≤ c && c ≤ '9' then some (c.toNat - '0'.toNat)
  else if 'a' ≤ c && c ≤ 'f' then some (c.toNat - 'a'.toNat + 10)
  else if 'A' ≤ c && c ≤ 'F' then some (c.toNat - 'A'.toNat + 10)
  else none

/-- The number that four hexadecimal digits write. Fewer than four octets of input end too early. -/
def fourDigits (cs : List Char) : Except Fault Nat :=
  if Text.byteLength (cs.take 4) < 4 then .error .ended
  else match (cs.take 4).mapM hexValue? with
    | some [a, b, c, d] => .ok (((a * 16 + b) * 16 + c) * 16 + d)
    | _ => .error .malformed

/-- Is `n` the first half of a surrogate pair? -/
def isHighSurrogate (n : Nat) : Bool := 0xD800 ≤ n && n ≤ 0xDBFF

/-- Is `n` the second half of a surrogate pair? -/
def isLowSurrogate (n : Nat) : Bool := 0xDC00 ≤ n && n ≤ 0xDFFF

/-- The low surrogate that must follow a high one, from the input behind it. -/
def lowSurrogate (cs : List Char) : Except Fault Nat :=
  match cs with
  | [] => .error .ended
  | '\\' :: [] => .error .ended
  | '\\' :: 'u' :: rest =>
    match fourDigits rest with
    | .ok low => if isLowSurrogate low then .ok low else .error .malformed
    | .error fault => .error fault
  | _ => .error .malformed

/-- The character that an escape writes and how many characters of input it takes, behind the
backslash. -/
def escaped (mode : Mode) (cs : List Char) : Except Fault (Char × Nat) :=
  match cs with
  | [] => .error .ended
  | 'u' :: rest =>
    match fourDigits rest with
    | .error fault => .error fault
    | .ok n =>
      if isHighSurrogate n then
        if mode = .skipping then .ok ('\uFFFD', 5)
        else match lowSurrogate (rest.drop 4) with
          | .ok low => .ok (Char.ofNat (0x10000 + (n - 0xD800) * 0x400 + (low - 0xDC00)), 11)
          | .error fault => .error fault
      else if isLowSurrogate n then
        if mode = .skipping then .ok ('\uFFFD', 5) else .error .malformed
      else .ok (Char.ofNat n, 5)
  | '"' :: _ => .ok ('"', 1)
  | '\\' :: _ => .ok ('\\', 1)
  | '/' :: _ => .ok ('/', 1)
  | 'b' :: _ => .ok ('\x08', 1)
  | 'f' :: _ => .ok ('\x0c', 1)
  | 'n' :: _ => .ok ('\n', 1)
  | 'r' :: _ => .ok ('\r', 1)
  | 't' :: _ => .ok ('\t', 1)
  | _ => .error .malformed

/-- The rest of a quoted text, behind its first quote. -/
def readText (mode : Mode) (cs : List Char) : Except Fault (List Char × List Char) :=
  match cs with
  | [] => .error .ended
  | c :: rest =>
    if c = '"' then .ok ([], rest)
    else if c = '\\' then
      match escaped mode rest with
      | .error fault => .error fault
      | .ok (char, used) =>
        match readText mode (rest.drop used) with
        | .ok (text, tail) => .ok (char :: text, tail)
        | .error fault => .error fault
    else if c.toNat < 0x20 then .error .malformed
    else match readText mode rest with
      | .ok (text, tail) => .ok (c :: text, tail)
      | .error fault => .error fault
  termination_by cs.length

/-- The rest of one of the three words `null`, `true` and `false`, behind its first letter. -/
def readWord (word : List Char) (value : Json) (cs : List Char) : Except Fault (Json × List Char) :=
  match word, cs with
  | [], cs => .ok (value, cs)
  | _ :: _, [] => .error .ended
  | w :: word, c :: cs => if w = c then readWord word value cs else .error .malformed

/-- The fault of a number that the end of the input cuts off. -/
def Mode.cutNumber : Mode → Fault
  | .keeping => .ended
  | .skipping => .malformed

/-- A run of digits and the rest. -/
def spanDigits (cs : List Char) : List Char × List Char := (cs.takeWhile Char.isDigit, cs.dropWhile Char.isDigit)

/-- The number that decimal digits write. -/
def digitsValue (digits : List Char) : Nat :=
  digits.foldl (fun n c => n * 10 + (c.toNat - '0'.toNat)) 0

/-- At least one digit, or the fault that `whenCut` names at the end of the input. -/
def someDigits (whenCut : Fault) (cs : List Char) : Except Fault (List Char × List Char) :=
  match cs with
  | [] => .error whenCut
  | c :: _ => if c.isDigit then .ok (spanDigits cs) else .error .malformed

/-- The digits before the point: a single zero, or a run that does not start with one. -/
def wholePart (mode : Mode) (cs : List Char) : Except Fault (List Char × List Char) :=
  match cs with
  | '0' :: d :: _ => if d.isDigit then .error .malformed else .ok (['0'], cs.drop 1)
  | _ => someDigits mode.cutNumber cs

/-- The digits after a point, if there is one. -/
def fractionPart (mode : Mode) (cs : List Char) : Except Fault (Option (List Char) × List Char) :=
  match cs with
  | '.' :: rest =>
    match someDigits mode.cutNumber rest with
    | .ok (digits, tail) => .ok (some digits, tail)
    | .error fault => .error fault
  | _ => .ok (none, cs)

/-- The exponent, if there is one. -/
def exponentPart (mode : Mode) (cs : List Char) : Except Fault (Option Int × List Char) :=
  match cs with
  | e :: rest =>
    if e = 'e' || e = 'E' then
      let (negative, rest) := match rest with
        | '-' :: rest => (true, rest)
        | '+' :: rest => (false, rest)
        | rest => (false, rest)
      match someDigits mode.cutNumber rest with
      | .ok (digits, tail) =>
        let n : Int := digitsValue digits
        .ok (some (if negative then -n else n), tail)
      | .error fault => .error fault
    else .ok (none, cs)
  | [] => .ok (none, [])

/-- The least magnitude that a binary floating-point number of 64 bits rounds to infinity. -/
def binary64Overflow : Nat := (Nat.pow 2 54 - 1) * Nat.pow 2 970

/-- Is `significand * 10 ^ exponent` too large for a binary floating-point number of 64 bits? -/
def overflows (significand : Nat) (exponent : Int) : Bool :=
  if significand = 0 then false
  else if 308 < exponent then true
  else if 0 ≤ exponent then binary64Overflow ≤ significand * Nat.pow 10 exponent.toNat
  else
    let places := (-exponent).toNat
    if (toString significand).length < places + 300 then false
    else binary64Overflow * Nat.pow 10 places ≤ significand

/-- The value of an integer literal, if 64 bits hold it. Negative zero counts as a fraction. -/
def integerValue? (negative : Bool) (magnitude : Nat) : Option Int :=
  if negative then
    if magnitude = 0 || 0x8000000000000000 < magnitude then none else some (-(magnitude : Int))
  else if magnitude < 0x10000000000000000 then some magnitude else none

/-- A number, from its first digit on, after a minus sign if `negative`. -/
def readNumber (mode : Mode) (negative : Bool) (cs : List Char) : Except Fault (Json × List Char) := do
  let (whole, afterWhole) ← wholePart mode cs
  let (fraction, afterFraction) ← fractionPart mode afterWhole
  let (exponent, rest) ← exponentPart mode afterFraction
  let literal := (if negative then "-" else "") ++ String.ofList (cs.take (cs.length - rest.length))
  let digits := digitsValue (whole ++ fraction.getD [])
  let scale := exponent.getD 0 - ((fraction.getD []).length : Int)
  let integer? := if fraction.isNone && exponent.isNone then integerValue? negative digits else none
  match integer? with
  | some n => return (.integer n, rest)
  | none =>
    if mode = .keeping && overflows digits scale then throw .malformed
    return (.decimal literal, rest)

/-- The key of a member. -/
def readKeyText (mode : Mode) (cs : List Char) : Except Fault (String × List Char) :=
  match cs with
  | '"' :: rest => do
    let (key, rest) ← readText mode rest
    return (String.ofList key, rest)
  | [] => .error .ended
  | _ => .error .malformed

/-- The input behind the colon of a member. -/
def readColon (cs : List Char) : Except Fault (List Char) :=
  match skipBlanks cs with
  | ':' :: rest => .ok rest
  | [] => .error .ended
  | _ => .error .malformed

/-- The key of a member and the colon behind it. -/
def readKey (mode : Mode) (cs : List Char) : Except Fault (String × List Char) := do
  let (key, rest) ← readKeyText mode cs
  return (key, ← readColon rest)

mutual

/-- A value, with `depth` levels of containers still allowed. -/
def readValue (mode : Mode) (fuel depth : Nat) (cs : List Char) : Except Fault (Json × List Char) :=
  match fuel with
  | 0 => .error .malformed
  | fuel + 1 =>
    match skipBlanks cs with
    | [] => .error .ended
    | 'n' :: rest => readWord ['u', 'l', 'l'] .null rest
    | 't' :: rest => readWord ['r', 'u', 'e'] (.bool true) rest
    | 'f' :: rest => readWord ['a', 'l', 's', 'e'] (.bool false) rest
    | '"' :: rest => do
      let (text, rest) ← readText mode rest
      return (.string (String.ofList text), rest)
    | '[' :: rest =>
      if mode = .keeping && depth ≤ 1 then .error .malformed
      else do
        let (items, rest) ← readItems mode fuel (depth - 1) true rest
        return (.array items, rest)
    | '{' :: rest =>
      if mode = .keeping && depth ≤ 1 then .error .malformed
      else do
        let (members, rest) ← readMembers mode fuel (depth - 1) true rest
        return (.object members, rest)
    | '-' :: rest => readNumber mode true rest
    | c :: rest => if c.isDigit then readNumber mode false (c :: rest) else .error .malformed

/-- The items of an array up to its bracket; `first` tells that none has been read. -/
def readItems (mode : Mode) (fuel depth : Nat) (first : Bool) (cs : List Char) :
    Except Fault (List Json × List Char) :=
  match fuel with
  | 0 => .error .malformed
  | fuel + 1 =>
    match skipBlanks cs with
    | [] => .error .ended
    | ']' :: rest => .ok ([], rest)
    | c :: rest =>
      if first || c = ',' then do
        let (item, rest) ← readValue mode fuel depth (if first then c :: rest else rest)
        let (items, rest) ← readItems mode fuel depth false rest
        return (item :: items, rest)
      else .error .malformed

/-- The members of an object up to its brace; `first` tells that none has been read. -/
def readMembers (mode : Mode) (fuel depth : Nat) (first : Bool) (cs : List Char) :
    Except Fault (List (String × Json) × List Char) :=
  match fuel with
  | 0 => .error .malformed
  | fuel + 1 =>
    match skipBlanks cs with
    | [] => .error .ended
    | '}' :: rest => .ok ([], rest)
    | c :: rest =>
      if first || c = ',' then do
        let (key, rest) ← readKey mode (if first then c :: rest else skipBlanks rest)
        let (value, rest) ← readValue mode fuel depth rest
        let (members, rest) ← readMembers mode fuel depth false rest
        return ((key, value) :: members, rest)
      else .error .malformed

end

/-- Passes over one value. -/
def skipValue (cs : List Char) : Except Fault (List Char) :=
  (readValue .skipping (2 * cs.length + 2) depthLimit cs).map Prod.snd

/-- One value and nothing else, members as written. -/
def parseRaw (text : String) : Except Fault Json := do
  let cs := text.toList
  let (value, rest) ← readValue .keeping (2 * cs.length + 2) depthLimit cs
  if (skipBlanks rest).isEmpty then return value else throw .malformed

/-- One value and nothing else; of members with one key the last counts, at the first position. -/
def parse (text : String) : Except Fault Json := (parseRaw text).map collapse

end EditorBundles.Json
