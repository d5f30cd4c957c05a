import EditorBundles.Regex.Basic
import EditorBundles.Regex.Property
import EditorBundles.Text.CaseMap

/-!
# Reading patterns

A pattern is read in one pass that carries the flags along and spends them: what it gives is free of
flags, names and case. Whatever is no pattern, look-around and back-references included, gives
nothing.
-/

namespace EditorBundles.Regex
set_option autoImplicit false
open Text (CharSet)

/-- The flags in force. -/
structure Flags where
  ignoreCase : Bool := false
  multiLine : Bool := false
  dotAll : Bool := false
  swapGreed : Bool := false
  unicode : Bool := true
  crlf : Bool := false
  extended : Bool := false
  deriving DecidableEq, Repr

/-- Where a reader stands: the rest of the pattern, the groups and names so far, and the flags. -/
structure Scan where
  rest : List Char
  groups : Nat := 0
  names : List (List Char) := []
  flags : Flags := {}

/-- A step of a reader, which fails on what is no pattern. -/
abbrev Reader := StateT Scan Option

namespace Reader

/-- The next character, if there is one. -/
def peek? : Reader (Option Char) := do return (← get).rest.head?

/-- The next character. -/
def peek : Reader Char := do
  match (← get).rest with
  | c :: _ => return c
  | [] => failure

/-- Passes over the next character. -/
def advance : Reader Unit := modify fun s => { s with rest := s.rest.drop 1 }

/-- The text behind leading blanks and comments. -/
def withoutSpace (cs : List Char) : List Char :=
  match cs with
  | [] => []
  | c :: rest =>
    if Text.isBlank c then withoutSpace rest
    else if c = '#' then withoutSpace (rest.dropWhile (· ≠ '\n'))
    else c :: rest
  termination_by cs.length
  decreasing_by
    · simp
    · have := (List.dropWhile_sublist (l := rest) (· ≠ '\n')).length_le
      simp only [List.length_cons]
      omega

/-- Passes over blanks and comments where the flags allow them. -/
def skipSpace : Reader Unit :=
  modify fun s => if s.flags.extended then { s with rest := withoutSpace s.rest } else s

/-- Passes over the next character and what may stand between. -/
def next : Reader Unit := do
  advance
  skipSpace

/-- The character after the next one, blanks and comments left out where the flags allow them. -/
def peekSecond? : Reader (Option Char) := do
  let s ← get
  let rest := s.rest.drop 1
  return (if s.flags.extended then withoutSpace rest else rest).head?

/-- Fails unless the condition holds. -/
def demand (condition : Bool) : Reader Unit := if condition then pure () else failure

/-- Passes over a word, if it comes next. -/
def accept (word : List Char) : Reader Bool := do
  let s ← get
  if word.isPrefixOf s.rest then
    set { s with rest := s.rest.drop word.length }
    return true
  else return false

/-- Passes over the characters that satisfy a condition, each with the space behind it. -/
def collect (fuel : Nat) (keep : Char → Bool) : Reader (List Char) :=
  match fuel with
  | 0 => return []
  | fuel + 1 => do
    match ← peek? with
    | some c =>
      if keep c then
        next
        return c :: (← collect fuel keep)
      else return []
    | none => return []

/-- As many characters as are left. -/
def left : Reader Nat := do return (← get).rest.length

end Reader

open Reader

/-- A literal character, or something else that can stand where a character can. `octet` marks a
character that was given by two hexadecimal digits. -/
inductive Primitive where
  | literal (c : Char) (octet : Bool)
  | look (condition : Look)
  | set (s : CharSet)
  | dot

/-- Is `c` a character with a meaning of its own in patterns? -/
def isMeta (c : Char) : Bool :=
  ['\\', '.', '+', '*', '?', '(', ')', '|', '[', ']', '{', '}', '^', '$', '#', '&', '-', '~'].contains c

/-- Does a backslash before `c` leave its meaning alone? -/
def isEscapable (c : Char) : Bool :=
  isMeta c || (c.toNat < 0x80 && !c.isAlphanum && c ≠ '<' && c ≠ '>')

/-- Is `c` a hexadecimal digit? -/
def isHex (c : Char) : Bool := c.isDigit || ('a' ≤ c && c ≤ 'f') || ('A' ≤ c && c ≤ 'F')

/-- The number that hexadecimal digits write. -/
def hexValue (digits : List Char) : Nat :=
  digits.foldl (fun n c =>
    n * 16 + (if c.isDigit then c.toNat - '0'.toNat else c.toLower.toNat - 'a'.toNat + 10)) 0

/-- The character with a number, if there is one. -/
def charOf (n : Nat) : Reader Char := if n.isValidChar then return Char.ofNat n else failure

/-- A given number of hexadecimal digits. -/
def fixedHex : Nat → Reader (List Char)
  | 0 => return []
  | n + 1 => do
    let c ← peek
    demand (isHex c)
    next
    return c :: (← fixedHex n)

/-- A character by its number, behind the letter of the escape. -/
def hexEscape (digits : Nat) : Reader Primitive := do
  next
  if (← peek) = '{' then
    next
    let written ← collect (← left) isHex
    demand ((← peek) = '}')
    next
    demand (!written.isEmpty)
    return .literal (← charOf (hexValue written)) false
  else
    let written ← fixedHex digits
    return .literal (← charOf (hexValue written)) (digits = 2)

/-- A set under the flags: closed under case, then complemented. Only ASCII characters can be told
apart from octets, so without the Unicode flag nothing else may be left. -/
def finishSet (negated : Bool) (s : CharSet) : Reader CharSet := do
  let flags := (← get).flags
  let ascii := CharSet.ofRanges [(0, 0x7F)]
  let closed := if flags.ignoreCase then s.closeUnderCase else s
  if flags.unicode then return if negated then closed.complement else closed
  else
    demand !negated
    return closed.inter ascii

/-- The position of a text in another, if it is there. -/
def splitAtWord? (word cs : List Char) : Option (List Char × List Char) :=
  match cs with
  | [] => none
  | c :: rest =>
    if word.isPrefixOf (c :: rest) then some ([], (c :: rest).drop word.length)
    else (splitAtWord? word rest).map fun (before, after) => (c :: before, after)

/-- The set that the text between the braces of a property names. -/
def propertyOf (name : List Char) : Option (CharSet × Bool) :=
  let valued (parts : List Char × List Char) := Property.valued? (String.ofList parts.1) (String.ofList parts.2)
  match splitAtWord? ['!', '='] name with
  | some parts => (valued parts).map fun s => (s, true)
  | none =>
    match splitAtWord? [':'] name with
    | some parts => (valued parts).map fun s => (s, false)
    | none =>
      match splitAtWord? ['='] name with
      | some parts => (valued parts).map fun s => (s, false)
      | none => (Property.named? (String.ofList name)).map fun s => (s, false)

/-- A property class behind its letter. -/
def propertyEscape (negated : Bool) : Reader Primitive := do
  next
  let c ← peek
  let name ←
    if c = '{' then
      next
      let name ← collect (← left) (· ≠ '}')
      demand ((← peek) = '}')
      advance
      pure name
    else
      demand (c ≠ '\\')
      next
      pure [c]
  demand (← get).flags.unicode
  match propertyOf name with
  | some (s, unequal) => return .set (← finishSet (negated != unequal) s)
  | none => failure

/-- One of the three short classes, or what is not in it. -/
def shortClass (negated : Bool) (unicode ascii : CharSet) : Reader Primitive := do
  advance
  if (← get).flags.unicode then return .set (if negated then unicode.complement else unicode)
  else
    demand !negated
    return .set ascii

/-- The side of a word that stands in braces behind `\b`, if something like one stands there. -/
def wordSide : Reader WordSide := do
  let s ← get
  match s.rest with
  | '{' :: _ =>
    next
    let isLetter := fun (c : Char) => c.isAlpha || c = '-'
    if isLetter (← peek) then
      let name ← collect (← left) isLetter
      demand ((← peek) = '}')
      advance
      if name = ['s', 't', 'a', 'r', 't'] then return .start
      else if name = ['e', 'n', 'd'] then return .stop
      else if name = ['s', 't', 'a', 'r', 't', '-', 'h', 'a', 'l', 'f'] then return .startHalf
      else if name = ['e', 'n', 'd', '-', 'h', 'a', 'l', 'f'] then return .stopHalf
      else failure
    else
      set s
      return .edge
  | _ => return .edge

/-- A condition on words. -/
def wordLook (side : WordSide) : Reader Primitive := do
  return .look (.word side (!(← get).flags.unicode))

/-- What an escape stands for, from its backslash on. -/
def escape : Reader Primitive := do
  advance
  let c ← peek
  match c with
  | 'x' => hexEscape 2
  | 'u' => hexEscape 4
  | 'U' => hexEscape 8
  | 'p' => propertyEscape false
  | 'P' => propertyEscape true
  | 'd' => shortClass false Property.digit (Property.ofPairs [('0', '9')])
  | 'D' => shortClass true Property.digit .empty
  | 's' => shortClass false Property.blank (.ofRanges [(9, 13), (0x20, 0x20)])
  | 'S' => shortClass true Property.blank .empty
  | 'w' => shortClass false Property.word ((Property.ascii? "word").getD .empty)
  | 'W' => shortClass true Property.word .empty
  | _ =>
    advance
    if isEscapable c then return .literal c false
    else match c with
      | 'a' => return .literal '\x07' false
      | 'f' => return .literal '\x0c' false
      | 't' => return .literal '\t' false
      | 'n' => return .literal '\n' false
      | 'r' => return .literal '\r' false
      | 'v' => return .literal '\x0b' false
      | 'A' => return .look .textStart
      | 'z' => return .look .textStop
      | 'b' => wordLook (← wordSide)
      | 'B' => wordLook .inside
      | '<' => wordLook .start
      | '>' => wordLook .stop
      | _ => failure

/-! ## Sets in brackets -/

/-- How the set before an operator is joined with the set behind it. -/
inductive SetOp where
  | both
  | without
  | either

/-- Joins two sets. -/
def SetOp.join : SetOp → CharSet → CharSet → CharSet
  | .both, s, t => s.inter t
  | .without, s, t => s.diff t
  | .either, s, t => s.symmDiff t

/-- A literal in brackets. Without the Unicode flag it must be an ASCII character. -/
def bracketChar (p : Primitive) : Reader Char := do
  match p with
  | .literal c _ =>
    demand ((← get).flags.unicode || c.toNat < 0x80)
    return c
  | _ => failure

/-- An item in brackets as a set. -/
def bracketItem (p : Primitive) : Reader CharSet :=
  match p with
  | .set s => return s
  | .literal .. => do return .singleton (← bracketChar p)
  | _ => failure

/-- A character or an escape in brackets. -/
def bracketPrimitive : Reader Primitive := do
  let c ← peek
  if c = '\\' then escape
  else
    advance
    return .literal c false

/-- A character, a class or a range in brackets. -/
def bracketRange : Reader CharSet := do
  let first ← bracketPrimitive
  skipSpace
  let c ← peek
  let second ← peekSecond?
  if c ≠ '-' || second = some ']' || second = some '-' then bracketItem first
  else
    next
    let last ← bracketPrimitive
    let low ← bracketChar first
    let high ← bracketChar last
    demand (low.toNat ≤ high.toNat)
    return .ofRanges [(low.toNat, high.toNat)]

/-- An ASCII class between colons. Gives nothing, and passes over nothing, where there is none. -/
def asciiClass? : Reader (Option CharSet) := do
  let s ← get
  match s.rest with
  | '[' :: ':' :: rest =>
    let (negated, rest) := match rest with
      | '^' :: rest => (true, rest)
      | rest => (false, rest)
    let name := rest.takeWhile (· ≠ ':')
    match rest.drop name.length with
    | ':' :: ']' :: after =>
      match Property.ascii? (String.ofList name) with
      | some found =>
        set { s with rest := after }
        return some (← finishSet negated found)
      | none => return none
    | _ => return none
  | _ => return none

/-- Hyphens at the start of a bracket are literal. -/
def leadingHyphens (fuel : Nat) (s : CharSet) : Reader CharSet :=
  match fuel with
  | 0 => return s
  | fuel + 1 => do
    if (← peek) = '-' then
      next
      leadingHyphens fuel (s.union (.singleton '-'))
    else return s

/-- The opening of a bracket: whether it is negated, and the literals that only its start can hold. -/
def bracketOpening : Reader (Bool × CharSet) := do
  next
  let negated := (← peek) = '^'
  if negated then next
  let hyphens ← leadingHyphens (← left) .empty
  if hyphens.isEmpty && (← peek) = ']' then
    next
    let _ ← peek
    return (negated, .singleton ']')
  else return (negated, hyphens)

/-- Joins what stands before the last operator with what stands behind it. -/
def joinPending (pending : Option (CharSet × SetOp)) (s : CharSet) : Reader CharSet := do
  match pending with
  | none => return s
  | some (before, op) =>
    if (← get).flags.ignoreCase then return op.join before.closeUnderCase s.closeUnderCase
    else return op.join before s

/-- A set in brackets behind its opening: `pending` is what stands before the last operator, and `s`
what has been read since. -/
def bracketBody (fuel : Nat) (negated : Bool) (pending : Option (CharSet × SetOp)) (s : CharSet) :
    Reader CharSet :=
  match fuel with
  | 0 => failure
  | fuel + 1 => do
    skipSpace
    let c ← peek
    let operator (op : SetOp) : Reader CharSet := do
      advance
      advance
      bracketBody fuel negated (some (← joinPending pending s, op)) .empty
    let doubled := (← get).rest.drop 1 |>.head? |>.any (· = c)
    if c = '[' then
      match ← asciiClass? with
      | some found => bracketBody fuel negated pending (s.union found)
      | none =>
        let (innerNegated, opening) ← bracketOpening
        let inner ← bracketBody fuel innerNegated none opening
        bracketBody fuel negated pending (s.union inner)
    else if c = ']' then
      advance
      finishSet negated (← joinPending pending s)
    else if c = '&' && doubled then operator .both
    else if c = '-' && doubled then operator .without
    else if c = '~' && doubled then operator .either
    else
      let item ← bracketRange
      bracketBody fuel negated pending (s.union item)

/-- A set in brackets from its bracket on. -/
def bracket : Reader CharSet := do
  let (negated, opening) ← bracketOpening
  bracketBody ((← left) + 1) negated none opening

/-! ## Expressions -/

/-- A literal under the flags. -/
def literal (c : Char) (octet : Bool) : Reader Regex := do
  let flags := (← get).flags
  demand (flags.unicode || !octet || c.toNat < 0x80)
  let s := CharSet.singleton c
  if flags.ignoreCase && (flags.unicode || c.toNat < 0x80) then
    let closed := s.closeUnderCase
    return .oneOf (if flags.unicode then closed else closed.inter (.ofRanges [(0, 0x7F)]))
  else return .oneOf s

/-- What a dot stands for under the flags. -/
def dot : Reader Regex := do
  let flags := (← get).flags
  demand flags.unicode
  if flags.dotAll then return .oneOf .all
  else if flags.crlf then return .oneOf (CharSet.ofRanges [(10, 10), (13, 13)]).complement
  else return .oneOf (CharSet.singleton '\n').complement

/-- A character, an escape, a dot or an anchor. -/
def primitive : Reader Regex := do
  let c ← peek
  let flags := (← get).flags
  match c with
  | '\\' =>
    match ← escape with
    | .literal c octet => literal c octet
    | .look condition => return .look condition
    | .set s => return .oneOf s
    | .dot => dot
  | '.' =>
    advance
    dot
  | '^' =>
    advance
    return .look (if flags.multiLine then .lineStart flags.crlf else .textStart)
  | '$' =>
    advance
    return .look (if flags.multiLine then .lineStop flags.crlf else .textStop)
  | c =>
    advance
    literal c false

/-- A decimal number with blanks around it, if it fits 32 bits. -/
def decimal? : Reader (Option Nat) := do
  modify fun s => { s with rest := s.rest.dropWhile Text.isBlank }
  let digits ← collect (← left) Char.isDigit
  modify fun s => { s with rest := s.rest.dropWhile Text.isBlank }
  if digits.isEmpty then return none
  else
    let n := digits.foldl (fun n c => n * 10 + (c.toNat - '0'.toNat)) 0
    demand (n < 0x100000000)
    return some n

/-- A loop, reduced where its body takes nothing or its bounds say little. -/
def makeLoop (body : Regex) (min : Nat) (max : Option Nat) (greedy : Bool) : Regex :=
  let (min, max) := if takesNothing body then (Nat.min min 1, some ((max.getD 1).min 1)) else (min, max)
  if max = some 0 then .empty
  else if min = 1 ∧ max = some 1 then body
  else .loop body min max greedy

/-- A question mark behind a repetition turns its greed around, as the flag does. -/
def greed (body : Regex) (min : Nat) (max : Option Nat) : Reader Regex := do
  let swap := (← get).flags.swapGreed
  if (← peek?) = some '?' then
    advance
    return makeLoop body min max swap
  else return makeLoop body min max !swap

/-- The bounds in braces behind an expression. -/
def bounds : Reader (Nat × Option Nat) := do
  next
  let _ ← peek
  let low ← decimal?
  let (min, max) ←
    if (← peek) = ',' then
      next
      if (← peek) ≠ '}' then
        match low, ← decimal? with
        | some low, some high => pure (low, some high)
        | _, _ => failure
      else
        match low with
        | some low => pure (low, none)
        | none => failure
    else
      match low with
      | some low => pure (low, some low)
      | none => failure
  demand ((← peek) = '}')
  next
  demand (max.all (min ≤ ·))
  return (min, max)

/-- Can `c` stand in the name of a group? -/
def isNameChar (first : Bool) (c : Char) : Bool :=
  c = '_' || Property.letter.contains c
    || (!first && (c = '.' || c = '[' || c = ']' || Property.alphanumeric.contains c))

/-- The name of a group up to its bracket, which no other group may have. -/
def groupName : Reader Unit := do
  let s ← get
  let name := s.rest.takeWhile (· ≠ '>')
  demand (!name.isEmpty && (name.zipIdx.all fun (c, i) => isNameChar (i = 0) c) && !s.names.contains name)
  let rest := s.rest.drop name.length
  demand (!rest.isEmpty)
  set { s with rest := rest.drop 1, names := name :: s.names }

/-- Sets or clears one flag. -/
def Flags.with (flags : Flags) (letter : Char) (on : Bool) : Option Flags :=
  match letter with
  | 'i' => some { flags with ignoreCase := on }
  | 'm' => some { flags with multiLine := on }
  | 's' => some { flags with dotAll := on }
  | 'U' => some { flags with swapGreed := on }
  | 'u' => some { flags with unicode := on }
  | 'R' => some { flags with crlf := on }
  | 'x' => some { flags with extended := on }
  | _ => none

/-- Reads flag letters, up to one hyphen behind which flags are cleared; `seen` are the letters so
far. Gives the flags, and whether any letter was there. -/
def flagLetters (fuel : Nat) (flags : Flags) (on : Bool) (seen : List Char) : Reader (Flags × Bool) :=
  match fuel with
  | 0 => failure
  | fuel + 1 => do
    let c ← peek
    if c = ':' || c = ')' then
      demand (seen.head? ≠ some '-')
      return (flags, !seen.isEmpty)
    else
      demand !seen.contains c
      advance
      if c = '-' then flagLetters fuel flags false (c :: seen)
      else match flags.with c on with
        | some flags => flagLetters fuel flags on (c :: seen)
        | none => failure

/-- What a parenthesis opens. -/
inductive Opening where
  | flags
  | plain
  | group (index : Nat)

/-- The opening of a group, whose flags are then in force. -/
def groupOpening : Reader Opening := do
  next
  let s ← get
  let ahead (word : List Char) := word.isPrefixOf s.rest
  demand (!ahead ['?', '='] && !ahead ['?', '!'] && !ahead ['?', '<', '='] && !ahead ['?', '<', '!'])
  let capture (naming : Reader Unit) : Reader Opening := do
    modify fun s => { s with groups := s.groups + 1 }
    let index := (← get).groups
    naming
    return .group index
  if ← accept ['?', 'P', '<'] then capture groupName
  else if ← accept ['?', '<'] then capture groupName
  else if ← accept ['?'] then
    let (flags, any) ← flagLetters ((← left) + 1) s.flags true []
    let c ← peek
    advance
    modify fun s => { s with flags }
    if c = ')' then
      demand any
      return .flags
    else return .plain
  else capture (pure ())

/-- A sequence of expressions. -/
def sequenceOf (items : List (Option Regex)) : Regex :=
  match items.filterMap id with
  | [] => .empty
  | [r] => r
  | rs => .sequence rs

mutual

/-- Alternatives up to a closing parenthesis or the end. -/
def alternatives (fuel : Nat) : Reader Regex :=
  match fuel with
  | 0 => failure
  | fuel + 1 => do
    let first ← items fuel []
    let rest ← moreAlternatives fuel
    return if rest.isEmpty then first else .choice (first :: rest)

/-- The alternatives behind the first. -/
def moreAlternatives (fuel : Nat) : Reader (List Regex) :=
  match fuel with
  | 0 => failure
  | fuel + 1 => do
    if (← peek?) = some '|' then
      advance
      let r ← items fuel []
      return r :: (← moreAlternatives fuel)
    else return []

/-- A sequence up to a bar, a closing parenthesis or the end; `before` is what has been read, the last
item first, and nothing stands for flags. -/
def items (fuel : Nat) (before : List (Option Regex)) : Reader Regex :=
  match fuel with
  | 0 => failure
  | fuel + 1 => do
    skipSpace
    match ← peek? with
    | none => return sequenceOf before.reverse
    | some c =>
      let repeated (min : Nat) (max : Option Nat) : Reader Regex := do
        advance
        match before with
        | some body :: before => items fuel (some (← greed body min max) :: before)
        | _ => failure
      if c = '|' || c = ')' then return sequenceOf before.reverse
      else if c = '(' then
        let outer := (← get).flags
        match ← groupOpening with
        | .flags => items fuel (none :: before)
        | .plain => do
          let body ← alternatives fuel
          demand ((← peek) = ')')
          advance
          modify fun s => { s with flags := outer }
          items fuel (some body :: before)
        | .group index => do
          let body ← alternatives fuel
          demand ((← peek) = ')')
          advance
          modify fun s => { s with flags := outer }
          items fuel (some (.group index body) :: before)
      else if c = '[' then
        let s ← bracket
        items fuel (some (.oneOf s) :: before)
      else if c = '?' then repeated 0 (some 1)
      else if c = '*' then repeated 0 none
      else if c = '+' then repeated 1 none
      else if c = '{' then
        match before with
        | some body :: before =>
          let (min, max) ← bounds
          items fuel (some (← greed body min max) :: before)
        | _ => failure
      else
        let r ← primitive
        items fuel (some r :: before)

end

/-- Expressions nested deeper than this are refused. -/
def depthLimit : Nat := 250

/-- The expression that a pattern writes under flags that hold from its start. -/
def parse? (pattern : String) (flags : Flags) : Option Regex :=
  let cs := pattern.toList
  match (alternatives (2 * cs.length + 4)).run { rest := cs, flags } with
  | some (r, s) => if s.rest.isEmpty && r.depth ≤ depthLimit then some r else none
  | none => none

end EditorBundles.Regex
