import EditorBundles.Snippet.Template

/-!
# Reading templates

Every text is a template: a construct that does not hold together is text from its first character
on, and so is one that the template ends in.

`$1 ${1} ${1:placeholder} ${1|command} ${1:placeholder|command} ${1/regex/format/flags}` are tab stops,
`$NAME ${NAME} ${NAME:fallback} ${NAME/regex/format/flags}` variables, and a command stands between
backquotes. A backslash takes the meaning of a dollar, a backquote, a brace that closes, a bar or a
backslash away.
-/

namespace EditorBundles.Snippet.TemplateReader
set_option autoImplicit false

/-- Where parts stand, which tells what closes them. -/
inductive Context where
  | top
  | placeholder
  | fallback
  deriving DecidableEq, Repr

/-- What closed a list of parts. -/
inductive Close where
  | ending
  | brace
  | bar
  deriving DecidableEq, Repr

/-- The text up to a character that no backslash protects, and the text behind it. Backslashes stay. -/
def rawUntil (close : Char) : List Char → Option (List Char × List Char)
  | [] => none
  | ['\\'] => none
  | '\\' :: c :: rest => (rawUntil close rest).map fun parts => ('\\' :: c :: parts.1, parts.2)
  | c :: rest =>
    if c = close then some ([], rest)
    else (rawUntil close rest).map fun parts => (c :: parts.1, parts.2)

/-- Takes the backslashes before a character away. -/
def unprotect (c : Char) : List Char → List Char
  | '\\' :: d :: rest => if d = c then c :: unprotect c rest else '\\' :: unprotect c (d :: rest)
  | d :: rest => d :: unprotect c rest
  | [] => []

/-- Is a backslash before the character taken for its protection? -/
def isProtectable (c : Char) : Bool := ['$', '`', '\x7d', '|', '\\'].contains c

/-- Can the character start the name of a variable? -/
def isNameStart (c : Char) : Bool := c.isAlpha || c = '_'

/-- Can the character stand in the name of a variable? -/
def isNameChar (c : Char) : Bool := c.isAlphanum || c = '_'

/-- The number of decimal digits. -/
def digitsValue (digits : List Char) : Nat := digits.foldl (fun n c => n * 10 + (c.toNat - '0'.toNat)) 0

/-- The number of a tab stop and what stands behind it. -/
def stopNumber (cs : List Char) : Option (Nat × List Char) :=
  let digits := cs.takeWhile Char.isDigit
  let n := digitsValue digits
  if digits ≠ [] ∧ n < Node.numberLimit then some (n, cs.drop digits.length) else none

/-- The name of a variable and what stands behind it. -/
def variableName (cs : List Char) : List Char × List Char :=
  (cs.takeWhile isNameChar, cs.dropWhile isNameChar)

/-- The command behind a bar, up to the closing brace; an empty one is none. -/
def pipe (cs : List Char) : Option (Option (List Char) × List Char) :=
  (rawUntil '\x7d' cs).map fun parts =>
    (if parts.1 = [] then none else some (unprotect '\x7d' parts.1), parts.2)

/-- A substitution behind its first slash, up to the closing brace. -/
def transform (cs : List Char) : Option (Transform × List Char) := do
  let (regex, rest) ← rawUntil '/' cs
  let (format, rest) ← rawUntil '/' rest
  let (flags, rest) ← rawUntil '\x7d' rest
  if flags.all Char.isAlpha then return (⟨unprotect '/' regex, format, flags⟩, rest) else none

mutual

/-- Parts up to what closes them in their context, and the text behind it. -/
def nodes (fuel : Nat) (context : Context) (cs : List Char) : List Node × Close × List Char :=
  match fuel with
  | 0 => ([], .ending, [])
  | fuel + 1 =>
    let literal (c : Char) (rest : List Char) :=
      let (behind, close, rest) := nodes fuel context rest
      (Node.consChar c behind, close, rest)
    let node (n : Node) (rest : List Char) :=
      let (behind, close, rest) := nodes fuel context rest
      (n :: behind, close, rest)
    match cs with
    | [] => ([], .ending, [])
    | c :: rest =>
      if c = '\\' then
        match rest with
        | e :: behind => if isProtectable e then literal e behind else literal c rest
        | [] => literal c rest
      else if c = '$' then
        match hole fuel rest with
        | some (n, behind) => node n behind
        | none => literal c rest
      else if c = '`' then
        match rawUntil '`' rest with
        | some (command, behind) => node (.shell (unprotect '`' command)) behind
        | none => literal c rest
      else if c = '\x7d' ∧ context ≠ .top then ([], .brace, rest)
      else if c = '|' ∧ context = .placeholder then ([], .bar, rest)
      else literal c rest

/-- What a dollar opens, and the text behind it. -/
def hole (fuel : Nat) (cs : List Char) : Option (Node × List Char) :=
  match fuel with
  | 0 => none
  | fuel + 1 =>
    match cs with
    | [] => none
    | c :: rest =>
      if c = '\x7b' then
        match rest with
        | [] => none
        | d :: _ =>
          if d.isDigit then bracedStop fuel rest
          else if isNameStart d then bracedVariable fuel rest
          else none
      else if c.isDigit then (stopNumber cs).map fun parts => (.stop parts.1 [] none, parts.2)
      else if isNameStart c then
        let (name, behind) := variableName cs
        some (.var name, behind)
      else none

/-- A tab stop between braces, from its number on. -/
def bracedStop (fuel : Nat) (cs : List Char) : Option (Node × List Char) :=
  match fuel with
  | 0 => none
  | fuel + 1 =>
    match stopNumber cs with
    | some (n, '\x7d' :: rest) => some (.stop n [] none, rest)
    | some (n, ':' :: rest) =>
      match nodes fuel .placeholder rest with
      | (placeholder, .brace, rest) => some (.stop n placeholder none, rest)
      | (placeholder, .bar, rest) => (pipe rest).map fun parts => (.stop n placeholder parts.1, parts.2)
      | (_, .ending, _) => none
    | some (n, '|' :: rest) => (pipe rest).map fun parts => (.stop n [] parts.1, parts.2)
    | some (n, '/' :: rest) => (transform rest).map fun parts => (.stopTransform n parts.1, parts.2)
    | _ => none

/-- A variable between braces, from its name on. -/
def bracedVariable (fuel : Nat) (cs : List Char) : Option (Node × List Char) :=
  match fuel with
  | 0 => none
  | fuel + 1 =>
    match variableName cs with
    | (name, '\x7d' :: rest) => some (.var name, rest)
    | (name, ':' :: rest) =>
      match nodes fuel .fallback rest with
      | (fallback, .brace, rest) => some (.varOr name fallback, rest)
      | _ => none
    | (name, '/' :: rest) => (transform rest).map fun parts => (.varTransform name parts.1, parts.2)
    | _ => none

end

end TemplateReader

/-- The parts of a template. -/
def parseTemplate (template : List Char) : List Node :=
  (TemplateReader.nodes (3 * template.length + 3) .top template).1

end EditorBundles.Snippet
