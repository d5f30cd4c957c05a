import EditorBundles.Text.CaseMap

/-!
# Formats

A format says what a match is replaced by: `$n` is what group `n` took, `\n` a line feed and `\t` the
indent unit; `\u` and `\l` change the case of the next character, `\U` and `\L` of all up to `\E`; and
`(?n:then:else)` chooses by what group `n` took. A backslash before any other character makes it
literal.
-/

namespace EditorBundles.Snippet
set_option autoImplicit false

namespace Format

/-- The case that characters are changed to. -/
inductive Letters where
  | upper
  | lower
  deriving DecidableEq, Repr

/-- How characters are changed: the next one, and all others. -/
structure Folding where
  next : Option Letters := none
  others : Option Letters := none
  deriving DecidableEq, Repr

/-- A character in a case. -/
def Letters.apply : Option Letters → Char → List Char
  | some .upper, c => Text.upperChar c
  | some .lower, c => Text.lowerChar c
  | none, c => [c]

/-- Changes the characters of a text; what was to change the next one is then spent. -/
def Folding.fold (f : Folding) : List Char → List Char × Folding
  | [] => ([], f)
  | c :: cs =>
    let (rest, after) := ({ f with next := none } : Folding).fold cs
    (Letters.apply (f.next.or f.others) c ++ rest, after)

/-- Groups are numbered by 64-bit words. -/
def groupLimit : Nat := 0x10000000000000000

/-- The number of a group, if one stands at the start, and what stands behind it. -/
def groupNumber (cs : List Char) : Option (Nat × List Char) :=
  let digits := cs.takeWhile Char.isDigit
  let n := digits.foldl (fun n c => n * 10 + (c.toNat - '0'.toNat)) 0
  if digits ≠ [] ∧ n < groupLimit then some (n, cs.drop digits.length) else none

/-- The text up to the parenthesis that closes a conditional, or, if `colon` is set, up to a colon
outside parentheses; with it the character that ended it, and the text behind. -/
def branch (colon : Bool) (depth : Nat) : List Char → Option (List Char × Char × List Char)
  | [] => none
  | ['\\'] => none
  | '\\' :: c :: rest => (branch colon depth rest).map fun parts => ('\\' :: c :: parts.1, parts.2)
  | c :: rest =>
    if c = ')' ∧ depth = 0 then some ([], c, rest)
    else if c = ':' ∧ depth = 0 ∧ colon then some ([], c, rest)
    else
      let deeper := if c = '(' then depth + 1 else if c = ')' then depth - 1 else depth
      (branch colon deeper rest).map fun parts => (c :: parts.1, parts.2)

/-- A conditional behind its question mark: its group, what it says where the group took something and
where it did not, and the text behind. -/
def conditional (cs : List Char) : Option (Nat × List Char × List Char × List Char) := do
  let (n, rest) ← groupNumber cs
  match rest with
  | ':' :: rest =>
    let (first, close, rest) ← branch true 0 rest
    if close = ':' then
      let (second, _, rest) ← branch false 0 rest
      return (n, first, second, rest)
    else return (n, first, [], rest)
  | _ => none

/-- What a format says, with the folding as it stands then. -/
def expandFrom (group : Nat → Option (List Char)) (indentUnit : List Char) (fuel : Nat) (f : Folding)
    (format : List Char) : List Char × Folding :=
  match fuel with
  | 0 => ([], f)
  | fuel + 1 =>
    let onward (f : Folding) (rest : List Char) := expandFrom group indentUnit fuel f rest
    let verbatim (s : List Char) (rest : List Char) :=
      let (behind, f) := onward f rest
      (s ++ behind, f)
    let folded (s : List Char) (rest : List Char) :=
      let (here, f) := f.fold s
      let (behind, f) := onward f rest
      (here ++ behind, f)
    match format with
    | [] => ([], f)
    | '$' :: rest =>
      match groupNumber rest with
      | some (n, rest) => folded ((group n).getD []) rest
      | none => folded ['$'] rest
    | ['\\'] => folded ['\\'] []
    | '\\' :: c :: rest =>
      match c with
      | 'n' => verbatim ['\n'] rest
      | 't' => verbatim indentUnit rest
      | 'u' => onward { f with next := some .upper } rest
      | 'l' => onward { f with next := some .lower } rest
      | 'U' => onward { f with others := some .upper } rest
      | 'L' => onward { f with others := some .lower } rest
      | 'E' => onward { f with others := none } rest
      | c => folded [c] rest
    | '(' :: '?' :: rest =>
      match conditional rest with
      | some (n, first, second, behind) =>
        let (here, f) := onward f (if (group n).getD [] = [] then second else first)
        let (after, f) := onward f behind
        (here ++ after, f)
      | none => folded ['('] ('?' :: rest)
    | c :: rest => folded [c] rest

/-- What a format says of a match, given what its groups took. -/
def expand (format : List Char) (group : Nat → Option (List Char)) (indentUnit : List Char) : List Char :=
  (expandFrom group indentUnit (format.length + 1) {} format).1

end Format

end EditorBundles.Snippet
