import EditorBundles.Json.Reader

/-!
# Decoding JSON

A decoder reads a value of one type from the start of a text and gives the rest of it. The first thing
that is wrong counts: what is no JSON, what ends too early, or what is JSON of another shape. Members
that nothing asks for are passed over. A record can also be written as the array of its fields.
-/

namespace EditorBundles.Json
set_option autoImplicit false

/-- Reads a value of a type and gives it with the rest of the text. -/
abbrev Decoder (α : Type) := List Char → Except Fault (α × List Char)

namespace Decoder

variable {α β : Type}

/-- The fault of a value of another kind than the wanted one. Containers are not looked into. -/
def otherKind : Decoder α := fun cs =>
  match skipBlanks cs with
  | '[' :: _ => .error .unfit
  | '\x7b' :: _ => .error .unfit
  | _ =>
    match readValue .keeping 1 depthLimit cs with
    | .ok _ => .error .unfit
    | .error fault => .error fault

/-- A text. -/
def string : Decoder String := fun cs =>
  match skipBlanks cs with
  | '"' :: rest => do
    let (text, rest) ← readText .keeping rest
    return (String.ofList text, rest)
  | _ => otherKind cs

/-- A truth value. -/
def bool : Decoder Bool := fun cs =>
  match skipBlanks cs with
  | 't' :: rest => (readWord ['r', 'u', 'e'] .null rest).map fun parts => (true, parts.2)
  | 'f' :: rest => (readWord ['a', 'l', 's', 'e'] .null rest).map fun parts => (false, parts.2)
  | _ => otherKind cs

/-- A whole number that fits. -/
def integer (fit : Int → Option α) : Decoder α := fun cs =>
  match skipBlanks cs with
  | c :: rest =>
    if c = '-' ∨ c.isDigit then
      match readNumber .keeping (c = '-') (if c = '-' then rest else c :: rest) with
      | .error fault => .error fault
      | .ok (.integer n, rest) =>
        match fit n with
        | some value => .ok (value, rest)
        | none => .error .unfit
      | .ok _ => .error .unfit
    else otherKind cs
  | [] => otherKind cs

/-- A number below a limit. -/
def natural (limit : Nat) : Decoder Nat := integer fun n => if 0 ≤ n ∧ n < limit then some n.toNat else none

/-- A signed number of 64 bits. -/
def int64 : Decoder Int := integer fun n => if -0x8000000000000000 ≤ n ∧ n < 0x8000000000000000 then some n else none

/-- A value, or nothing for null. -/
def optional (d : Decoder α) : Decoder (Option α) := fun cs =>
  match skipBlanks cs with
  | 'n' :: rest => (readWord ['u', 'l', 'l'] .null rest).map fun parts => (none, parts.2)
  | _ => (d cs).map fun parts => (some parts.1, parts.2)

/-- A decoded value changed by a function. -/
def map (f : α → β) (d : Decoder α) : Decoder β := fun cs => (d cs).map fun parts => (f parts.1, parts.2)

/-- A decoded value that must have a meaning. -/
def mapFit (f : α → Option β) (d : Decoder α) : Decoder β := fun cs =>
  match d cs with
  | .error fault => .error fault
  | .ok (value, rest) =>
    match f value with
    | some meaning => .ok (meaning, rest)
    | none => .error .unfit

/-- The input at the next item of an array, or nothing at its bracket; `first` tells that no item has
been read. -/
def nextItem (first : Bool) (cs : List Char) : Except Fault (Option (List Char)) :=
  match skipBlanks cs with
  | [] => .error .ended
  | ']' :: _ => .ok none
  | c :: rest =>
    if first then .ok (some (c :: rest))
    else if c = ',' then
      match skipBlanks rest with
      | [] => .error .ended
      | ']' :: _ => .error .malformed
      | rest => .ok (some rest)
    else .error .malformed

/-- The input behind the bracket that must come next. -/
def closing (cs : List Char) : Except Fault (List Char) :=
  match skipBlanks cs with
  | ']' :: rest => .ok rest
  | [] => .error .ended
  | _ => .error .malformed

/-- The items of an array up to its bracket. -/
def items (d : Decoder α) (fuel : Nat) (first : Bool) : Decoder (List α) := fun cs =>
  match fuel with
  | 0 => .error .malformed
  | fuel + 1 => do
    match ← nextItem first cs with
    | none => return ([], ← closing cs)
    | some rest =>
      let (item, rest) ← d rest
      let (behind, rest) ← items d fuel false rest
      return (item :: behind, rest)

/-- An array. -/
def list (d : Decoder α) : Decoder (List α) := fun cs =>
  match skipBlanks cs with
  | '[' :: rest => items d (rest.length + 1) true rest
  | _ => otherKind cs

/-- The key of the next member of an object, or nothing behind its brace. -/
def nextKey (first : Bool) (cs : List Char) : Except Fault (Option String × List Char) :=
  match skipBlanks cs with
  | [] => .error .ended
  | '\x7d' :: rest => .ok (none, rest)
  | c :: rest =>
    if first || c = ',' then
      (readKeyText .keeping (if first then c :: rest else skipBlanks rest)).map fun parts => (some parts.1, parts.2)
    else .error .malformed

/-- The members of an object up to its brace. -/
def members (d : Decoder α) (fuel : Nat) (first : Bool) : Decoder (List (String × α)) := fun cs =>
  match fuel with
  | 0 => .error .malformed
  | fuel + 1 => do
    match ← nextKey first cs with
    | (none, rest) => return ([], rest)
    | (some key, rest) =>
      let (value, rest) ← d (← readColon rest)
      let (behind, rest) ← members d fuel false rest
      return ((key, value) :: behind, rest)

/-- An object with values of one type. Of members with one key the last counts, at the first position. -/
def entries (d : Decoder α) : Decoder (List (String × α)) := fun cs =>
  match skipBlanks cs with
  | '\x7b' :: rest =>
    (members d (rest.length + 1) true rest).map fun parts =>
      (parts.1.foldl (fun seen m => Entries.put seen m.1 m.2) [], parts.2)
  | _ => otherKind cs

/-- One of several cases: an object with a single member, whose key names the case. -/
def oneOf (cases : String → Option (Decoder α)) : Decoder α := fun cs =>
  match skipBlanks cs with
  | [] => .error .ended
  | '\x7b' :: rest => do
    let (key, rest) ← readKeyText .keeping (skipBlanks rest)
    match cases key with
    | none => throw .unfit
    | some d =>
      let (value, rest) ← d (← readColon rest)
      match skipBlanks rest with
      | '\x7d' :: rest => return (value, rest)
      | [] => throw .ended
      | _ => throw .malformed
  | '"' :: rest => do
    let _ ← readText .keeping rest
    throw .unfit
  | _ => .error .malformed

end Decoder

/-- A field of a record: its key, how it is read into the record, and what the record is without it, if it
may be missing from an object, and if an array may end before it. -/
structure Field (σ : Type) where
  key : String
  decode : σ → Decoder σ
  missing : σ → Option σ := fun _ => none
  cutOff : σ → Option σ := missing

namespace Decoder

variable {σ : Type}

/-- The fields of a record in order, up to the bracket of their array. -/
def fieldItems (first : Bool) : List (Field σ) → σ → Decoder σ
  | [], s => fun cs => (closing cs).map fun rest => (s, rest)
  | field :: fields, s => fun cs => do
    match ← nextItem first cs with
    | none =>
      match field.cutOff s with
      | some s => fieldItems first fields s cs
      | none => throw .unfit
    | some rest =>
      let (s, rest) ← field.decode s rest
      fieldItems false fields s rest

/-- The record with the fields that were not there. -/
def complete (seen : List String) : List (Field σ) → σ → Option σ
  | [], s => some s
  | field :: fields, s =>
    if field.key ∈ seen then complete seen fields s else (field.missing s).bind (complete seen fields)

/-- The members of a record in any order, up to the brace. No field may come twice. -/
def fieldMembers (fields : List (Field σ)) (fuel : Nat) (first : Bool) (seen : List String) (s : σ) :
    Decoder σ := fun cs =>
  match fuel with
  | 0 => .error .malformed
  | fuel + 1 => do
    match ← nextKey first cs with
    | (none, rest) =>
      match complete seen fields s with
      | some s => return (s, rest)
      | none => throw .unfit
    | (some key, rest) =>
      match fields.find? (·.key = key) with
      | none => fieldMembers fields fuel false seen s (← skipValue (← readColon rest))
      | some field =>
        if key ∈ seen then throw .unfit
        else
          let (s, rest) ← field.decode s (← readColon rest)
          fieldMembers fields fuel false (key :: seen) s rest

/-- A record, read into `start`. -/
def record (fields : List (Field σ)) (start : σ) : Decoder σ := fun cs =>
  match skipBlanks cs with
  | '[' :: rest => fieldItems true fields start rest
  | '\x7b' :: rest => fieldMembers fields (rest.length + 1) true [] start rest
  | _ => otherKind cs

/-- A field that is stored by a function. -/
def field {α : Type} (key : String) (d : Decoder α) (store : σ → α → σ) : Field σ where
  key
  decode s := d.map (store s)

/-- A field that keeps its value where it is missing. -/
def optionalField {α : Type} (key : String) (d : Decoder α) (store : σ → α → σ) : Field σ where
  key
  decode s := d.map (store s)
  missing := some

/-- A field that can be null, and is where it is missing from an object. -/
def nullableField {α : Type} (key : String) (d : Decoder α) (store : σ → Option α → σ) : Field σ where
  key
  decode s := (optional d).map (store s)
  missing s := some (store s none)
  cutOff _ := none

/-- One value and nothing else. -/
def run {α : Type} (d : Decoder α) (text : String) : Except Fault α := do
  let (value, rest) ← d text.toList
  if (skipBlanks rest).isEmpty then return value else throw .malformed

end Decoder

end EditorBundles.Json
