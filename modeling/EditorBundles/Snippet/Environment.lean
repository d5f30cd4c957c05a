import EditorBundles.Entries

/-!
# Environments and commands

An environment gives texts to names and lists them in the order of the names. A command is run with an
input and an environment; what it prints is all that a snippet sees of it.
-/

namespace EditorBundles.Snippet
set_option autoImplicit false

/-- Texts by name, in increasing order of the names. -/
structure Environment where
  vars : List (List Char × List Char) := []
  deriving DecidableEq, Repr, Inhabited

namespace Environment

/-- The text of a name. -/
def get? (env : Environment) (name : List Char) : Option (List Char) := Entries.get? env.vars name

/-- Puts a text at the place of its name. -/
def setIn (name value : List Char) : List (List Char × List Char) → List (List Char × List Char)
  | [] => [(name, value)]
  | (n, v) :: rest =>
    if n = name then (name, value) :: rest
    else if name < n then (name, value) :: (n, v) :: rest
    else (n, v) :: setIn name value rest

/-- Gives a text to a name. -/
def set (env : Environment) (name value : List Char) : Environment := ⟨setIn name value env.vars⟩

/-- Takes a name away. -/
def erase (env : Environment) (name : List Char) : Environment := ⟨env.vars.filter fun v => v.1 ≠ name⟩

/-- Gives texts to names, one after the other. -/
def extend (env : Environment) (pairs : List (List Char × List Char)) : Environment :=
  pairs.foldl (fun env v => env.set v.1 v.2) env

/-- The environment of a list of names and texts. -/
def ofList (pairs : List (List Char × List Char)) : Environment := extend {} pairs

/-- A name has the text that was put at its place, and no other name changes. -/
theorem get?_setIn (name value other : List Char) (vars : List (List Char × List Char)) :
    Entries.get? (setIn name value vars) other = if other = name then some value else Entries.get? vars other := by
  induction vars with
  | nil => by_cases h : name = other <;> simp [setIn, Entries.get?, h, eq_comm]
  | cons v vars ih =>
    obtain ⟨n, w⟩ := v
    unfold setIn
    split
    · subst n
      by_cases h : name = other <;> simp [Entries.get?, h, eq_comm]
    · next different =>
      split
      · by_cases h : name = other <;> simp [Entries.get?, h, eq_comm]
      · by_cases h : n = other
        · have apart : other ≠ name := fun e => different (h.trans e)
          simp [Entries.get?, h, apart]
        · simp [Entries.get?, h, ih]

/-- A name has the text that it was given last, and no other name changes. -/
theorem get?_set (env : Environment) (name value other : List Char) :
    (env.set name value).get? other = if other = name then some value else env.get? other :=
  get?_setIn name value other env.vars

end Environment

/-- A command as it is run. -/
structure Call where
  command : List Char
  input : List Char
  env : Environment
  deriving DecidableEq, Repr

/-- What commands print; nothing for one that cannot be run or fails. -/
abbrev Runner := Call → Option (List Char)

/-- Runs no commands. -/
def Runner.disabled : Runner := fun _ => none

/-- What a command prints, without the line feed at its end. -/
def chomp (output : List Char) : List Char :=
  if output.getLast? = some '\n' then output.dropLast else output

end EditorBundles.Snippet
