import EditorBundles.Proofs.PropertyList.Printed
import EditorBundles.Snippet.TemplateReader

/-!
# Printing and reading templates

Parts in normal form are printed to a template that is read back as the parts that they are. A text is printed with
a backslash before each character that one can protect, and what is taken as it stands, such as a command, with a
backslash before each character that would close it.

`Reads` says what the reader makes of a text that has fuel enough. Each kind of part has a lemma that puts it before
parts that are read already, whatever comes behind; so the parts of a placeholder, with the brace that closes them,
are read as those of a whole template are.
-/

namespace EditorBundles.Snippet
set_option autoImplicit false

/-! ## Printing -/

/-- Puts a backslash before each character that one can protect. -/
def escape (s : List Char) : List Char :=
  s.flatMap fun c => if TemplateReader.isProtectable c then ['\\', c] else [c]

/-- Puts a backslash before each place where a character stands. -/
def protect (close : Char) (s : List Char) : List Char :=
  s.flatMap fun c => if c = close then ['\\', c] else [c]

/-- Prints a substitution behind its first slash. -/
def Transform.print (t : Transform) : List Char :=
  protect '/' t.regex ++ '/' :: t.format ++ '/' :: t.flags ++ ['\x7d']

namespace Node

/-- What is printed behind the number of a tab stop: its placeholder, unless there is nothing to be said, and its command. -/
def printBehind (bare : Bool) (placeholder : List Char) : Option (List Char) → List Char
  | none => if bare then [] else ':' :: placeholder
  | some command => ':' :: placeholder ++ '|' :: protect '\x7d' command

mutual

/-- The canonical text of a part. -/
def print : Node → List Char
  | .text s => escape s
  | .stop number placeholder pipe =>
    ['$', '\x7b'] ++ Nat.toDigits 10 number ++ printBehind placeholder.isEmpty (printAll placeholder) pipe ++ ['\x7d']
  | .stopTransform number t => ['$', '\x7b'] ++ Nat.toDigits 10 number ++ '/' :: t.print
  | .var name => ['$', '\x7b'] ++ name ++ ['\x7d']
  | .varOr name fallback => ['$', '\x7b'] ++ name ++ ':' :: printAll fallback ++ ['\x7d']
  | .varTransform name t => ['$', '\x7b'] ++ name ++ '/' :: t.print
  | .shell command => '`' :: protect '`' command ++ ['`']

/-- The canonical text of parts, one after the other. -/
def printAll : List Node → List Char
  | [] => []
  | n :: nodes => print n ++ printAll nodes

end

end Node

/-! ## Normal forms -/

/-- Backslashes come in pairs with what they protect, which is never the character. -/
inductive Guarded (close : Char) : List Char → Prop where
  | nil : Guarded close []
  | plain {c : Char} {s : List Char} (solid : c ≠ '\\') (rest : Guarded close s) : Guarded close (c :: s)
  | pair {c : Char} {s : List Char} (other : c ≠ close) (rest : Guarded close s) : Guarded close ('\\' :: c :: s)

/-- Backslashes come in pairs with what they protect, and the character stands in such pairs only. -/
inductive Sealed (close : Char) : List Char → Prop where
  | nil : Sealed close []
  | plain {c : Char} {s : List Char} (solid : c ≠ '\\') (other : c ≠ close) (rest : Sealed close s) : Sealed close (c :: s)
  | pair {c : Char} {s : List Char} (rest : Sealed close s) : Sealed close ('\\' :: c :: s)

/-- A letter or a low line, and letters, digits and low lines behind it. -/
def IsName (name : List Char) : Prop :=
  (∃ c, name.head? = some c ∧ TemplateReader.isNameStart c = true) ∧ ∀ c ∈ name, TemplateReader.isNameChar c = true

/-- A substitution that can be printed. The slashes of its format are protected already. -/
structure Transform.Fits (t : Transform) : Prop where
  regex : Guarded '/' t.regex
  format : Sealed '/' t.format
  flags : ∀ c ∈ t.flags, c.isAlpha = true

/-- A command that a tab stop can have. -/
structure IsPipe (command : List Char) : Prop where
  present : command ≠ []
  guarded : Guarded '\x7d' command

/-- Parts as the reader makes them: texts are not empty, and no text stands right behind another. -/
inductive Normal : List Node → Prop where
  | nil : Normal []
  | text {s : List Char} {nodes : List Node} (present : s ≠ []) (apart : ∀ t, nodes.head? ≠ some (.text t))
      (rest : Normal nodes) : Normal (.text s :: nodes)
  | stop {number : Nat} {placeholder nodes : List Node} {pipe : Option (List Char)} (small : number < Node.numberLimit)
      (inside : Normal placeholder) (fits : ∀ command, pipe = some command → IsPipe command) (rest : Normal nodes) :
      Normal (.stop number placeholder pipe :: nodes)
  | stopTransform {number : Nat} {t : Transform} {nodes : List Node} (small : number < Node.numberLimit) (fits : t.Fits)
      (rest : Normal nodes) : Normal (.stopTransform number t :: nodes)
  | var {name : List Char} {nodes : List Node} (named : IsName name) (rest : Normal nodes) : Normal (.var name :: nodes)
  | varOr {name : List Char} {fallback nodes : List Node} (named : IsName name) (inside : Normal fallback)
      (rest : Normal nodes) : Normal (.varOr name fallback :: nodes)
  | varTransform {name : List Char} {t : Transform} {nodes : List Node} (named : IsName name) (fits : t.Fits)
      (rest : Normal nodes) : Normal (.varTransform name t :: nodes)
  | shell {command : List Char} {nodes : List Node} (guarded : Guarded '`' command) (rest : Normal nodes) :
      Normal (.shell command :: nodes)

/-! ## What is taken as it stands -/

theorem protect_self (close : Char) (s : List Char) : protect close (close :: s) = '\\' :: close :: protect close s := by
  simp [protect]

theorem protect_of_ne {c close : Char} (other : c ≠ close) (s : List Char) :
    protect close (c :: s) = c :: protect close s := by
  simp [protect, other]

namespace TemplateReader
open Node (print printAll consChar)

variable {close : Char} {s k : List Char}

/-- What is sealed is taken up to the character behind it. -/
theorem rawUntil_sealed (solid : close ≠ '\\') (closed : Sealed close s) (k : List Char) :
    rawUntil close (s ++ close :: k) = some (s, k) := by
  induction closed with
  | nil => simp [rawUntil, solid]
  | plain plain other rest ih => simp [rawUntil, plain, other, ih]
  | pair rest ih => simp [rawUntil, ih]

theorem sealed_protect (solid : close ≠ '\\') (guarded : Guarded close s) : Sealed close (protect close s) := by
  induction guarded with
  | nil => exact .nil
  | @plain c s plain rest ih =>
    by_cases same : c = close
    · rw [same, protect_self]
      exact .pair ih
    · rw [protect_of_ne same]
      exact .plain plain same ih
  | pair other rest ih =>
    rw [protect_of_ne solid.symm, protect_of_ne other]
    exact .pair ih

/-- A backslash that protects something else stays. -/
theorem unprotect_backslash {t : List Char} (other : ∀ c, t.head? = some c → c ≠ close) :
    unprotect close ('\\' :: t) = '\\' :: unprotect close t := by
  cases t with
  | nil => simp [unprotect]
  | cons c t => rw [unprotect, if_neg (other c rfl)]

/-- What is printed protected never starts with the character, so that no other backslash comes to stand before it. -/
theorem head?_protect (solid : close ≠ '\\') (s : List Char) : ∀ c, (protect close s).head? = some c → c ≠ close := by
  cases s with
  | nil => nofun
  | cons d s =>
    intro c first
    by_cases same : d = close
    · rw [same, protect_self] at first
      obtain rfl := Option.some.inj first
      exact solid.symm
    · rw [protect_of_ne same] at first
      obtain rfl := Option.some.inj first
      exact same

theorem unprotect_protect (solid : close ≠ '\\') (guarded : Guarded close s) :
    unprotect close (protect close s) = s := by
  have plain_cons {c : Char} (plain : c ≠ '\\') (t : List Char) : unprotect close (c :: t) = c :: unprotect close t := by
    rw [unprotect]
    rintro d rest same
    exact fun _ => plain same
  induction guarded with
  | nil => rfl
  | @plain c s plain rest ih =>
    by_cases same : c = close
    · rw [same, protect_self, unprotect, if_pos rfl, ih]
    · rw [protect_of_ne same, plain_cons plain, ih]
  | @pair c s other rest ih =>
    rw [protect_of_ne solid.symm, protect_of_ne other, unprotect_backslash (by simpa using other)]
    by_cases same : c = '\\'
    · rw [same, unprotect_backslash (head?_protect solid s), ih]
    · rw [plain_cons same, ih]

theorem rawUntil_protect (solid : close ≠ '\\') (guarded : Guarded close s) (k : List Char) :
    rawUntil close (protect close s ++ close :: k) = some (protect close s, k) :=
  rawUntil_sealed solid (sealed_protect solid guarded) k

theorem protect_ne_nil (present : s ≠ []) : protect close s ≠ [] := by
  obtain ⟨c, s, rfl⟩ := List.exists_cons_of_ne_nil present
  by_cases same : c = close
  · simp [same, protect_self]
  · simp [protect_of_ne same]

/-- Letters are no markup. -/
theorem sealed_of_alpha {flags : List Char} (letters : ∀ c ∈ flags, c.isAlpha = true) (letter : close.isAlpha = false) :
    Sealed close flags := by
  induction flags with
  | nil => exact .nil
  | cons c flags ih =>
    have alpha := letters c List.mem_cons_self
    refine .plain ?_ ?_ (ih fun d member => letters d (List.mem_cons_of_mem _ member))
    · rintro rfl
      exact absurd alpha (by decide)
    · rintro rfl
      exact absurd (alpha.symm.trans letter) (by decide)

theorem transform_print {t : Transform} (fits : t.Fits) (k : List Char) : transform (t.print ++ k) = some (t, k) := by
  have letters : t.flags.all Char.isAlpha = true := List.all_eq_true.mpr fits.flags
  have regex := rawUntil_protect (by decide) fits.regex (t.format ++ '/' :: (t.flags ++ '\x7d' :: k))
  have format := rawUntil_sealed (by decide) fits.format (t.flags ++ '\x7d' :: k)
  have flags := rawUntil_sealed (by decide) (sealed_of_alpha fits.flags (by decide : Char.isAlpha '\x7d' = false)) k
  simp only [Transform.print, List.append_assoc, List.cons_append, List.nil_append]
  simp only [transform, regex, format, flags, Option.bind_eq_bind, Option.bind_some, if_pos letters,
    unprotect_protect (by decide : '/' ≠ '\\') fits.regex]
  rfl

theorem pipe_protect {command : List Char} (fits : IsPipe command) (k : List Char) :
    pipe (protect '\x7d' command ++ '\x7d' :: k) = some (some command, k) := by
  rw [pipe, rawUntil_protect (by decide) fits.guarded, Option.map_some, if_neg (protect_ne_nil fits.present),
    unprotect_protect (by decide) fits.guarded]

/-! ## Numbers and names -/

theorem digitsValue_toDigits (number : Nat) : digitsValue (Nat.toDigits 10 number) = number := by
  have digits : ∀ d ∈ Nat.toDigits 10 number, d.isDigit = true := fun d => PropertyList.isDigit_of_mem_toDigits
  have read := PropertyList.decimal?_toDigits number
  rw [PropertyList.decimal?, if_pos ⟨Nat.toDigits_ne_nil, List.all_eq_true.2 digits⟩] at read
  exact Option.some.inj read

theorem stopNumber_toDigits {number : Nat} (small : number < Node.numberLimit) {c : Char} (other : c.isDigit = false)
    (k : List Char) : stopNumber (Nat.toDigits 10 number ++ c :: k) = some (number, c :: k) := by
  have digits : ∀ d ∈ Nat.toDigits 10 number, d.isDigit = true := fun d => PropertyList.isDigit_of_mem_toDigits
  have taken : (Nat.toDigits 10 number ++ c :: k).takeWhile Char.isDigit = Nat.toDigits 10 number := by
    rw [List.takeWhile_append_of_pos digits, List.takeWhile_cons_of_neg (by simp [other]), List.append_nil]
  simp only [stopNumber, taken, digitsValue_toDigits]
  rw [if_pos ⟨Nat.toDigits_ne_nil, small⟩, List.drop_left]

theorem variableName_append {name : List Char} (named : IsName name) {c : Char} (other : isNameChar c = false)
    (k : List Char) : variableName (name ++ c :: k) = (name, c :: k) := by
  have stop : ¬isNameChar c = true := by simp [other]
  rw [variableName, List.takeWhile_append_of_pos named.2, List.dropWhile_append_of_pos named.2,
    List.takeWhile_cons_of_neg stop, List.dropWhile_cons_of_neg stop, List.append_nil]

/-! ## Parts -/

/-- What the reader makes of a text in a context, what closes the parts, and what stands behind. -/
def Reads (context : Context) (cs : List Char) (parts : List Node) (close : Close) (behind : List Char) : Prop :=
  ∀ fuel, 3 * cs.length < fuel → nodes fuel context cs = (parts, close, behind)

/-- What the reader makes of a text behind a dollar, and what stands behind that. -/
def Opens (cs : List Char) (part : Node) (behind : List Char) : Prop :=
  ∀ fuel, 3 * cs.length < fuel → hole fuel cs = some (part, behind)

variable {context : Context} {parts inside : List Node} {closed : Close} {behind : List Char} {part : Node}

theorem reads_nil (context : Context) : Reads context [] [] .ending [] := by
  intro fuel enough
  obtain ⟨fuel, rfl⟩ := Nat.exists_eq_add_of_lt enough
  rw [nodes]

theorem reads_brace (within : context ≠ .top) (k : List Char) : Reads context ('\x7d' :: k) [] .brace k := by
  intro fuel enough
  obtain ⟨fuel, rfl⟩ := Nat.exists_eq_add_of_lt enough
  simp [nodes, within]

theorem reads_bar (k : List Char) : Reads .placeholder ('|' :: k) [] .bar k := by
  intro fuel enough
  obtain ⟨fuel, rfl⟩ := Nat.exists_eq_add_of_lt enough
  simp [nodes]

/-- A character that a backslash protects if need be is text, whatever the context. -/
theorem Reads.char (reads : Reads context k parts closed behind) (c : Char) :
    Reads context (escape [c] ++ k) (consChar c parts) closed behind := by
  intro fuel enough
  obtain ⟨fuel, rfl⟩ := Nat.exists_eq_add_of_lt enough
  by_cases protectable : isProtectable c
  · have printed : escape [c] ++ k = '\\' :: c :: k := by simp [escape, protectable]
    rw [printed] at enough ⊢
    simp only [List.length_cons] at enough ⊢
    rw [nodes]
    simp only [protectable, if_true]
    rw [reads _ (by omega)]
  · have printed : escape [c] ++ k = c :: k := by simp [escape, protectable]
    have plain : c ≠ '$' ∧ c ≠ '`' ∧ c ≠ '\x7d' ∧ c ≠ '|' ∧ c ≠ '\\' := by
      simpa [isProtectable] using protectable
    rw [printed] at enough ⊢
    simp only [List.length_cons] at enough ⊢
    rw [nodes.eq_def]
    simp only [plain, if_false, false_and]
    rw [reads _ (by omega)]

/-- A text that is printed with its backslashes is one text, if no text stands behind it. -/
theorem Reads.text (reads : Reads context k parts closed behind) (present : s ≠ [])
    (apart : ∀ t, parts.head? ≠ some (.text t)) : Reads context (escape s ++ k) (.text s :: parts) closed behind := by
  induction s with
  | nil => exact absurd rfl present
  | cons c s ih =>
    have split : escape (c :: s) ++ k = escape [c] ++ (escape s ++ k) := by simp [escape]
    rw [split]
    cases s with
    | nil =>
      have read := reads.char c
      cases parts with
      | nil => exact read
      | cons part parts =>
        cases part with
        | text t => exact absurd rfl (apart t)
        | _ => exact read
    | cons d s => exact (ih (by simp)).char c

theorem Reads.shell (reads : Reads context k parts closed behind) {command : List Char} (guarded : Guarded '`' command) :
    Reads context ('`' :: (protect '`' command ++ '`' :: k)) (.shell command :: parts) closed behind := by
  intro fuel enough
  obtain ⟨fuel, rfl⟩ := Nat.exists_eq_add_of_lt enough
  simp only [List.length_cons, List.length_append] at enough ⊢
  rw [nodes.eq_def]
  simp only [rawUntil_protect (by decide) guarded, unprotect_protect (by decide : '`' ≠ '\\') guarded]
  rw [reads _ (by omega)]
  simp

theorem Reads.hole {body : List Char} (reads : Reads context k parts closed behind) (opens : Opens body part k)
    (shorter : k.length ≤ body.length) : Reads context ('$' :: body) (part :: parts) closed behind := by
  intro fuel enough
  obtain ⟨fuel, rfl⟩ := Nat.exists_eq_add_of_lt enough
  simp only [List.length_cons] at enough ⊢
  rw [nodes.eq_def]
  simp only [opens _ (by omega : 3 * body.length < 3 * (body.length + 1) + fuel)]
  rw [reads _ (by omega)]
  simp

/-! ## Tab stops and variables -/

section
variable {number : Nat} {name cs command : List Char} {c : Char} {t : Transform}

/-- A tab stop is read between braces that open with its number. -/
theorem opens_of_bracedStop
    (read : ∀ fuel, 3 * cs.length < fuel →
      bracedStop (fuel + 1) (Nat.toDigits 10 number ++ c :: cs) = some (part, behind)) :
    Opens ('\x7b' :: (Nat.toDigits 10 number ++ c :: cs)) part behind := by
  intro fuel enough
  obtain ⟨d, ds, same⟩ := List.exists_cons_of_ne_nil (Nat.toDigits_ne_nil (b := 10) (n := number))
  have digit : d.isDigit = true := PropertyList.isDigit_of_mem_toDigits (same ▸ List.mem_cons_self)
  rw [same] at enough read ⊢
  simp only [List.length_cons, List.length_append] at enough
  obtain ⟨fuel, rfl⟩ := Nat.exists_eq_add_of_le (by omega : 2 ≤ fuel)
  rw [Nat.add_comm, hole.eq_def]
  simpa [digit] using read fuel (by omega)

/-- The letters stand behind the digits. -/
theorem isDigit_of_isAlpha {c : Char} (alpha : c.isAlpha = true) : c.isDigit = false := by
  rw [Bool.eq_false_iff]
  intro digit
  have high : c.toNat ≤ 57 := (Char.isDigit_iff_toNat.mp digit).2
  have letter : 65 ≤ c.toNat := by
    rcases (Bool.or_eq_true ..).mp alpha with upper | lower
    · exact (of_decide_eq_true upper).1
    · exact Nat.le_trans (by decide : 65 ≤ 97) (of_decide_eq_true ((Bool.and_eq_true ..).mp lower).1)
  omega

theorem isDigit_of_isNameStart (start : isNameStart c = true) : c.isDigit = false := by
  simp only [isNameStart, Bool.or_eq_true, decide_eq_true_eq] at start
  rcases start with alpha | rfl
  · exact isDigit_of_isAlpha alpha
  · rfl

/-- A variable is read between braces that open with its name. -/
theorem opens_of_bracedVariable (named : IsName name)
    (read : ∀ fuel, 3 * cs.length < fuel → bracedVariable (fuel + 1) (name ++ c :: cs) = some (part, behind)) :
    Opens ('\x7b' :: (name ++ c :: cs)) part behind := by
  intro fuel enough
  obtain ⟨⟨d, first, start⟩, -⟩ := named
  obtain ⟨ds, rfl⟩ : ∃ ds, name = d :: ds := by
    cases name with
    | nil => cases first
    | cons e ds => exact ⟨ds, by rw [Option.some.inj first]⟩
  simp only [List.length_cons, List.length_append] at enough
  obtain ⟨fuel, rfl⟩ := Nat.exists_eq_add_of_le (by omega : 2 ≤ fuel)
  rw [Nat.add_comm, hole.eq_def]
  simpa [isDigit_of_isNameStart start, start] using read fuel (by omega)

variable (small : number < Node.numberLimit) (named : IsName name)
include small

theorem opens_stop (k : List Char) : Opens ('\x7b' :: (Nat.toDigits 10 number ++ '\x7d' :: k)) (.stop number [] none) k :=
  opens_of_bracedStop fun fuel _ => by
    rw [bracedStop, stopNumber_toDigits small (by decide)]
    rfl

theorem Reads.placeholder (reads : Reads .placeholder cs inside .brace k) :
    Opens ('\x7b' :: (Nat.toDigits 10 number ++ ':' :: cs)) (.stop number inside none) k :=
  opens_of_bracedStop fun fuel enough => by
    rw [bracedStop, stopNumber_toDigits small (by decide)]
    simp only [reads fuel enough]

theorem Reads.pipe (reads : Reads .placeholder cs inside .bar (protect '\x7d' command ++ '\x7d' :: k))
    (fits : IsPipe command) :
    Opens ('\x7b' :: (Nat.toDigits 10 number ++ ':' :: cs)) (.stop number inside (some command)) k :=
  opens_of_bracedStop fun fuel enough => by
    rw [bracedStop, stopNumber_toDigits small (by decide)]
    simp only [reads fuel enough, pipe_protect fits, Option.map_some]

theorem opens_stopTransform (fits : t.Fits) (k : List Char) :
    Opens ('\x7b' :: (Nat.toDigits 10 number ++ '/' :: (t.print ++ k))) (.stopTransform number t) k :=
  opens_of_bracedStop fun fuel _ => by
    rw [bracedStop, stopNumber_toDigits small (by decide)]
    simp only [transform_print fits, Option.map_some]

omit small
include named

theorem opens_var (k : List Char) : Opens ('\x7b' :: (name ++ '\x7d' :: k)) (.var name) k :=
  opens_of_bracedVariable named fun fuel _ => by
    rw [bracedVariable, variableName_append named (by decide)]
    rfl

theorem Reads.fallback (reads : Reads .fallback cs inside .brace k) :
    Opens ('\x7b' :: (name ++ ':' :: cs)) (.varOr name inside) k :=
  opens_of_bracedVariable named fun fuel enough => by
    rw [bracedVariable, variableName_append named (by decide)]
    simp only [reads fuel enough]

theorem opens_varTransform (fits : t.Fits) (k : List Char) :
    Opens ('\x7b' :: (name ++ '/' :: (t.print ++ k))) (.varTransform name t) k :=
  opens_of_bracedVariable named fun fuel _ => by
    rw [bracedVariable, variableName_append named (by decide)]
    simp only [transform_print fits, Option.map_some]

end

/-! ## Templates -/

/-- Parts in normal form are read before whatever ends their context. -/
theorem Reads.printAll (normal : Normal parts) (reads : Reads context k [] closed behind) :
    Reads context (Node.printAll parts ++ k) parts closed behind := by
  induction normal generalizing context k closed behind with
  | nil => exact reads
  | text present apart rest ih =>
    rw [Node.printAll, List.append_assoc, print]
    exact (ih reads).text present apart
  | @stop number placeholder nodes pipe small inside fits rest below after =>
    have others := after reads
    cases pipe with
    | some command =>
      have guarded := fits command rfl
      have inner := below (reads_bar (protect '\x7d' command ++ '\x7d' :: (Node.printAll nodes ++ k)))
      have read := others.hole (inner.pipe small guarded) (by simp; omega)
      simpa [Node.printAll, print, Node.printBehind] using read
    | none =>
      cases placeholder with
      | nil =>
        have read := others.hole (opens_stop small _) (by simp; omega)
        simpa [Node.printAll, print, Node.printBehind] using read
      | cons part placeholder =>
        have inner := below (@reads_brace .placeholder nofun (Node.printAll nodes ++ k))
        have read := others.hole (inner.placeholder small) (by simp; omega)
        simpa [Node.printAll, print, Node.printBehind] using read
  | @stopTransform number t nodes small fits rest ih =>
    have opens := opens_stopTransform small fits (Node.printAll nodes ++ k)
    have read := (ih reads).hole opens (by simp; omega)
    simpa [Node.printAll, print] using read
  | @var name nodes named rest ih =>
    have read := (ih reads).hole (opens_var named _) (by simp; omega)
    simpa [Node.printAll, print] using read
  | @varOr name fallback nodes named inside rest below after =>
    have inner := below (@reads_brace .fallback nofun (Node.printAll nodes ++ k))
    have read := (after reads).hole (inner.fallback named) (by simp; omega)
    simpa [Node.printAll, print] using read
  | @varTransform name t nodes named fits rest ih =>
    have read := (ih reads).hole (opens_varTransform named fits _) (by simp; omega)
    simpa [Node.printAll, print] using read
  | @shell command nodes guarded rest ih =>
    have read := (ih reads).shell guarded
    simpa [Node.printAll, print] using read

end TemplateReader

/-- Parts in normal form are printed to a template that is read back as just these parts. In particular a text that is
printed with its backslashes is that text, whether it is a template or stands in a placeholder or a fallback. -/
theorem parseTemplate_printAll :
    (∀ parts, Normal parts → parseTemplate (Node.printAll parts) = parts) ∧
    ∀ s, s ≠ [] → parseTemplate (escape s) = [.text s] ∧
      (∀ number < Node.numberLimit,
        parseTemplate (['$', '\x7b'] ++ Nat.toDigits 10 number ++ ':' :: escape s ++ ['\x7d']) =
          [.stop number [.text s] none]) ∧
      ∀ name, IsName name →
        parseTemplate (['$', '\x7b'] ++ name ++ ':' :: escape s ++ ['\x7d']) = [.varOr name [.text s]] := by
  have whole (parts : List Node) (normal : Normal parts) : parseTemplate (Node.printAll parts) = parts := by
    have read := TemplateReader.Reads.printAll normal (TemplateReader.reads_nil .top)
    rw [List.append_nil] at read
    rw [parseTemplate, read _ (by omega)]
  refine ⟨whole, fun s present => ?_⟩
  have normal : Normal [.text s] := .text present nofun .nil
  refine ⟨?_, fun number small => ?_, fun name named => ?_⟩
  · simpa [Node.printAll, Node.print] using whole _ normal
  · simpa [Node.printAll, Node.print, Node.printBehind] using
      whole [.stop number [.text s] none] (.stop small normal nofun .nil)
  · simpa [Node.printAll, Node.print] using whole [.varOr name [.text s]] (.varOr named normal .nil)

/-- A placeholder with markup and a variable whose fallback is a tab stop, a command in which a brace and a backslash
stand, a substitution with slashes, and a command of its own. -/
theorem parseTemplate_printAll_nested :
    ∃ parts template, Normal parts ∧ Node.printAll parts = template ∧ parseTemplate template = parts ∧
      template =
        "\\$a$\x7b1:\\\x7d\\|$\x7b_N:$\x7b20\x7d\x7d|\\\\\\\x7d\x7d$\x7b1/\\//\\//g\x7d`\\``".toList := by
  have small (n : Nat) (h : n ≤ 20) : n < Node.numberLimit := Nat.lt_of_le_of_lt h (by decide)
  have placeholder : Normal [.text ['\x7d', '|'], .varOr ['_', 'N'] [.stop 20 [] none]] :=
    .text (by decide) nofun (.varOr ⟨⟨'_', rfl, by decide⟩, List.all_eq_true.mp rfl⟩
      (.stop (small 20 (by decide)) .nil nofun .nil) .nil)
  have command : IsPipe ['\\', '\\', '\x7d'] := ⟨by decide, .pair (by decide) (.plain (by decide) .nil)⟩
  have substitution : Transform.Fits ⟨['/'], ['\\', '/'], ['g']⟩ :=
    ⟨.plain (by decide) .nil, .pair .nil, List.all_eq_true.mp rfl⟩
  have behind : Normal [.stopTransform 1 ⟨['/'], ['\\', '/'], ['g']⟩, .shell ['`']] :=
    .stopTransform (small 1 (by decide)) substitution (.shell (.plain (by decide) .nil) .nil)
  have normal : Normal (.text ['$', 'a'] :: .stop 1 [.text ['\x7d', '|'], .varOr ['_', 'N'] [.stop 20 [] none]]
      (some ['\\', '\\', '\x7d']) :: [.stopTransform 1 ⟨['/'], ['\\', '/'], ['g']⟩, .shell ['`']]) :=
    .text (by decide) nofun (.stop (small 1 (by decide)) placeholder (fun _ same => Option.some.inj same ▸ command) behind)
  exact ⟨_, _, normal, rfl, parseTemplate_printAll.1 _ normal, by decide +kernel⟩

end EditorBundles.Snippet
