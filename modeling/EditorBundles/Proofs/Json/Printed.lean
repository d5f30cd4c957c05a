import EditorBundles.Json.Printer
import EditorBundles.Json.Reader
import Mathlib.Tactic.IntervalCases

/-!
# Reading printed JSON

Texts and whole numbers are read back from wherever they stand in printed JSON. What follows them there is the end
of the text, or the comma or bracket behind an item; the reader stops in front of it.
-/

namespace EditorBundles.Json
set_option autoImplicit false

/-- What follows a value in printed JSON: nothing, or a mark that ends it. -/
def Stops (k : List Char) : Prop := ∀ c ∈ k.head?, c = ',' ∨ c = ']' ∨ c = '}'

theorem stops_nil : Stops [] := by
  intro c head
  cases head

theorem stops_comma (k : List Char) : Stops (',' :: k) := by
  intro c head
  exact .inl (Option.some.inj head).symm

theorem stops_bracket (k : List Char) : Stops (']' :: k) := by
  intro c head
  exact .inr (.inl (Option.some.inj head).symm)

theorem stops_brace (k : List Char) : Stops ('}' :: k) := by
  intro c head
  exact .inr (.inr (Option.some.inj head).symm)

/-- The text of a value starts with a mark of its own, neither with a blank nor with the end of a container. -/
def Starts (cs : List Char) : Prop := ∃ c rest, cs = c :: rest ∧ isBlank c = false ∧ c ≠ ']' ∧ c ≠ '}'

theorem Starts.append {cs : List Char} (h : Starts cs) (k : List Char) : Starts (cs ++ k) := by
  obtain ⟨c, rest, rfl, own⟩ := h
  exact ⟨c, rest ++ k, rfl, own⟩

theorem Starts.length_pos {cs : List Char} (h : Starts cs) : 0 < cs.length := by
  obtain ⟨c, rest, rfl, -⟩ := h
  exact Nat.succ_pos _

theorem skipBlanks_cons {c : Char} (solid : isBlank c = false) (rest : List Char) : skipBlanks (c :: rest) = c :: rest := by
  rw [skipBlanks, List.dropWhile_cons, solid, if_neg Bool.false_ne_true]

/-! ## Texts -/

/-- The four digits of a control character write its number. -/
theorem fourDigits_control {n : Nat} (control : n < 0x20) (k : List Char) :
    fourDigits ('0' :: '0' :: hexDigit (n / 16) :: hexDigit (n % 16) :: k) = .ok n := by
  -- only the first four characters are looked at, and there are thirty-two of them
  have closed : ∀ n < 0x20, fourDigits ['0', '0', hexDigit (n / 16), hexDigit (n % 16)] = .ok n := by
    intro n control
    interval_cases n <;> rfl
  exact closed n control

theorem readText_plain {c : Char} (quote : c ≠ '"') (backslash : c ≠ '\\') (printable : 0x20 ≤ c.toNat)
    {mode : Mode} {cs text tail : List Char} (read : readText mode cs = .ok (text, tail)) :
    readText mode (c :: cs) = .ok (c :: text, tail) := by
  rw [readText, if_neg quote, if_neg backslash, if_neg (Nat.not_lt.2 printable), read]

theorem readText_escaped {mode : Mode} {cs text tail : List Char} {c : Char} {used : Nat}
    (escape : escaped mode cs = .ok (c, used)) (read : readText mode (cs.drop used) = .ok (text, tail)) :
    readText mode ('\\' :: cs) = .ok (c :: text, tail) := by
  rw [readText, if_neg (by decide), if_pos rfl, escape]
  dsimp only
  rw [read]

/-- The control characters without an escape of their own are read from their number. -/
theorem escaped_control {c : Char} (control : c.toNat < 0x20) (mode : Mode) (k : List Char) :
    escaped mode ('u' :: '0' :: '0' :: hexDigit (c.toNat / 16) :: hexDigit (c.toNat % 16) :: k) = .ok (c, 5) := by
  rw [escaped, fourDigits_control control]
  dsimp only
  have high : isHighSurrogate c.toNat = false := by
    simp only [isHighSurrogate, Bool.and_eq_false_iff, decide_eq_false_iff_not]
    omega
  have low : isLowSurrogate c.toNat = false := by
    simp only [isLowSurrogate, Bool.and_eq_false_iff, decide_eq_false_iff_not]
    omega
  rw [high, low, if_neg Bool.false_ne_true, if_neg Bool.false_ne_true, Char.ofNat_toNat]

/-- An escaped character is read as it was. -/
theorem readText_escape (c : Char) {mode : Mode} {cs text tail : List Char} (read : readText mode cs = .ok (text, tail)) :
    readText mode (escape c ++ cs) = .ok (c :: text, tail) := by
  rw [escape]
  split
  · rename_i same
    subst same
    exact readText_escaped rfl read
  split
  · rename_i same
    subst same
    exact readText_escaped rfl read
  split
  · rename_i same
    subst same
    exact readText_escaped rfl read
  split
  · rename_i same
    subst same
    exact readText_escaped rfl read
  split
  · rename_i same
    subst same
    exact readText_escaped rfl read
  split
  · rename_i same
    subst same
    exact readText_escaped rfl read
  split
  · rename_i same
    subst same
    exact readText_escaped rfl read
  split
  · rename_i control
    exact readText_escaped (escaped_control control mode cs) read
  · rename_i quote backslash _ _ _ _ _ printable
    exact readText_plain quote backslash (Nat.not_lt.1 printable) read

theorem readText_escapes (mode : Mode) (cs k : List Char) : readText mode (cs.flatMap escape ++ '"' :: k) = .ok (cs, k) := by
  induction cs with
  | nil => rw [List.flatMap_nil, List.nil_append, readText, if_pos rfl]
  | cons c cs ih =>
    rw [List.flatMap_cons, List.append_assoc]
    exact readText_escape c ih

theorem toList_quote (s : String) : (quote s).toList = '"' :: (s.toList.flatMap escape ++ ['"']) := by
  simp [quote]

/-- A quoted text is read back behind its first quote. -/
theorem readText_quote (mode : Mode) (s : String) (k : List Char) :
    readText mode (s.toList.flatMap escape ++ ['"'] ++ k) = .ok (s.toList, k) := by
  rw [List.append_assoc]
  exact readText_escapes mode s.toList k

theorem readKeyText_quote (mode : Mode) (s : String) (k : List Char) :
    readKeyText mode ((quote s).toList ++ k) = .ok (s, k) := by
  rw [toList_quote, List.cons_append, readKeyText, readText_quote]
  show Except.ok (String.ofList s.toList, k) = .ok (s, k)
  rw [String.ofList_toList]

theorem starts_quote (s : String) : Starts (quote s).toList := by
  rw [toList_quote]
  exact ⟨'"', _, rfl, rfl, by decide, by decide⟩

/-! ## Numbers -/

theorem digitsValue_toDigits (n : Nat) : digitsValue (Nat.toDigits 10 n) = n := by
  have read := Nat.ofDigitChars_ten_toDigits (n := n)
  rw [Nat.ofDigitChars_eq_foldl] at read
  simpa only [digitsValue, Nat.mul_comm] using read

/-- Only zero is written with a zero in front. -/
theorem head_toDigits_ne_zero {n : Nat} (positive : 0 < n) : (Nat.toDigits 10 n).head? ≠ some '0' := by
  induction n using Nat.strongRecOn with
  | ind n ih =>
    rw [Nat.toDigits_eq_if (by omega)]
    split
    · rename_i single
      interval_cases n <;> decide
    · have front := ih (n / 10) (by omega) (by omega)
      cases shape : Nat.toDigits 10 (n / 10) with
      | nil => exact absurd shape Nat.toDigits_ne_nil
      | cons c rest =>
        rw [shape] at front
        exact front

/-- The first character of a number is a digit. -/
theorem exists_toDigits_cons (n : Nat) : ∃ c rest, Nat.toDigits 10 n = c :: rest ∧ c.isDigit = true := by
  cases digits : Nat.toDigits 10 n with
  | nil => exact absurd digits Nat.toDigits_ne_nil
  | cons c rest =>
    have member : c ∈ Nat.toDigits 10 n := by
      rw [digits]
      exact List.mem_cons_self
    exact ⟨c, rest, rfl, Nat.isDigit_of_mem_toDigits (by decide) (by decide) member⟩

theorem Stops.not_isDigit {k : List Char} (h : Stops k) {c : Char} (head : c ∈ k.head?) : c.isDigit = false := by
  rcases h c head with rfl | rfl | rfl <;> rfl

theorem spanDigits_append {digits k : List Char} (all : ∀ c ∈ digits, c.isDigit = true) (stops : Stops k) :
    spanDigits (digits ++ k) = (digits, k) := by
  have behind : k.takeWhile Char.isDigit = [] ∧ k.dropWhile Char.isDigit = k := by
    cases k with
    | nil => exact ⟨rfl, rfl⟩
    | cons c k =>
      have other : c.isDigit = false := stops.not_isDigit rfl
      rw [List.takeWhile_cons, List.dropWhile_cons, other]
      exact ⟨rfl, rfl⟩
  rw [spanDigits, List.takeWhile_append_of_pos all, List.dropWhile_append_of_pos all, behind.1, behind.2, List.append_nil]

theorem someDigits_append {digits k : List Char} (some_ : digits ≠ []) (all : ∀ c ∈ digits, c.isDigit = true)
    (stops : Stops k) (whenCut : Fault) : someDigits whenCut (digits ++ k) = .ok (digits, k) := by
  cases digits with
  | nil => exact absurd rfl some_
  | cons c digits =>
    rw [List.cons_append, someDigits, if_pos (all c List.mem_cons_self), ← List.cons_append, spanDigits_append all stops]

theorem wholePart_toDigits (mode : Mode) (n : Nat) {k : List Char} (stops : Stops k) :
    wholePart mode (Nat.toDigits 10 n ++ k) = .ok (Nat.toDigits 10 n, k) := by
  have all (c : Char) (member : c ∈ Nat.toDigits 10 n) : c.isDigit = true :=
    Nat.isDigit_of_mem_toDigits (by decide) (by decide) member
  have digits := someDigits_append Nat.toDigits_ne_nil all stops mode.cutNumber
  unfold wholePart
  split
  · rename_i d rest same
    -- a zero in front means that the number is zero, and what follows is no digit
    obtain rfl : n = 0 := by
      by_contra positive
      obtain ⟨c, behind, shape, -⟩ := exists_toDigits_cons n
      rw [shape] at same
      obtain ⟨rfl, -⟩ := List.cons.inj same
      exact head_toDigits_ne_zero (Nat.pos_of_ne_zero positive) (congrArg List.head? shape)
    obtain ⟨-, rfl⟩ := List.cons.inj (same : '0' :: k = '0' :: d :: rest)
    rw [stops.not_isDigit rfl, if_neg Bool.false_ne_true]
    rfl
  · exact digits

theorem fractionPart_stops (mode : Mode) {k : List Char} (stops : Stops k) : fractionPart mode k = .ok (none, k) := by
  unfold fractionPart
  split
  · rcases stops '.' rfl with same | same | same <;> cases same
  · rfl

theorem exponentPart_stops (mode : Mode) {k : List Char} (stops : Stops k) : exponentPart mode k = .ok (none, k) := by
  cases k with
  | nil => rfl
  | cons c k =>
    have other : ¬(decide (c = 'e') || decide (c = 'E')) = true := by
      rcases stops c rfl with rfl | rfl | rfl <;> decide
    unfold exponentPart
    exact if_neg other

/-- A whole number is read in front of what ends it. -/
theorem readNumber_toDigits (mode : Mode) (negative : Bool) (n : Nat) {k : List Char} (stops : Stops k) {value : Int}
    (fits : integerValue? negative n = some value) :
    readNumber mode negative (Nat.toDigits 10 n ++ k) = .ok (.integer value, k) := by
  have whole : digitsValue (Nat.toDigits 10 n ++ []) = n := by
    rw [List.append_nil]
    exact digitsValue_toDigits n
  rw [readNumber, wholePart_toDigits mode n stops]
  simp only [bind, Except.bind, fractionPart_stops mode stops, exponentPart_stops mode stops, Option.isNone_none,
    Bool.and_self, if_true, Option.getD_none, whole, fits]
  rfl

end EditorBundles.Json
