import EditorBundles.Proofs.Snippet.TemplatePrinting
import EditorBundles.Snippet.Substitution

/-!
# What formats say

A format is a list of parts: characters, groups, changes of case, and conditionals with formats for branches.
`Written` relates the parts to the texts that they are written as, and `printAll` is one of these texts. What the
parts say is told in two steps. Once the branches of conditionals are chosen, a format is a row of `Sign`s, so changes of
case run into branches and out of them. Then each character has the case that the signs in front of it ask for.

Expanding a written format gives what its parts say. Conditionals choose by whether a group took some text: a group that
matched the empty text counts as one that took no part.
-/

namespace EditorBundles.Snippet.Format
set_option autoImplicit false

/-! ## Parts -/

/-- A part of a format. Groups are numbered by words. -/
inductive Piece where
  | literal (c : Char)
  | group (n : UInt64)
  | lineFeed
  | indent
  | foldNext (letters : Letters)
  | foldOn (letters : Letters)
  | foldOff
  | choose (n : UInt64) (first second : List Piece)
  deriving Repr, Inhabited

/-- What is left of a part once the branches are chosen. The case of a character may be changed, that of other text not. -/
inductive Sign where
  | char (c : Char)
  | verbatim (s : List Char)
  | foldNext (letters : Letters)
  | foldOn (letters : Letters)
  | foldOff
  deriving DecidableEq, Repr

section Meaning
variable (group : Nat → Option (List Char)) (indentUnit : List Char) (takes : Nat → Bool)

mutual

/-- The signs of a part. `takes` tells for which groups a conditional says its first branch. -/
def Piece.signs : Piece → List Sign
  | .literal c => [.char c]
  | .group n => ((group n.toNat).getD []).map .char
  | .lineFeed => [.verbatim ['\n']]
  | .indent => [.verbatim indentUnit]
  | .foldNext letters => [.foldNext letters]
  | .foldOn letters => [.foldOn letters]
  | .foldOff => [.foldOff]
  | .choose n first second => if takes n.toNat then signsAll first else signsAll second

/-- The signs of parts, one after the other. -/
def Piece.signsAll : List Piece → List Sign
  | [] => []
  | piece :: pieces => piece.signs ++ signsAll pieces

end

end Meaning

namespace Sign

/-- The case that is asked for the next character, by signs with the latest first. -/
def pending : List Sign → Option Letters
  | [] => none
  | .char _ :: _ => none
  | .foldNext letters :: _ => some letters
  | _ :: before => pending before

/-- The case that is asked for all characters, by signs with the latest first. -/
def lasting : List Sign → Option Letters
  | [] => none
  | .foldOn letters :: _ => some letters
  | .foldOff :: _ => none
  | _ :: before => lasting before

/-- What a sign says behind others, which are given with the latest first. -/
def text (before : List Sign) : Sign → List Char
  | .char c => Letters.apply ((pending before).or (lasting before)) c
  | .verbatim s => s
  | _ => []

/-- What signs say behind others, which are given with the latest first. -/
def say (before : List Sign) : List Sign → List Char
  | [] => []
  | sign :: signs => sign.text before ++ say (sign :: before) signs

end Sign

mutual

/-- The groups that the conditionals of a part ask for. -/
def Piece.asked : Piece → List Nat
  | .choose n first second => n.toNat :: (askedAll first ++ askedAll second)
  | _ => []

/-- The groups that the conditionals of parts ask for. -/
def Piece.askedAll : List Piece → List Nat
  | [] => []
  | piece :: pieces => piece.asked ++ askedAll pieces

end

/-- What parts say, where `takes` tells for which groups a conditional says its first branch. -/
def meaning (group : Nat → Option (List Char)) (indentUnit : List Char) (takes : Nat → Bool) (pieces : List Piece) :
    List Char :=
  Sign.say [] (Piece.signsAll group indentUnit takes pieces)

/-! ## Texts -/

/-- The letter behind a backslash that tells how case changes. -/
def Letters.nextSign : Letters → Char
  | .upper => 'u'
  | .lower => 'l'

/-- The letter behind a backslash that tells how the case of all characters changes. -/
def Letters.lastingSign : Letters → Char
  | .upper => 'U'
  | .lower => 'L'

/-- The letters that mean something behind a backslash. -/
def isDirective (c : Char) : Bool := ['n', 't', 'u', 'l', 'U', 'L', 'E'].contains c

/-- Does a text start with a digit? -/
def startsDigit (s : List Char) : Bool := s.head?.any Char.isDigit

/-- Would a character in front of a text mean something else than itself? In a branch parentheses and colons do. -/
def IsMarkup (inBranch : Bool) (c : Char) (s : List Char) : Prop :=
  c = '\\' ∨ c = '$' ∧ startsDigit s = true ∨ c = '(' ∧ (inBranch = true ∨ s.head? = some '?') ∨
    inBranch = true ∧ (c = ')' ∨ c = ':')

/-- The digits of a number. -/
structure Digits (digits : List Char) (n : UInt64) : Prop where
  some_ : digits ≠ []
  all : ∀ d ∈ digits, d.isDigit = true
  value : TemplateReader.digitsValue digits = n.toNat

/-- The texts that parts are written as. A backslash can stand before any character but the letters that mean something
behind one, and has to stand before what would be markup. -/
inductive Written : Bool → List Piece → List Char → Prop where
  | nil (inBranch : Bool) : Written inBranch [] []
  | plain {inBranch : Bool} {c : Char} {pieces : List Piece} {s : List Char} (solid : ¬ IsMarkup inBranch c s)
      (rest : Written inBranch pieces s) : Written inBranch (.literal c :: pieces) (c :: s)
  | escaped {inBranch : Bool} {c : Char} {pieces : List Piece} {s : List Char} (solid : isDirective c = false)
      (rest : Written inBranch pieces s) : Written inBranch (.literal c :: pieces) ('\\' :: c :: s)
  | group {inBranch : Bool} {n : UInt64} {digits : List Char} {pieces : List Piece} {s : List Char}
      (number : Digits digits n) (ends : startsDigit s = false) (rest : Written inBranch pieces s) :
      Written inBranch (.group n :: pieces) ('$' :: (digits ++ s))
  | lineFeed {inBranch : Bool} {pieces : List Piece} {s : List Char} (rest : Written inBranch pieces s) :
      Written inBranch (.lineFeed :: pieces) ('\\' :: 'n' :: s)
  | indent {inBranch : Bool} {pieces : List Piece} {s : List Char} (rest : Written inBranch pieces s) :
      Written inBranch (.indent :: pieces) ('\\' :: 't' :: s)
  | foldNext {inBranch : Bool} (letters : Letters) {pieces : List Piece} {s : List Char}
      (rest : Written inBranch pieces s) :
      Written inBranch (.foldNext letters :: pieces) ('\\' :: letters.nextSign :: s)
  | foldOn {inBranch : Bool} (letters : Letters) {pieces : List Piece} {s : List Char}
      (rest : Written inBranch pieces s) :
      Written inBranch (.foldOn letters :: pieces) ('\\' :: letters.lastingSign :: s)
  | foldOff {inBranch : Bool} {pieces : List Piece} {s : List Char} (rest : Written inBranch pieces s) :
      Written inBranch (.foldOff :: pieces) ('\\' :: 'E' :: s)
  | choose {inBranch : Bool} {n : UInt64} {digits : List Char} {first second pieces : List Piece} {s t u : List Char}
      (number : Digits digits n) (one : Written true first s) (other : Written true second t)
      (rest : Written inBranch pieces u) :
      Written inBranch (.choose n first second :: pieces)
        ('(' :: '?' :: (digits ++ ':' :: (s ++ ':' :: (t ++ ')' :: u))))
  | chooseOne {inBranch : Bool} {n : UInt64} {digits : List Char} {first pieces : List Piece} {s u : List Char}
      (number : Digits digits n) (one : Written true first s) (rest : Written inBranch pieces u) :
      Written inBranch (.choose n first [] :: pieces) ('(' :: '?' :: (digits ++ ':' :: (s ++ ')' :: u)))

/-- Puts a backslash before a text that starts with a digit. -/
def guardDigit (s : List Char) : List Char := if startsDigit s then '\\' :: s else s

mutual

/-- Prints a part in front of a text. -/
def Piece.print (s : List Char) : Piece → List Char
  | .literal c => if ['\\', '$', '(', ')', ':'].contains c then '\\' :: c :: s else c :: s
  | .group n => '$' :: (Nat.toDigits 10 n.toNat ++ guardDigit s)
  | .lineFeed => '\\' :: 'n' :: s
  | .indent => '\\' :: 't' :: s
  | .foldNext letters => '\\' :: letters.nextSign :: s
  | .foldOn letters => '\\' :: letters.lastingSign :: s
  | .foldOff => '\\' :: 'E' :: s
  | .choose n first second =>
    '(' :: '?' :: (Nat.toDigits 10 n.toNat ++ ':' :: (printAll first ++ ':' :: (printAll second ++ ')' :: s)))

/-- Prints parts, one after the other, with a backslash before each character that could be markup. -/
def Piece.printAll : List Piece → List Char
  | [] => []
  | piece :: pieces => piece.print (printAll pieces)

end

/-! ## Branches -/

variable {s t k digits format : List Char} {n : UInt64} {inBranch : Bool} {pieces first second : List Piece}

/-- A text that the search for the end of a branch passes over, from one depth of parentheses to another. -/
def Crosses (depth depth' : Nat) (s : List Char) : Prop :=
  ∀ colon k, branch colon depth (s ++ k) = (branch colon depth' k).map fun parts => (s ++ parts.1, parts.2)

theorem Crosses.nil (depth : Nat) : Crosses depth depth [] := by
  intro colon k
  simp

theorem Crosses.append {d₁ d₂ d₃ : Nat} (one : Crosses d₁ d₂ s) (other : Crosses d₂ d₃ t) : Crosses d₁ d₃ (s ++ t) := by
  intro colon k
  rw [List.append_assoc, one, other, Option.map_map]
  simp [Function.comp_def]

theorem crosses_char {depth depth' : Nat} {c : Char} (solid : c ≠ '\\') (goes : ¬ (c = ')' ∧ depth = 0))
    (colon : ¬ (c = ':' ∧ depth = 0))
    (deeper : (if c = '(' then depth + 1 else if c = ')' then depth - 1 else depth) = depth') :
    Crosses depth depth' [c] := by
  intro stops k
  have onward : ¬ (c = ':' ∧ depth = 0 ∧ stops = true) := fun ends => colon ⟨ends.1, ends.2.1⟩
  rw [List.singleton_append, branch]
  · simp only [goes, onward, if_false, deeper]
    rfl
  · rintro rfl
    exact fun _ => solid rfl
  · rintro d rest rfl
    exact fun _ => solid rfl

/-- A character that is no parenthesis, no colon and no backslash is passed over at any depth. -/
theorem crosses_plain (depth : Nat) {c : Char} (solid : c ∉ ['\\', '(', ')', ':']) : Crosses depth depth [c] := by
  simp only [List.mem_cons, List.not_mem_nil, or_false, not_or] at solid
  obtain ⟨backslash, opens, closes, colon⟩ := solid
  exact crosses_char backslash (fun ends => closes ends.1) (fun ends => colon ends.1) (by simp [opens, closes])

theorem crosses_escaped (depth : Nat) (c : Char) : Crosses depth depth ['\\', c] := by
  intro colon k
  rw [List.cons_append, List.singleton_append, branch]
  rfl

theorem crosses_digits (depth : Nat) (all : ∀ d ∈ digits, d.isDigit = true) : Crosses depth depth digits := by
  induction digits with
  | nil => exact .nil depth
  | cons d digits ih =>
    have digit := all d List.mem_cons_self
    have solid : d ∉ ['\\', '(', ')', ':'] := by
      intro member
      simp only [List.mem_cons, List.not_mem_nil, or_false] at member
      rcases member with rfl | rfl | rfl | rfl <;> exact absurd digit (by decide)
    exact (crosses_plain depth solid).append (ih fun d member => all d (List.mem_cons_of_mem _ member))

theorem crosses_colon (depth : Nat) : Crosses (depth + 1) (depth + 1) [':'] :=
  crosses_char (by decide) (by simp) (by simp) rfl

theorem crosses_close (depth : Nat) : Crosses (depth + 1) depth [')'] :=
  crosses_char (by decide) (by simp) (by simp) rfl

/-- What a conditional starts with is passed over, into its parentheses. -/
theorem crosses_asks (depth : Nat) (number : Digits digits n) :
    Crosses depth (depth + 1) (['(', '?'] ++ (digits ++ [':'])) := by
  have opens : Crosses depth (depth + 1) ['('] := crosses_char (by decide) (by simp) (by simp) rfl
  have mark : Crosses (depth + 1) (depth + 1) ['?'] := crosses_plain _ (by decide)
  exact (opens.append mark).append ((crosses_digits _ number.all).append (crosses_colon depth))

/-- What is written for a branch is passed over as a whole. -/
theorem Written.crosses (written : Written inBranch pieces s) (inside : inBranch = true) (depth : Nat) :
    Crosses depth depth s := by
  induction written generalizing depth with
  | nil => exact .nil depth
  | plain solid rest ih =>
    refine (crosses_plain depth fun member => solid ?_).append (ih inside depth)
    simp only [List.mem_cons, List.not_mem_nil, or_false] at member
    rcases member with rfl | rfl | rfl | rfl
    · exact .inl rfl
    · exact .inr (.inr (.inl ⟨rfl, .inl inside⟩))
    · exact .inr (.inr (.inr ⟨inside, .inl rfl⟩))
    · exact .inr (.inr (.inr ⟨inside, .inr rfl⟩))
  | escaped solid rest ih => exact (crosses_escaped depth _).append (ih inside depth)
  | group number ends rest ih =>
    exact (crosses_plain depth (by decide)).append ((crosses_digits depth number.all).append (ih inside depth))
  | lineFeed rest ih => exact (crosses_escaped depth _).append (ih inside depth)
  | indent rest ih => exact (crosses_escaped depth _).append (ih inside depth)
  | foldNext letters rest ih => exact (crosses_escaped depth _).append (ih inside depth)
  | foldOn letters rest ih => exact (crosses_escaped depth _).append (ih inside depth)
  | foldOff rest ih => exact (crosses_escaped depth _).append (ih inside depth)
  | choose number one other rest first second after =>
    have branches := (first rfl (depth + 1)).append
      ((crosses_colon depth).append ((second rfl (depth + 1)).append (crosses_close depth)))
    simpa using ((crosses_asks depth number).append branches).append (after inside depth)
  | chooseOne number one rest first after =>
    have branches := (first rfl (depth + 1)).append (crosses_close depth)
    simpa using ((crosses_asks depth number).append branches).append (after inside depth)

/-- A branch ends where its text does. -/
theorem Written.branch_eq (written : Written true pieces s) {colon : Bool} {c : Char}
    (ends : c = ')' ∨ c = ':' ∧ colon = true) (k : List Char) : branch colon 0 (s ++ c :: k) = some (s, c, k) := by
  have last : branch colon 0 (c :: k) = some ([], c, k) := by
    rcases ends with rfl | ⟨rfl, rfl⟩
    · rw [branch] <;> simp
    · rw [branch] <;> simp
  rw [written.crosses rfl 0 colon, last]
  simp

/-! ## Numbers and conditionals -/

theorem takeWhile_digits (all : ∀ d ∈ digits, d.isDigit = true) (ends : startsDigit s = false) :
    (digits ++ s).takeWhile Char.isDigit = digits := by
  rw [List.takeWhile_append_of_pos all]
  cases s with
  | nil => simp
  | cons c s =>
    have other : ¬ c.isDigit = true := by simpa [startsDigit] using ends
    rw [List.takeWhile_cons_of_neg other, List.append_nil]

theorem Digits.groupNumber (number : Digits digits n) (ends : startsDigit s = false) :
    groupNumber (digits ++ s) = some (n.toNat, s) := by
  have value : digits.foldl (fun n c => n * 10 + (c.toNat - '0'.toNat)) 0 = n.toNat := number.value
  simp only [Format.groupNumber, takeWhile_digits number.all ends, value]
  rw [if_pos ⟨number.some_, n.toNat_lt⟩, List.drop_left]

theorem groupNumber_of_not_startsDigit (ends : startsDigit s = false) : Format.groupNumber s = none := by
  have none_ := @takeWhile_digits s [] nofun ends
  rw [List.nil_append] at none_
  simp [Format.groupNumber, none_]

theorem conditional_eq (number : Digits digits n) (one : Written true first s) (other : Written true second t)
    (k : List Char) :
    conditional (digits ++ ':' :: (s ++ ':' :: (t ++ ')' :: k))) = some (n.toNat, s, t, k) := by
  rw [conditional, number.groupNumber rfl]
  simp only [Option.bind_eq_bind, Option.bind_some, one.branch_eq (.inr ⟨rfl, rfl⟩),
    other.branch_eq (.inl rfl), if_true]
  rfl

theorem conditional_eq_one (number : Digits digits n) (one : Written true first s) (k : List Char) :
    conditional (digits ++ ':' :: (s ++ ')' :: k)) = some (n.toNat, s, [], k) := by
  rw [conditional, number.groupNumber rfl]
  simp only [Option.bind_eq_bind, Option.bind_some, one.branch_eq (.inl rfl)]
  rfl

/-! ## Signs -/

namespace Sign

/-- How characters are changed behind signs, which are given with the latest first. -/
def folding (before : List Sign) : Folding := ⟨pending before, lasting before⟩

theorem say_append (before signs more : List Sign) :
    say before (signs ++ more) = say before signs ++ say (signs.reverse ++ before) more := by
  induction signs generalizing before with
  | nil => rfl
  | cons sign signs ih => simp [say, ih]

/-- Changing the characters of a text is saying them one after the other. -/
theorem fold_folding (before : List Sign) (s : List Char) :
    (folding before).fold s = (say before (s.map .char), folding ((s.map .char).reverse ++ before)) := by
  induction s generalizing before with
  | nil => rfl
  | cons c s ih =>
    have spent : ({ folding before with next := none } : Folding) = folding (.char c :: before) := rfl
    rw [Folding.fold, spent, ih]
    simp [say, text, folding]

end Sign

/-! ## Expanding -/

section Expanding
variable (group : Nat → Option (List Char)) (indentUnit : List Char)

/-- Did a group take some text? -/
def tookText (n : Nat) : Bool := (group n).getD [] != []

/-- Behind any signs, a text with fuel enough is expanded to what signs say, with the folding as they leave it. -/
def Expands (format : List Char) (signs : List Sign) : Prop :=
  ∀ fuel before, format.length < fuel → expandFrom group indentUnit fuel (Sign.folding before) format =
    (Sign.say before signs, Sign.folding (signs.reverse ++ before))

variable {group indentUnit} {signs : List Sign} {c : Char}

theorem expands_nil : Expands group indentUnit [] [] := by
  intro fuel before enough
  obtain ⟨fuel, rfl⟩ := Nat.exists_eq_add_of_lt enough
  rw [expandFrom]
  rfl

/-- Signs are said before what the rest of a text says, if expanding the text says them and goes on with the rest. -/
theorem Expands.before (h : Expands group indentUnit s signs) (new : List Sign) (shorter : s.length < format.length)
    (reads : ∀ fuel before, format.length ≤ fuel → expandFrom group indentUnit (fuel + 1) (Sign.folding before) format =
      (Sign.say before new ++ (expandFrom group indentUnit fuel (Sign.folding (new.reverse ++ before)) s).1,
        (expandFrom group indentUnit fuel (Sign.folding (new.reverse ++ before)) s).2)) :
    Expands group indentUnit format (new ++ signs) := by
  intro fuel before enough
  obtain ⟨fuel, rfl⟩ := Nat.exists_eq_succ_of_ne_zero (Nat.ne_zero_of_lt enough)
  rw [reads fuel before (Nat.le_of_lt_succ enough), h fuel _ (by omega), Sign.say_append]
  simp

/-- A character that is no markup stands for itself. -/
theorem Expands.plain (h : Expands group indentUnit s signs) (solid : ¬ IsMarkup inBranch c s) :
    Expands group indentUnit (c :: s) (.char c :: signs) := by
  simp only [IsMarkup, not_or, not_and] at solid
  obtain ⟨backslash, dollar, opens, -⟩ := solid
  refine h.before [.char c] (Nat.lt_succ_self _) fun fuel before enough => ?_
  have folded : (Sign.folding before).fold [c] = _ := Sign.fold_folding before [c]
  by_cases money : c = '$'
  · subst money
    have ends : startsDigit s = false := by simpa using dollar rfl
    rw [expandFrom]
    simp only [groupNumber_of_not_startsDigit ends, folded]
    rfl
  · rw [expandFrom]
    · simp only [folded]
      rfl
    · exact money
    · exact fun same _ => backslash same
    · exact fun _ _ same _ => backslash same
    · rintro rest same rfl
      exact (opens same).2 rfl

theorem Expands.escaped (h : Expands group indentUnit s signs) (solid : isDirective c = false) :
    Expands group indentUnit ('\\' :: c :: s) (.char c :: signs) := by
  have folded (before : List Sign) : (Sign.folding before).fold [c] = _ := Sign.fold_folding before [c]
  simp only [isDirective, List.contains_cons, List.contains_nil, Bool.or_false, Bool.or_eq_false_iff,
    beq_eq_false_iff_ne] at solid
  refine h.before [.char c] (by simp only [List.length_cons]; omega) fun fuel before enough => ?_
  rw [expandFrom]
  · simp only [folded]
    rfl
  all_goals simp_all

theorem Expands.took (h : Expands group indentUnit s signs) (number : Digits digits n) (ends : startsDigit s = false) :
    Expands group indentUnit ('$' :: (digits ++ s)) (((group n.toNat).getD []).map .char ++ signs) := by
  refine h.before _ (by simp only [List.length_cons, List.length_append]; omega) fun fuel before enough => ?_
  have folded := Sign.fold_folding before ((group n.toNat).getD [])
  rw [expandFrom]
  simp only [number.groupNumber ends, folded]

theorem Expands.verbatim (h : Expands group indentUnit s signs) {t : List Char}
    (reads : ∀ fuel before, expandFrom group indentUnit (fuel + 1) (Sign.folding before) ('\\' :: c :: s) =
      (t ++ (expandFrom group indentUnit fuel (Sign.folding before) s).1,
        (expandFrom group indentUnit fuel (Sign.folding before) s).2)) :
    Expands group indentUnit ('\\' :: c :: s) (.verbatim t :: signs) := by
  refine h.before [.verbatim t] (by simp only [List.length_cons]; omega) fun fuel before _ => ?_
  rw [reads, Sign.say, Sign.say, List.append_nil]
  rfl

/-- A sign that says nothing changes how characters are changed. -/
theorem Expands.fold (h : Expands group indentUnit s signs) {sign : Sign} (silent : ∀ before, sign.text before = [])
    (reads : ∀ fuel before, expandFrom group indentUnit (fuel + 1) (Sign.folding before) ('\\' :: c :: s) =
      expandFrom group indentUnit fuel (Sign.folding (sign :: before)) s) :
    Expands group indentUnit ('\\' :: c :: s) (sign :: signs) := by
  refine h.before [sign] (by simp only [List.length_cons]; omega) fun fuel before _ => ?_
  rw [reads, Sign.say, Sign.say, silent]
  rfl

/-- A conditional says its first branch if its group took some text, and its second one otherwise. -/
theorem Expands.choose {first second behind : List Char} {one other : List Sign}
    (h : Expands group indentUnit behind signs) (found : conditional s = some (n.toNat, first, second, behind))
    (ahead : Expands group indentUnit first one) (instead : Expands group indentUnit second other)
    (lengths : first.length < s.length ∧ second.length < s.length ∧ behind.length < s.length) :
    Expands group indentUnit ('(' :: '?' :: s) ((if tookText group n.toNat then one else other) ++ signs) := by
  obtain ⟨short, short', shorter⟩ := lengths
  refine h.before _ (by simp only [List.length_cons]; omega) fun fuel before enough => ?_
  simp only [List.length_cons] at enough
  rw [expandFrom]
  simp only [found]
  by_cases took : (group n.toNat).getD [] = []
  · have no : tookText group n.toNat = false := by simp [tookText, took]
    simp only [if_pos took, no, Bool.false_eq_true, if_false, instead fuel before (by omega)]
  · have yes : tookText group n.toNat = true := by simpa [tookText] using took
    simp only [if_neg took, yes, if_true, ahead fuel before (by omega)]

/-- A written format is expanded to what the signs of its parts say. -/
theorem Written.expands (written : Written inBranch pieces s) :
    Expands group indentUnit s (Piece.signsAll group indentUnit (tookText group) pieces) := by
  induction written with
  | nil => exact expands_nil
  | plain solid rest ih => exact ih.plain solid
  | escaped solid rest ih => exact ih.escaped solid
  | group number ends rest ih => exact ih.took number ends
  | lineFeed rest ih =>
    exact ih.verbatim fun fuel before => by rw [expandFrom]
  | indent rest ih =>
    exact ih.verbatim fun fuel before => by rw [expandFrom]
  | foldNext letters rest ih =>
    refine ih.fold (fun _ => rfl) fun fuel before => ?_
    cases letters <;> (rw [Letters.nextSign, expandFrom]; rfl)
  | foldOn letters rest ih =>
    refine ih.fold (fun _ => rfl) fun fuel before => ?_
    cases letters <;> (rw [Letters.lastingSign, expandFrom]; rfl)
  | foldOff rest ih =>
    refine ih.fold (fun _ => rfl) fun fuel before => ?_
    rw [expandFrom]
    rfl
  | choose number one other rest ahead instead behind =>
    refine behind.choose (conditional_eq number one other _) ahead instead ?_
    simp only [List.length_append, List.length_cons]
    omega
  | chooseOne number one rest ahead behind =>
    refine behind.choose (conditional_eq_one number one _) ahead expands_nil ?_
    simp only [List.length_append, List.length_cons, List.length_nil]
    omega

end Expanding

/-! ## Printing -/

/-- What starts with a digit is written with a backslash before it as well. -/
theorem Written.guardDigit (written : Written inBranch pieces s) :
    Written inBranch pieces (guardDigit s) ∧ startsDigit (guardDigit s) = false := by
  rw [Format.guardDigit]
  split
  · next digit =>
    refine ⟨?_, rfl⟩
    cases written with
    | nil => simp [startsDigit] at digit
    | @plain _ c pieces s solid rest =>
      refine .escaped ?_ rest
      have digit : c.isDigit = true := by simpa [startsDigit] using digit
      refine Bool.eq_false_iff.mpr fun directive => ?_
      have letters : ['n', 't', 'u', 'l', 'U', 'L', 'E'].all (fun d => !d.isDigit) = true := rfl
      have letter := List.all_eq_true.1 letters c (List.contains_iff_mem.mp directive)
      rw [digit] at letter
      cases letter
    | _ => simp [startsDigit] at digit
  · next other => exact ⟨written, by simpa using other⟩

theorem digits_toDigits (n : UInt64) : Digits (Nat.toDigits 10 n.toNat) n :=
  ⟨Nat.toDigits_ne_nil, fun _ => PropertyList.isDigit_of_mem_toDigits, TemplateReader.digitsValue_toDigits n.toNat⟩

mutual

/-- A part is written as it is printed, before whatever is written behind it. -/
theorem Piece.written_print (inBranch : Bool) {pieces : List Piece} {s : List Char} (rest : Written inBranch pieces s) :
    ∀ piece : Piece, Written inBranch (piece :: pieces) (piece.print s)
  | .literal c => by
    rw [print]
    split
    · next markup =>
      refine .escaped ?_ rest
      simp at markup
      rcases markup with rfl | rfl | rfl | rfl | rfl <;> rfl
    · next solid =>
      refine .plain ?_ rest
      simp at solid
      simp [IsMarkup, solid]
  | .group n => by
    rw [print]
    exact .group (digits_toDigits n) rest.guardDigit.2 rest.guardDigit.1
  | .lineFeed => .lineFeed rest
  | .indent => .indent rest
  | .foldNext letters => .foldNext letters rest
  | .foldOn letters => .foldOn letters rest
  | .foldOff => .foldOff rest
  | .choose n first second => by
    rw [print]
    exact .choose (digits_toDigits n) (written_printAll true first) (written_printAll true second) rest

/-- Parts are written as they are printed. -/
theorem Piece.written_printAll (inBranch : Bool) : ∀ pieces : List Piece, Written inBranch pieces (printAll pieces)
  | [] => .nil inBranch
  | piece :: pieces => by
    rw [printAll]
    exact written_print inBranch (written_printAll inBranch pieces) piece

end

/-! ## Conditionals -/

section Conditionals
variable {group : Nat → Option (List Char)} {indentUnit : List Char}

mutual

/-- What a part says only depends on what its conditionals choose. -/
theorem Piece.signs_congr {takes takes' : Nat → Bool} :
    ∀ piece : Piece, (∀ n ∈ piece.asked, takes n = takes' n) →
      piece.signs group indentUnit takes = piece.signs group indentUnit takes'
  | .choose n first second, same => by
    simp only [asked, List.mem_cons, List.mem_append] at same
    rw [signs, signs, same _ (.inl rfl), signsAll_congr first fun n member => same n (.inr (.inl member)),
      signsAll_congr second fun n member => same n (.inr (.inr member))]
  | .literal _, _ | .group _, _ | .lineFeed, _ | .indent, _ | .foldNext _, _ | .foldOn _, _ | .foldOff, _ => by
    simp only [signs]

theorem Piece.signsAll_congr {takes takes' : Nat → Bool} :
    ∀ pieces : List Piece, (∀ n ∈ askedAll pieces, takes n = takes' n) →
      signsAll group indentUnit takes pieces = signsAll group indentUnit takes' pieces
  | [], _ => rfl
  | piece :: pieces, same => by
    simp only [askedAll, List.mem_append] at same
    rw [signsAll, signsAll, signs_congr piece fun n member => same n (.inl member),
      signsAll_congr pieces fun n member => same n (.inr member)]

end

end Conditionals

/-- Parts are written as they are printed, and however they are written, the format is expanded to what they say with
conditionals that choose by whether a group took some text. So it says what they say with conditionals that choose by
whether a group took part in the match, as long as they ask for no group that matched the empty text. -/
theorem expand_written (group : Nat → Option (List Char)) (indentUnit : List Char) (pieces : List Piece) :
    Written false pieces (Piece.printAll pieces) ∧
      ∀ format, Written false pieces format →
        expand format group indentUnit = meaning group indentUnit (tookText group) pieces ∧
          ((∀ n ∈ Piece.askedAll pieces, group n ≠ some []) →
            expand format group indentUnit = meaning group indentUnit (fun n => (group n).isSome) pieces) := by
  refine ⟨Piece.written_printAll false pieces, fun format written => ?_⟩
  have said : expand format group indentUnit = meaning group indentUnit (tookText group) pieces := by
    have expanded : Expands group indentUnit format _ := written.expands
    rw [expand, show ({} : Folding) = Sign.folding [] from rfl, expanded _ [] (Nat.lt_succ_self _), meaning]
  refine ⟨said, fun matched => said.trans ?_⟩
  have same : ∀ n ∈ Piece.askedAll pieces, tookText group n = (group n).isSome := by
    intro n member
    have full := matched n member
    rw [tookText]
    rcases h : group n with _ | _ | ⟨c, s⟩
    · rfl
    · exact absurd h full
    · rfl
  rw [meaning, meaning, Piece.signsAll_congr pieces same]

/-- Case runs out of a branch that is itself inside one, and a missing group says nothing. -/
theorem expand_nested_branches :
    let group : Nat → Option (List Char) := fun n => [some ['q', 'r'], none][n]?.join
    let pieces : List Piece :=
      [.choose 0 [.foldOn .upper, .choose 1 [.group 1] [.literal ':', .foldNext .lower]] [], .lineFeed, .group 0, .foldOff,
        .literal '1', .group 0]
    let format := "(?0:\\U(?1:$1:\\:\\l):)\\n$0\\E1$0".toList
    Written false pieces format ∧ (∀ n ∈ Piece.askedAll pieces, group n ≠ some []) ∧
      expand format group [] = ":\nqR1qr".toList := by
  intro group pieces format
  obtain ⟨printed, said⟩ := expand_written group [] pieces
  have asked : ∀ n ∈ Piece.askedAll pieces, group n ≠ some [] := by decide
  exact ⟨printed, asked, ((said format printed).2 asked).trans (by decide +kernel)⟩

/-- A group that matched the empty text took part in the match, and yet its conditional says the second branch. -/
theorem expand_empty_group :
    let text := #['y']
    let pieces : List Piece := [.choose 1 [.literal 'y', .literal 'e', .literal 's'] [.literal 'n', .literal 'o']]
    ∃ (program : Array Regex.Instruction) (found : Regex.Match), Regex.compile? "(x*)y" {} = some program ∧
      Regex.find? program text 0 = some found ∧ found.group? text 1 = some [] ∧
      Written false pieces "(?1:yes:no)".toList ∧
      meaning (found.group? text) [] (fun n => (found.group? text n).isSome) pieces = "yes".toList ∧
      expand "(?1:yes:no)".toList (found.group? text) [] = "no".toList := by
  refine ⟨_, _, rfl, rfl, rfl, Piece.written_printAll false _, rfl, rfl⟩

end EditorBundles.Snippet.Format
