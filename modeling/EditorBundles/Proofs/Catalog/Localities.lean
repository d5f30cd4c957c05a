import EditorBundles.Catalog.Locality
import Mathlib.Data.List.TakeWhile
import Mathlib.Tactic.IntervalCases

/-!
# Localities read back from their text

A set of flags is read back from the names of its flags, and from the number that stands for its unnamed ones.
Each part of the text stands for a set of its own, however many blanks there are around it.
-/

namespace EditorBundles.Catalog.Locality
set_option autoImplicit false

/-- No unnamed flag is at the place of a named one. -/
def Apart (s : Locality) : Prop := s.unnamed &&& 0x1F = 0

/-! ## Blanks around a part -/

theorem trim_pad {front back cs : List Char} (before : ∀ c ∈ front, Text.isBlank c = true)
    (after : ∀ c ∈ back, Text.isBlank c = true) (some_ : cs ≠ []) (solid : ∀ c ∈ cs, Text.isBlank c = false) :
    Text.trim (front ++ (cs ++ back)) = cs := by
  have stays {cs : List Char} (some_ : cs ≠ []) (solid : ∀ c ∈ cs, Text.isBlank c = false) (k : List Char) :
      (cs ++ k).dropWhile Text.isBlank = cs ++ k := by
    cases cs with
    | nil => exact absurd rfl some_
    | cons c cs => rw [List.cons_append, List.dropWhile_cons, solid c List.mem_cons_self, if_neg Bool.false_ne_true]
  have turned : ∀ c ∈ cs.reverse, Text.isBlank c = false := fun c member => solid c (List.mem_reverse.1 member)
  have ends : ∀ c ∈ back.reverse, Text.isBlank c = true := fun c member => after c (List.mem_reverse.1 member)
  have last := stays (List.reverse_ne_nil_iff.2 some_) turned []
  rw [List.append_nil] at last
  rw [Text.trim, List.dropWhile_append_of_pos before, stays some_ solid, List.reverse_append,
    List.dropWhile_append_of_pos ends, last, List.reverse_reverse]

/-- A text without blanks is its own middle. -/
theorem trim_solid {cs : List Char} (some_ : cs ≠ []) (solid : ∀ c ∈ cs, Text.isBlank c = false) : Text.trim cs = cs := by
  have none_ : ∀ c ∈ ([] : List Char), Text.isBlank c = true := by simp
  have trimmed := trim_pad none_ none_ some_ solid
  rwa [List.append_nil, List.nil_append] at trimmed

/-- Something is left of a text that is not all blank. -/
theorem trim_ne_nil {cs : List Char} {c : Char} (member : c ∈ cs) (solid : Text.isBlank c = false) : Text.trim cs ≠ [] := by
  intro nothing
  have blank : ∀ c ∈ cs.dropWhile Text.isBlank, Text.isBlank c = true := by
    intro c inside
    exact List.dropWhile_eq_nil_iff.1 (List.reverse_eq_nil_iff.1 nothing) c (List.mem_reverse.2 inside)
  have gone : cs.dropWhile Text.isBlank = [] := by
    cases left : cs.dropWhile Text.isBlank with
    | nil => rfl
    | cons c' rest =>
      have first := List.head?_dropWhile_not Text.isBlank cs
      rw [left] at first blank
      exact absurd (blank c' List.mem_cons_self) (by simpa using first)
  have all := List.dropWhile_eq_nil_iff.1 gone c member
  rw [solid] at all
  cases all

/-! ## Parts -/

/-- The part of a text stands for a set. -/
structure StandsFor (part : String) (s : Locality) : Prop where
  present : part.toList ≠ []
  solid : ∀ c ∈ part.toList, Text.isBlank c = false
  whole : '|' ∉ part.toList
  parsed : parsePart? part.toList = some s

namespace StandsFor

variable {part : String} {s : Locality}

theorem parsed_pad (h : StandsFor part s) {front back : List Char} (before : ∀ c ∈ front, c = ' ') (after : ∀ c ∈ back, c = ' ') :
    parsePart? (front ++ (part.toList ++ back)) = some s := by
  have blank {cs : List Char} (spaces : ∀ c ∈ cs, c = ' ') : ∀ c ∈ cs, Text.isBlank c = true := by
    intro c member
    rw [spaces c member]
    rfl
  have padded := trim_pad (blank before) (blank after) h.present h.solid
  have parsed := h.parsed
  rw [parsePart?, trim_solid h.present h.solid] at parsed
  rw [parsePart?, padded]
  exact parsed

/-- Whether a name has blanks is found out character by character. -/
theorem named (present : part.toList ≠ []) (solid : part.toList.any Text.isBlank = false) (whole : '|' ∉ part.toList)
    (parsed : parsePart? part.toList = some s) : StandsFor part s :=
  ⟨present, fun c member => Bool.eq_false_iff.2 (List.any_eq_false.1 solid c member), whole, parsed⟩

end StandsFor

/-- Parts between bars are parsed one after the other. -/
theorem mapM_parsePart? {parts : List (String × Locality)} (each : ∀ p ∈ parts, StandsFor p.1 p.2) (some_ : parts ≠ [])
    (front : List Char) (before : ∀ c ∈ front, c = ' ') :
    ((front ++ (String.intercalate " | " (parts.map Prod.fst)).toList).splitOnP (· = '|')).mapM parsePart? =
      some (parts.map Prod.snd) := by
  have unbarred {front : List Char} (before : ∀ c ∈ front, c = ' ') : '|' ∉ front := by
    intro member
    cases before _ member
  induction parts generalizing front with
  | nil => exact absurd rfl some_
  | cons p parts ih =>
    have first := each p List.mem_cons_self
    cases parts with
    | nil =>
      have text : (String.intercalate " | " ([p].map Prod.fst)).toList = p.1.toList ++ [] := by simp
      have single : (front ++ (p.1.toList ++ [])).splitOnP (· = '|') = [front ++ (p.1.toList ++ [])] := by
        refine List.splitOnP_eq_singleton fun c member => decide_eq_false ?_
        rintro rfl
        rw [List.append_nil] at member
        rcases List.mem_append.1 member with pad | inside
        · exact unbarred before pad
        · exact first.whole inside
      rw [text, single, List.mapM_cons, first.parsed_pad before (by simp)]
      rfl
    | cons q parts =>
      have text : front ++ (String.intercalate " | " ((p :: q :: parts).map Prod.fst)).toList =
          (front ++ (p.1.toList ++ [' '])) ++ '|' ::
            ([' '] ++ (String.intercalate " | " ((q :: parts).map Prod.fst)).toList) := by
        simp [String.intercalate_cons_cons]
      have apart : ∀ c ∈ front ++ (p.1.toList ++ [' ']), decide (c = '|') = false := by
        intro c member
        apply decide_eq_false
        rintro rfl
        simp only [List.mem_append, List.mem_singleton] at member
        rcases member with pad | inside | space
        · exact unbarred before pad
        · exact first.whole inside
        · cases space
      have behind := ih (fun p member => each p (List.mem_cons_of_mem _ member)) (List.cons_ne_nil q parts)
        [' '] (by simp)
      rw [text, List.splitOnP_append_cons_of_forall_mem apart _ (by simp), List.mapM_cons, behind,
        first.parsed_pad before (by simp)]
      rfl

/-- A text of parts stands for all their sets together. -/
theorem parse?_intercalate {parts : List (String × Locality)} (each : ∀ p ∈ parts, StandsFor p.1 p.2) :
    parse? (String.intercalate " | " (parts.map Prod.fst)) = some ((parts.map Prod.snd).foldl union {}) := by
  cases parts with
  | nil => rfl
  | cons p parts =>
    have first := each p List.mem_cons_self
    have parsed := mapM_parsePart? each (List.cons_ne_nil p parts) [] (by simp)
    have inside : ∀ c ∈ p.1.toList, c ∈ (String.intercalate " | " ((p :: parts).map Prod.fst)).toList := by
      intro c member
      cases parts with
      | nil => simpa using member
      | cons q parts => simp [String.intercalate_cons_cons, member]
    obtain ⟨c, member⟩ := List.exists_mem_of_ne_nil _ first.present
    have left := trim_ne_nil (inside c member) (first.solid c member)
    rw [List.nil_append] at parsed
    rw [parse?, if_neg left, parsed]
    rfl

/-! ## Numbers of base 16 -/

theorem hexDigit?_digitChar {d : Nat} (small : d < 16) : hexDigit? (Nat.digitChar d) = some d := by
  interval_cases d <;> rfl

/-- The digits of a number are read one by one and make it up. -/
theorem mapM_hexDigit? (n : Nat) :
    ∃ values, (Nat.toDigits 16 n).mapM hexDigit? = some values ∧ values ≠ [] ∧
      values.foldl (fun n d => n * 16 + d) 0 = n := by
  induction n using Nat.strongRecOn with
  | ind n ih =>
    rw [Nat.toDigits_eq_if (by omega)]
    split
    · rename_i small
      refine ⟨[n], ?_, List.cons_ne_nil n [], ?_⟩
      · rw [List.mapM_cons, hexDigit?_digitChar small]
        rfl
      · rw [List.foldl_cons, List.foldl_nil, Nat.zero_mul, Nat.zero_add]
    · obtain ⟨values, read, -, value⟩ := ih (n / 16) (by omega)
      refine ⟨values ++ [n % 16], ?_, List.append_ne_nil_of_right_ne_nil values (List.cons_ne_nil _ []), ?_⟩
      · rw [List.mapM_append, read, List.mapM_cons, hexDigit?_digitChar (Nat.mod_lt n (by omega))]
        rfl
      · rw [List.foldl_append, value, List.foldl_cons, List.foldl_nil]
        omega

/-- A digit of base 16 is no mark. -/
theorem mem_toDigits {n : Nat} {c : Char} (member : c ∈ Nat.toDigits 16 n) : ∃ d < 16, c = Nat.digitChar d := by
  induction n using Nat.strongRecOn with
  | ind n ih =>
    rw [Nat.toDigits_eq_if (by omega)] at member
    split at member
    · rename_i small
      exact ⟨n, small, List.mem_singleton.1 member⟩
    · rcases List.mem_append.1 member with front | last
      · exact ih (n / 16) (by omega) front
      · exact ⟨n % 16, Nat.mod_lt n (by omega), List.mem_singleton.1 last⟩

theorem parseHex?_toDigits (u : UInt32) : parseHex? (Nat.toDigits 16 u.toNat) = some u := by
  obtain ⟨values, read, some_, value⟩ := mapM_hexDigit? u.toNat
  have unsigned : (Nat.toDigits 16 u.toNat).head? ≠ some '+' := by
    intro sign
    obtain ⟨d, small, same⟩ := mem_toDigits (List.mem_of_mem_head? sign)
    interval_cases d <;> cases same
  have bound := u.toNat_lt
  rw [parseHex?, if_neg unsigned, read]
  show (if values = [] ∨ 0x100000000 ≤ _ then none else some (UInt32.ofNat _)) = some u
  rw [value, if_neg (by rintro (none_ | large); exacts [some_ none_, by omega]), UInt32.ofNat_toNat]

/-! ## Sets -/

theorem standsFor_pristine : StandsFor "PRISTINE" { pristine := true } :=
  .named (by decide) (by decide) (by decide) rfl

theorem standsFor_own : StandsFor "LOCAL" { own := true } :=
  .named (by decide) (by decide) (by decide) rfl

theorem standsFor_disabled : StandsFor "DISABLED" { disabled := true } :=
  .named (by decide) (by decide) (by decide) rfl

theorem standsFor_deleted : StandsFor "DELETED" { deleted := true } :=
  .named (by decide) (by decide) (by decide) rfl

theorem standsFor_installed : StandsFor "INSTALLED" { installed := true } :=
  .named (by decide) (by decide) (by decide) rfl

/-- Bits that are at no place of a named flag are all unnamed. -/
theorem ofBits_of_apart {u : UInt32} (apart : u &&& 0x1F = 0) : ofBits u = { unnamed := u } := by
  have off (mask : UInt32) (named : 0x1F &&& mask = mask) : u &&& mask = 0 := by
    rw [← named, ← UInt32.and_assoc, apart, UInt32.zero_and]
  have rest : u &&& 0xFFFFFFE0 = u := by
    apply UInt32.toNat_inj.1
    apply Nat.eq_of_testBit_eq
    intro i
    have low : (u.toNat &&& 31).testBit i = false := by
      rw [show u.toNat &&& 31 = (u &&& 0x1F).toNat from rfl, apart]
      exact Nat.zero_testBit i
    have high : 32 ≤ i → u.toNat.testBit i = false := by
      intro far
      exact Nat.testBit_lt_two_pow (Nat.lt_of_lt_of_le u.toNat_lt (Nat.pow_le_pow_right (by decide) far))
    rw [show (u &&& 0xFFFFFFE0).toNat = u.toNat &&& 4294967264 from rfl, Nat.testBit_and]
    rw [Nat.testBit_and] at low
    -- the five named places are empty, and there are no more than thirty-two
    by_cases near : i < 32
    · have either : (31).testBit i = true ∨ (4294967264).testBit i = true :=
        (by decide : ∀ i < 32, (31).testBit i = true ∨ (4294967264).testBit i = true) i near
      rcases either with named | unnamed
      · rw [named, Bool.and_true] at low
        rw [low, Bool.false_and]
      · rw [unnamed, Bool.and_true]
    · rw [high (Nat.not_lt.1 near), Bool.false_and]
  rw [ofBits, off 1 (by decide), off 2 (by decide), off 4 (by decide), off 8 (by decide), off 16 (by decide), rest]
  rfl

theorem standsFor_unnamed {u : UInt32} (apart : u &&& 0x1F = 0) :
    StandsFor ("0x" ++ String.ofList (Nat.toDigits 16 u.toNat)) { unnamed := u } := by
  have text : ("0x" ++ String.ofList (Nat.toDigits 16 u.toNat)).toList = '0' :: 'x' :: Nat.toDigits 16 u.toNat := by simp
  have digits (c : Char) (member : c ∈ Nat.toDigits 16 u.toNat) : Text.isBlank c = false ∧ c ≠ '|' := by
    obtain ⟨d, small, rfl⟩ := mem_toDigits member
    interval_cases d <;> decide
  have solid : ∀ c ∈ '0' :: 'x' :: Nat.toDigits 16 u.toNat, Text.isBlank c = false := by
    intro c member
    rcases List.mem_cons.1 member with rfl | member
    · rfl
    · rcases List.mem_cons.1 member with rfl | member
      · rfl
      · exact (digits c member).1
  refine ⟨?_, ?_, ?_, ?_⟩
  · rw [text]
    exact List.cons_ne_nil _ _
  · rw [text]
    exact solid
  · rw [text]
    simp only [List.mem_cons, not_or]
    exact ⟨by decide, by decide, fun member => (digits _ member).2 rfl⟩
  · rw [text, parsePart?, trim_solid (List.cons_ne_nil _ _) solid]
    show (parseHex? (Nat.toDigits 16 u.toNat)).map ofBits = _
    rw [parseHex?_toDigits, Option.map_some, ofBits_of_apart apart]

/-- The parts of a set's text, each with the set that it stands for. -/
def standing (s : Locality) : List (String × Locality) :=
  (if s.pristine then [("PRISTINE", { pristine := true })] else [])
    ++ (if s.own then [("LOCAL", { own := true })] else [])
    ++ (if s.disabled then [("DISABLED", { disabled := true })] else [])
    ++ (if s.deleted then [("DELETED", { deleted := true })] else [])
    ++ (if s.installed then [("INSTALLED", { installed := true })] else [])
    ++ (if s.unnamed = 0 then [] else
      [("0x" ++ String.ofList (Nat.toDigits 16 s.unnamed.toNat), { unnamed := s.unnamed : Locality })])

theorem map_fst_standing (s : Locality) : s.standing.map Prod.fst = s.parts := by
  simp only [standing, parts, List.map_append, apply_ite (List.map Prod.fst), List.map_cons, List.map_nil]

theorem standsFor_of_mem_standing {s : Locality} (apart : s.Apart) : ∀ p ∈ s.standing, StandsFor p.1 p.2 := by
  have optional (b : Prop) [Decidable b] (p : String × Locality) (stands : StandsFor p.1 p.2) :
      ∀ q ∈ (if b then [p] else []), StandsFor q.1 q.2 := by
    split <;> simp [stands]
  simp only [standing, List.forall_mem_append]
  refine ⟨⟨⟨⟨⟨?_, ?_⟩, ?_⟩, ?_⟩, ?_⟩, ?_⟩
  · exact optional _ _ standsFor_pristine
  · exact optional _ _ standsFor_own
  · exact optional _ _ standsFor_disabled
  · exact optional _ _ standsFor_deleted
  · exact optional _ _ standsFor_installed
  · split
    · simp
    · rw [List.forall_mem_singleton]
      exact standsFor_unnamed apart

/-- What the parts stand for makes the set up. -/
theorem foldl_union_standing (s : Locality) : (s.standing.map Prod.snd).foldl union {} = s := by
  obtain ⟨pristine, own, disabled, deleted, installed, unnamed⟩ := s
  by_cases none_ : unnamed = 0
  · subst none_
    cases pristine <;> cases own <;> cases disabled <;> cases deleted <;> cases installed <;> rfl
  · cases pristine <;> cases own <;> cases disabled <;> cases deleted <;> cases installed <;>
      simp [standing, union, none_]

/-- A set is read back from its text. -/
theorem parse?_print {s : Locality} (apart : s.Apart) : parse? s.print = some s := by
  have parsed := parse?_intercalate (standsFor_of_mem_standing apart)
  rw [map_fst_standing, foldl_union_standing] at parsed
  exact parsed

end EditorBundles.Catalog.Locality
