import EditorBundles.Snippet.Substitution

/-!
# Replacing matches loses nothing

A substitution goes from match to match and replaces them, the first one or all. All that it asks of its search is that a
match lies behind the position where the search began, in order and inside the text. The matches that it meets are then
disjoint and increase, and the result is the text with them replaced: what stands between them, and what is passed over
behind an empty match, is there once and in its order. Replacing each match by itself gives the text back.
-/

namespace EditorBundles.Snippet
set_option autoImplicit false
open Regex (Match)

/-- What a search finds lies behind the position where it began, in order and inside a text of a size. -/
def InBounds (find : Nat → Option Match) (size : Nat) : Prop :=
  ∀ position m, find position = some m → position ≤ m.start ∧ m.start ≤ m.stop ∧ m.stop ≤ size

/-- Where the search goes on behind a match: one character further if the match is empty and there is one. -/
def resumesAt (size : Nat) (m : Match) : Nat := if m.start = m.stop then min (m.stop + 1) size else m.stop

/-- The matches that are met from a position on, until there are no more, the text ends, or one is enough. -/
inductive Meets (find : Nat → Option Match) (size : Nat) (everywhere : Bool) : Nat → List Match → Prop where
  | missing {position : Nat} (none_ : find position = none) : Meets find size everywhere position []
  | last {position : Nat} {m : Match} (found : find position = some m)
      (ends : size ≤ resumesAt size m ∨ everywhere = false) : Meets find size everywhere position [m]
  | further {position : Nat} {m : Match} {ms : List Match} (found : find position = some m)
      (inside : resumesAt size m < size) (all : everywhere = true)
      (rest : Meets find size everywhere (resumesAt size m) ms) : Meets find size everywhere position (m :: ms)

/-- The text from a position on, with what `render` makes of matches in their places. -/
def weave (render : Match → List Char) (text : Array Char) (position : Nat) : List Match → List Char
  | [] => (text.extract position).toList
  | m :: ms => (text.extract position m.start).toList ++ render m ++ weave render text m.stop ms

/-- The text that a match takes. -/
def matched (text : Array Char) (m : Match) : List Char := (text.extract m.start m.stop).toList

variable {find : Nat → Option Match} {render : Match → List Char} {text : Array Char} {everywhere : Bool}
  {size position : Nat} {m : Match} {ms : List Match}

/-! ## The matches -/

theorem resumesAt_bounds (order : m.start ≤ m.stop) (inside : m.stop ≤ size) :
    m.stop ≤ resumesAt size m ∧ resumesAt size m ≤ size ∧ (resumesAt size m < size → m.start < resumesAt size m) := by
  unfold resumesAt
  split <;> omega

namespace Meets

/-- All matches lie behind the position, in order and inside the text. -/
theorem bounds (met : Meets find size everywhere position ms) (bounds : InBounds find size) :
    ∀ m ∈ ms, position ≤ m.start ∧ m.start ≤ m.stop ∧ m.stop ≤ size := by
  induction met with
  | missing => exact fun m member => absurd member List.not_mem_nil
  | last found => exact fun m member => List.mem_singleton.1 member ▸ bounds _ _ found
  | @further position m ms found _ _ _ ih =>
    obtain ⟨first, order, inside⟩ := bounds _ _ found
    obtain ⟨behind, -, -⟩ := resumesAt_bounds order inside
    refine List.forall_mem_cons.2 ⟨⟨first, order, inside⟩, fun n member => ?_⟩
    obtain ⟨later, rest⟩ := ih n member
    exact ⟨by omega, rest⟩

/-- Each match is what the search found at some position. -/
theorem found (met : Meets find size everywhere position ms) : ∀ m ∈ ms, ∃ position, find position = some m := by
  induction met with
  | missing => exact fun m member => absurd member List.not_mem_nil
  | last found => exact fun m member => List.mem_singleton.1 member ▸ ⟨_, found⟩
  | further found _ _ _ ih => exact List.forall_mem_cons.2 ⟨⟨_, found⟩, ih⟩

/-- Each match ends before the next one starts, and none starts twice at one place. -/
theorem pairwise (met : Meets find size everywhere position ms) (bounds : InBounds find size) :
    ms.Pairwise fun m n => m.stop ≤ n.start ∧ m.start < n.start := by
  induction met with
  | missing => exact .nil
  | last => exact List.pairwise_singleton _ _
  | @further position m ms found goes_on _ rest ih =>
    obtain ⟨-, order, inside⟩ := bounds _ _ found
    obtain ⟨behind, -, moves⟩ := resumesAt_bounds order inside
    refine List.pairwise_cons.2 ⟨fun n member => ?_, ih⟩
    have later := (rest.bounds bounds n member).1
    have := moves goes_on
    omega

/-- There is at most one match for each place from the position on. -/
theorem length_le (met : Meets find size everywhere position ms) (bounds : InBounds find size) (within : position ≤ size) :
    ms.length + position ≤ size + 1 := by
  induction met with
  | missing =>
    rw [List.length_nil]
    omega
  | last =>
    rw [List.length_singleton]
    omega
  | @further position m ms found goes_on _ _ ih =>
    obtain ⟨first, order, inside⟩ := bounds _ _ found
    obtain ⟨-, upper, moves⟩ := resumesAt_bounds order inside
    have := moves goes_on
    have := ih upper
    rw [List.length_cons]
    omega

theorem length_le_one (met : Meets find size everywhere position ms) (once : everywhere = false) : ms.length ≤ 1 := by
  cases met with
  | missing => exact Nat.zero_le 1
  | last => exact Nat.le_refl 1
  | further _ _ all => exact Bool.noConfusion (once.symm.trans all)

end Meets

/-! ## The text -/

/-- A piece of a text and the piece behind it. -/
theorem extract_append_extract {a b c : Nat} (first : a ≤ b) (second : b ≤ c) :
    (text.extract a b).toList ++ (text.extract b c).toList = (text.extract a c).toList := by
  rw [← Array.toList_append, Array.extract_append_extract, Nat.min_eq_left first, Nat.max_eq_right second]

/-- What stands before the first match may be taken off. -/
theorem extract_append_weave {a b : Nat} (order : a ≤ b) (within : b ≤ text.size) (before : ∀ m ∈ ms, b ≤ m.start) :
    (text.extract a b).toList ++ weave render text b ms = weave render text a ms := by
  cases ms with
  | nil => exact extract_append_extract order within
  | cons m ms =>
    rw [weave, weave, ← extract_append_extract order (before m List.mem_cons_self)]
    simp only [List.append_assoc]

/-- Matches that are rendered alike are replaced alike. -/
theorem weave_congr {render' : Match → List Char} (same : ∀ m ∈ ms, render m = render' m) :
    weave render text position ms = weave render' text position ms := by
  induction ms generalizing position with
  | nil => rfl
  | cons m ms ih =>
    rw [List.forall_mem_cons] at same
    rw [weave, weave, same.1, ih same.2]

/-- Matches that stay as they are leave the text as it is. -/
theorem weave_matched (ordered : ∀ m ∈ ms, position ≤ m.start ∧ m.start ≤ m.stop ∧ m.stop ≤ text.size)
    (apart : ms.Pairwise fun m n => m.stop ≤ n.start ∧ m.start < n.start) :
    weave (matched text) text position ms = (text.extract position).toList := by
  induction ms generalizing position with
  | nil => rfl
  | cons m ms ih =>
    obtain ⟨⟨first, order, inside⟩, rest⟩ := List.forall_mem_cons.1 ordered
    obtain ⟨later, apart⟩ := List.pairwise_cons.1 apart
    rw [weave, matched, ih (fun n member => ⟨(later n member).1, (rest n member).2⟩) apart,
      extract_append_extract first order, extract_append_extract (Nat.le_trans first order) inside]

/-- What is passed over behind a match is the text up to where the search goes on. -/
theorem passed_eq (inside : m.stop ≤ text.size) :
    (if m.start = m.stop then (text.extract m.stop (m.stop + 1)).toList else []) =
      (text.extract m.stop (resumesAt text.size m)).toList := by
  unfold resumesAt
  split
  · simp only [Array.toList_extract, List.extract_eq_take_drop, List.take_eq_take_iff, List.length_drop, Array.length_toList]
    omega
  · simp

/-! ## The loop -/

/-- The loop meets its last match before the fuel is used up, and gives the text with the matches replaced. -/
theorem exists_meets_substituteFrom (bounds : InBounds find text.size) (render : Match → List Char) (everywhere : Bool)
    (fuel : Nat) (within : position ≤ text.size) (enough : text.size < position + fuel) :
    ∃ ms, Meets find text.size everywhere position ms ∧
      substituteFrom find render text everywhere fuel position = weave render text position ms := by
  induction fuel generalizing position with
  | zero => omega
  | succ fuel ih =>
    rw [substituteFrom]
    cases found : find position with
    | none => exact ⟨[], .missing found, rfl⟩
    | some m =>
      obtain ⟨first, order, inside⟩ := bounds _ _ found
      obtain ⟨behind, upper, moves⟩ := resumesAt_bounds order inside
      have next : m.stop + (text.extract m.stop (resumesAt text.size m)).toList.length = resumesAt text.size m := by
        simp only [Array.length_toList, Array.size_extract]
        omega
      simp only [passed_eq inside, next]
      split
      · rename_i ends
        refine ⟨[m], .last found (by simpa using ends), ?_⟩
        rw [weave, weave, List.append_assoc _ (text.extract m.stop _).toList, extract_append_extract behind upper]
      · rename_i goes_on
        rw [not_or, Nat.not_le] at goes_on
        have later := moves goes_on.1
        obtain ⟨ms, met, same⟩ := ih upper (by omega)
        refine ⟨m :: ms, .further found goes_on.1 (by simpa using goes_on.2) met, ?_⟩
        rw [same, weave, List.append_assoc _ (text.extract m.stop _).toList,
          extract_append_weave behind upper fun n member => (met.bounds bounds n member).1]

/-- A text is the result of replacing matches in another one: they were met one after the other, they are disjoint and
increase, nothing else is replaced, and without them being replaced the text is what it was. -/
structure Replaces (find : Nat → Option Match) (render : Match → List Char) (text : Array Char) (everywhere : Bool)
    (ms : List Match) (out : List Char) : Prop where
  met : Meets find text.size everywhere 0 ms
  inside : ∀ m ∈ ms, m.start ≤ m.stop ∧ m.stop ≤ text.size
  apart : ms.Pairwise fun m n => m.stop ≤ n.start ∧ m.start < n.start
  length_le : ms.length ≤ text.size + 1
  once : everywhere = false → ms.length ≤ 1
  whole : weave (matched text) text 0 ms = text.toList
  replaced : out = weave render text 0 ms

theorem exists_replaces (bounds : InBounds find text.size) (render : Match → List Char) (everywhere : Bool) :
    ∃ ms, Replaces find render text everywhere ms (substitute find render text everywhere) := by
  obtain ⟨ms, met, same⟩ := exists_meets_substituteFrom bounds render everywhere (text.size + 1)
    (Nat.zero_le text.size) (by omega)
  have inside := met.bounds bounds
  refine ⟨ms, met, fun m member => (inside m member).2, met.pairwise bounds, ?_, met.length_le_one, ?_, same⟩
  · exact met.length_le bounds (Nat.zero_le _)
  · rw [weave_matched inside (met.pairwise bounds)]
    simp

/-! ## Transforms -/

/-- The format that stands for the whole match gives it back. -/
theorem Format.expand_whole (group : Nat → Option (List Char)) (indentUnit : List Char) :
    Format.expand ['$', '0'] group indentUnit = (group 0).getD [] := by
  have unfolded (s : List Char) : ({} : Folding).fold s = (s, {}) := by
    induction s with
    | nil => rfl
    | cons c s ih =>
      rw [Folding.fold]
      simp only [ih]
      rfl
  have number : groupNumber ['0'] = some (0, []) := rfl
  rw [expand]
  simp [expandFrom, number, unfolded]

namespace Transform

/-- The input with the matches of a search replaced. -/
def applyTo (t : Transform) (find : Nat → Option Match) (input indentUnit : List Char) : List Char :=
  substitute find (fun m => Format.expand t.format (m.group? input.toArray) indentUnit) input.toArray t.isGlobal

/-- The first group of a match that was found is all of it. -/
theorem group?_of_find? {program : Array Regex.Instruction} (found : Regex.find? program text position = some m) :
    m.group? text 0 = some (matched text m) := by
  simp only [Regex.find?, Option.bind_eq_bind, Option.bind_eq_some_iff, Option.ite_none_right_eq_some,
    Option.some.injEq] at found
  obtain ⟨t, -, start, first, stop, second, -, rfl⟩ := found
  simp [Match.group?, first, second, matched]

/-- A transform replaces matches that are disjoint and increase, the first one or all, and leaves the rest of its input
alone, whatever its search is that keeps in bounds; its own search does. What is no pattern leaves the input as it is, and
so does the format that stands for the whole match. -/
theorem replaces_applyTo (t : Transform) (input indentUnit : List Char) :
    (∀ find, InBounds find input.length →
      (∃ ms, Replaces find (fun m => Format.expand t.format (m.group? input.toArray) indentUnit) input.toArray t.isGlobal ms
        (t.applyTo find input indentUnit)) ∧
      (t.format = ['$', '0'] →
        (∀ position m, find position = some m → m.group? input.toArray 0 = some (matched input.toArray m)) →
        t.applyTo find input indentUnit = input)) ∧
    (∀ program, t.program? = some program → InBounds (Regex.find? program input.toArray) input.length ∧
      t.apply input indentUnit = t.applyTo (Regex.find? program input.toArray) input indentUnit) ∧
    (t.program? = none → t.apply input indentUnit = input) ∧
    (t.format = ['$', '0'] → t.apply input indentUnit = input) := by
  have whole (find : Nat → Option Match) (bounds : InBounds find input.length) (format : t.format = ['$', '0'])
      (taken : ∀ position m, find position = some m → m.group? input.toArray 0 = some (matched input.toArray m)) :
      t.applyTo find input indentUnit = input := by
    have sized : InBounds find input.toArray.size := by simpa using bounds
    obtain ⟨ms, replaces⟩ := exists_replaces sized
      (fun m => Format.expand t.format (m.group? input.toArray) indentUnit) t.isGlobal
    rw [applyTo, replaces.replaced, weave_congr fun m member => ?_, replaces.whole]
    obtain ⟨position, found⟩ := replaces.met.found m member
    rw [format, Format.expand_whole, taken position m found, Option.getD_some]
  have own (program : Array Regex.Instruction) : InBounds (Regex.find? program input.toArray) input.length :=
    fun position m found => by simpa using Regex.bounds_of_find? found
  have applied (program : Array Regex.Instruction) (is : t.program? = some program) :
      t.apply input indentUnit = t.applyTo (Regex.find? program input.toArray) input indentUnit := by
    rw [apply, is]
    rfl
  have left (none_ : t.program? = none) : t.apply input indentUnit = input := by rw [apply, none_]
  refine ⟨fun find bounds => ⟨?_, whole find bounds⟩, fun program is => ⟨own program, applied program is⟩, left,
    fun format => ?_⟩
  · exact exists_replaces (by simpa using bounds) _ _
  · cases is : t.program? with
    | none => exact left is
    | some program =>
      rw [applied program is]
      exact whole _ (own program) format fun position m found => group?_of_find? found

/-- A search that finds the empty text everywhere: what is between the places is passed over. -/
theorem replaces_applyTo_empty : ∃ ms, Replaces (fun position => if position ≤ 2 then some ⟨position, position, []⟩ else none)
    (fun m => Format.expand ['-'] (m.group? #['a', 'é']) ['\t']) #['a', 'é'] true ms ['-', 'a', '-', 'é'] := by
  have bounds : InBounds (fun position => if position ≤ 2 then some ⟨position, position, []⟩ else none) ['a', 'é'].length := by
    intro position m found
    obtain ⟨within, same⟩ := Option.ite_none_right_eq_some.1 found
    obtain rfl := Option.some.inj same
    exact ⟨Nat.le_refl _, Nat.le_refl _, within⟩
  obtain ⟨ms, replaces⟩ := ((replaces_applyTo ⟨['x', '*'], ['-'], ['g']⟩ ['a', 'é'] ['\t']).1 _ bounds).1
  exact ⟨ms, replaces⟩

end Transform

end EditorBundles.Snippet
