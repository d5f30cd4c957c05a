import EditorBundles.Text.Offset
import Mathlib.Data.List.Basic

/-!
# Boundaries, slices and splices

A boundary is an offset between two characters. Slicing and splicing succeed at boundaries, and a slice
that lies before or behind a splice stays what it was.
-/

namespace EditorBundles.Text
set_option autoImplicit false

/-- An offset between two characters of a text, or at one of its ends. -/
def IsBoundary (cs : List Char) (n : Nat) : Prop := ∃ before behind, cs = before ++ behind ∧ byteLength before = n

variable {cs ds l m r before behind : List Char} {n p q : Nat}

theorem eq_nil_of_byteLength_eq_zero (h : byteLength cs = 0) : cs = [] := by
  cases cs with
  | nil => rfl
  | cons c cs =>
    have positive := c.utf8Size_pos
    rw [byteLength_cons] at h
    omega

/-- Of two ways to cut a text the shorter first part starts the longer one. -/
theorem exists_between {a b c d : List Char} (same : a ++ b = c ++ d) (h : byteLength a ≤ byteLength c) :
    ∃ e, c = a ++ e ∧ b = e ++ d := by
  rcases List.append_eq_append_iff.1 same with ⟨e, rfl, rfl⟩ | ⟨e, rfl, rfl⟩
  · exact ⟨e, rfl, rfl⟩
  · rw [byteLength_append] at h
    obtain rfl := eq_nil_of_byteLength_eq_zero (show byteLength e = 0 by omega)
    exact ⟨[], by simp, by simp⟩

namespace IsBoundary

theorem le (h : IsBoundary cs n) : n ≤ byteLength cs := by
  obtain ⟨before, behind, rfl, rfl⟩ := h
  rw [byteLength_append]
  omega

theorem zero (cs : List Char) : IsBoundary cs 0 := ⟨[], cs, rfl, rfl⟩

theorem length (cs ds : List Char) : IsBoundary (cs ++ ds) (byteLength cs) := ⟨cs, ds, rfl, rfl⟩

theorem append_right (h : IsBoundary cs n) (ds : List Char) : IsBoundary (cs ++ ds) n := by
  obtain ⟨before, behind, rfl, rfl⟩ := h
  exact ⟨before, behind ++ ds, by simp, rfl⟩

theorem append_left (h : IsBoundary ds n) (cs : List Char) : IsBoundary (cs ++ ds) (byteLength cs + n) := by
  obtain ⟨before, behind, rfl, rfl⟩ := h
  exact ⟨cs ++ before, behind, by simp, by simp⟩

/-- A boundary in the first part of a text is one of that part. -/
theorem of_le (h : IsBoundary (cs ++ ds) n) (within : n ≤ byteLength cs) : IsBoundary cs n := by
  obtain ⟨before, behind, same, rfl⟩ := h
  obtain ⟨e, rfl, -⟩ := exists_between same.symm within
  exact length before e

/-- A boundary behind the first part of a text is one of the second part. -/
theorem of_ge (h : IsBoundary (cs ++ ds) n) (beyond : byteLength cs ≤ n) : IsBoundary ds (n - byteLength cs) := by
  obtain ⟨before, behind, same, rfl⟩ := h
  obtain ⟨e, rfl, rfl⟩ := exists_between same beyond
  refine ⟨e, behind, rfl, ?_⟩
  rw [byteLength_append]
  omega

/-- A boundary in the middle part of a text cuts that part in two. -/
theorem middle (h : IsBoundary (l ++ m ++ r) n) (lower : byteLength l ≤ n) (upper : n ≤ byteLength l + byteLength m) :
    ∃ front back, m = front ++ back ∧ n = byteLength (l ++ front) := by
  rw [← byteLength_append] at upper
  obtain ⟨front, back, split, length⟩ := (h.of_le upper).of_ge lower
  refine ⟨front, back, split, ?_⟩
  rw [byteLength_append, length]
  omega

/-- The text between two boundaries. -/
theorem parts (hp : IsBoundary cs p) (hq : IsBoundary cs q) (order : p ≤ q) :
    ∃ l m r, cs = l ++ m ++ r ∧ byteLength l = p ∧ byteLength l + byteLength m = q := by
  obtain ⟨l, rest, same, rfl⟩ := hp
  obtain ⟨before, r, rfl, rfl⟩ := hq
  obtain ⟨m, rfl, rfl⟩ := exists_between same.symm order
  exact ⟨l, m, r, rfl, rfl, (byteLength_append l m).symm⟩

end IsBoundary

theorem slice?_append (l m r : List Char) :
    slice? (l ++ m ++ r) (byteLength l) (byteLength l + byteLength m) = some m := by
  rw [slice?, List.append_assoc, splitAt?_append]
  have order : ¬ byteLength l + byteLength m < byteLength l := by omega
  have length : byteLength l + byteLength m - byteLength l = byteLength m := by omega
  simp [order, length, splitAt?_append]

theorem splice?_append (l m r new : List Char) :
    splice? (l ++ m ++ r) (byteLength l) (byteLength l + byteLength m) new = some (l ++ new ++ r) := by
  rw [splice?, List.append_assoc, splitAt?_append]
  have order : ¬ byteLength l + byteLength m < byteLength l := by omega
  have length : byteLength l + byteLength m - byteLength l = byteLength m := by omega
  simp [order, length, splitAt?_append]

/-- A text is only spliced between boundaries. -/
theorem isBoundary_of_splice? {new : List Char} (h : splice? cs p q new = some ds) :
    IsBoundary cs p ∧ IsBoundary cs q := by
  obtain ⟨⟨l, rest⟩, first, inner⟩ := Option.bind_eq_some_iff.1 h
  obtain ⟨rfl, rfl⟩ := eq_append_of_splitAt? first
  by_cases order : q < byteLength l
  · simp [order] at inner
  · simp only [order, if_false] at inner
    obtain ⟨⟨gone, r⟩, second, -⟩ := Option.bind_eq_some_iff.1 inner
    obtain ⟨rfl, length⟩ := eq_append_of_splitAt? second
    have place := (IsBoundary.length gone r).append_left l
    rw [length, show byteLength l + (q - byteLength l) = q by omega] at place
    exact ⟨.length l _, place⟩

/-- A slice is what stands between its ends. -/
theorem slice?_eq_some_iff :
    slice? cs p q = some m ↔ ∃ l r, cs = l ++ m ++ r ∧ byteLength l = p ∧ byteLength l + byteLength m = q := by
  constructor
  · intro h
    obtain ⟨⟨l, rest⟩, first, inner⟩ := Option.bind_eq_some_iff.1 h
    obtain ⟨rfl, rfl⟩ := eq_append_of_splitAt? first
    by_cases order : q < byteLength l
    · simp [order] at inner
    · simp only [order, if_false] at inner
      obtain ⟨⟨taken, r⟩, second, last⟩ := Option.bind_eq_some_iff.1 inner
      obtain ⟨rfl, length⟩ := eq_append_of_splitAt? second
      have taken_eq : taken = m := Option.some.inj last
      subst taken_eq
      exact ⟨l, r, by simp, rfl, by omega⟩
  · rintro ⟨l, r, rfl, rfl, rfl⟩
    exact slice?_append l m r

/-- What lies in the first part of a text does not depend on the second. -/
theorem slice?_append_left (h : slice? (cs ++ ds) p q = some m) (within : q ≤ byteLength cs) (other : List Char) :
    slice? (cs ++ other) p q = some m := by
  obtain ⟨l, r, same, rfl, rfl⟩ := slice?_eq_some_iff.1 h
  rw [← byteLength_append] at within
  obtain ⟨e, rfl, -⟩ := exists_between same.symm within
  exact slice?_eq_some_iff.2 ⟨l, e ++ other, by simp, rfl, rfl⟩

/-- What lies in the second part of a text moves with it. -/
theorem slice?_append_right (h : slice? (cs ++ ds) p q = some m) (beyond : byteLength cs ≤ p)
    (other : List Char) :
    slice? (other ++ ds) (p - byteLength cs + byteLength other) (q - byteLength cs + byteLength other) =
      some m := by
  obtain ⟨l, r, same, rfl, rfl⟩ := slice?_eq_some_iff.1 h
  rw [List.append_assoc] at same
  obtain ⟨e, rfl, rfl⟩ := exists_between same beyond
  refine slice?_eq_some_iff.2 ⟨other ++ e, r, by simp, ?_, ?_⟩
  all_goals
    simp only [byteLength_append]
    omega

end EditorBundles.Text
