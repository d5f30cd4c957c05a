/-!
# Offsets in octets

A place in a text is the number of octets that stand before it in UTF-8. Only the boundaries between
characters are places: an offset inside a character, or behind the end, splits nothing.
-/

namespace EditorBundles.Text
set_option autoImplicit false

/-- The octets that characters take. -/
def byteLength : List Char → Nat
  | [] => 0
  | c :: cs => c.utf8Size + byteLength cs

@[simp] theorem byteLength_nil : byteLength [] = 0 := rfl

@[simp] theorem byteLength_cons (c : Char) (cs : List Char) :
    byteLength (c :: cs) = c.utf8Size + byteLength cs := rfl

@[simp] theorem byteLength_append (s t : List Char) : byteLength (s ++ t) = byteLength s + byteLength t := by
  induction s with
  | nil => simp
  | cons c cs ih => simp [ih, Nat.add_assoc]

/-- The texts before and behind an offset. -/
def splitAt? : List Char → Nat → Option (List Char × List Char)
  | cs, 0 => some ([], cs)
  | [], _ + 1 => none
  | c :: cs, n + 1 =>
    if c.utf8Size ≤ n + 1 then (splitAt? cs (n + 1 - c.utf8Size)).map fun parts => (c :: parts.1, parts.2)
    else none

/-- A text splits at the end of its first part. -/
theorem splitAt?_append (s t : List Char) : splitAt? (s ++ t) (byteLength s) = some (s, t) := by
  induction s with
  | nil => simp [splitAt?]
  | cons c cs ih =>
    obtain ⟨n, h⟩ : ∃ n, c.utf8Size + byteLength cs = n + 1 :=
      ⟨c.utf8Size + byteLength cs - 1, by have := c.utf8Size_pos; omega⟩
    have behind : n + 1 - c.utf8Size = byteLength cs := by omega
    have fits : c.utf8Size ≤ n + 1 := by omega
    simp [splitAt?, h, fits, behind, ih]

/-- The parts of a text make it up, and the first one takes the octets before the offset. -/
theorem eq_append_of_splitAt? {cs s t : List Char} {n : Nat} (h : splitAt? cs n = some (s, t)) :
    cs = s ++ t ∧ byteLength s = n := by
  fun_induction splitAt? cs n generalizing s t with
  | case1 => simp_all
  | case2 => simp at h
  | case3 c cs n fits ih =>
    obtain ⟨⟨u, v⟩, split, joined⟩ := Option.map_eq_some_iff.1 h
    obtain ⟨rfl, length⟩ := ih split
    simp only [Prod.mk.injEq] at joined
    obtain ⟨rfl, rfl⟩ := joined
    simp only [List.cons_append, byteLength_cons, true_and]
    omega
  | case4 => simp at h

/-- The text between two offsets. -/
def slice? (cs : List Char) (start stop : Nat) : Option (List Char) := do
  let (_, rest) ← splitAt? cs start
  if stop < start then none
  else
    let (taken, _) ← splitAt? rest (stop - start)
    return taken

/-- The text with another one in the place of what stands between two offsets. -/
def splice? (cs : List Char) (start stop : Nat) (new : List Char) : Option (List Char) := do
  let (before, rest) ← splitAt? cs start
  if stop < start then none
  else
    let (_, behind) ← splitAt? rest (stop - start)
    return before ++ new ++ behind

end EditorBundles.Text
