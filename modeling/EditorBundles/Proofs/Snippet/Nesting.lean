import EditorBundles.Proofs.Text.Offset
import EditorBundles.Snippet.Expansion

/-!
# Nested intervals

Intervals are given by number. `Numbered` says that their parents make them a forest that is numbered in
preorder, and `Nested` that the live ones of them nest on the text of a region: each lies inside its
parent, and of two of which none is around the other, the one with the lower number ends first. When
the text of a live interval without live intervals inside is replaced, and the intervals move as `Moves`
says, they nest on the new text, and those not around it keep their own.
-/

namespace EditorBundles.Snippet
set_option autoImplicit false
open Text (byteLength IsBoundary slice?)

/-- Interval `i` is around interval `j`. -/
inductive Below (f : Nat → Interval) : Nat → Nat → Prop where
  | parent {j i : Nat} (h : (f j).parent = some i) : Below f j i
  | step {j p i : Nat} (h : (f j).parent = some p) (above : Below f p i) : Below f j i

/-- Parents come before what they hold, and what they hold comes without a gap. -/
structure Numbered (f : Nat → Interval) : Prop where
  parent_lt : ∀ i p, (f i).parent = some p → p < i
  between : ∀ i j k, i < j → j < k → Below f k i → Below f j i

/-- The live intervals nest on the text of a region, with all their ends between characters. -/
structure Nested (f : Nat → Interval) (live : Nat → Prop) (region : List Char) : Prop where
  start_le_stop : ∀ i, live i → (f i).start ≤ (f i).stop
  start_boundary : ∀ i, live i → IsBoundary region (f i).start
  stop_boundary : ∀ i, live i → IsBoundary region (f i).stop
  up : ∀ i p, live i → (f i).parent = some p → live p
  inside : ∀ i p, live i → (f i).parent = some p → (f p).start ≤ (f i).start ∧ (f i).stop ≤ (f p).stop
  apart : ∀ i j, live i → live j → i < j → Below f j i ∨ (f i).stop ≤ (f j).start

variable {f g : Nat → Interval} {live : Nat → Prop} {region l old r new : List Char} {id : Nat}

theorem Below.congr {i j : Nat} (same : ∀ i, (g i).parent = (f i).parent) (h : Below f j i) : Below g j i := by
  induction h with
  | parent h => exact .parent ((same _).trans h)
  | step h _ ih => exact .step ((same _).trans h) ih

theorem Below.trans {i j k : Nat} (first : Below f k j) (second : Below f j i) : Below f k i := by
  induction first with
  | parent h => exact .step h second
  | step h _ ih => exact .step h (ih second)

/-- What is below is the interval's parent or around that. -/
theorem Below.parent_or {i j p : Nat} (h : Below f j i) (parent : (f j).parent = some p) :
    p = i ∨ Below f p i := by
  cases h with
  | parent h => exact .inl (Option.some.inj (parent.symm.trans h))
  | step h above =>
    obtain rfl := Option.some.inj (parent.symm.trans h)
    exact .inr above

namespace Numbered

theorem congr (h : Numbered f) (same : ∀ i, (g i).parent = (f i).parent) : Numbered g where
  parent_lt i p found := h.parent_lt i p ((same i).symm.trans found)
  between i j k first second below :=
    (h.between i j k first second (below.congr fun i => (same i).symm)).congr same

theorem lt (h : Numbered f) {i j : Nat} (below : Below f j i) : i < j := by
  induction below with
  | parent found => exact h.parent_lt _ _ found
  | step found _ ih => exact Nat.lt_trans ih (h.parent_lt _ _ found)

end Numbered

namespace Nested

theorem mono (h : Nested f live region) {fewer : Nat → Prop} (sub : ∀ i, fewer i → live i)
    (up : ∀ i p, fewer i → (f i).parent = some p → fewer p) : Nested f fewer region where
  start_le_stop i alive := h.start_le_stop i (sub i alive)
  start_boundary i alive := h.start_boundary i (sub i alive)
  stop_boundary i alive := h.stop_boundary i (sub i alive)
  up := up
  inside i p alive := h.inside i p (sub i alive)
  apart i j alive other := h.apart i j (sub i alive) (sub j other)

/-- Intervals nest as long as the live ones of them stay as they are. -/
theorem congr (h : Nested f live region) (parent : ∀ i, (g i).parent = (f i).parent)
    (same : ∀ i, live i → g i = f i) :
    Nested g live region where
  start_le_stop i alive := by
    rw [same i alive]
    exact h.start_le_stop i alive
  start_boundary i alive := by
    rw [same i alive]
    exact h.start_boundary i alive
  stop_boundary i alive := by
    rw [same i alive]
    exact h.stop_boundary i alive
  up i p alive found := h.up i p alive ((parent i).symm.trans found)
  inside i p alive found := by
    have found := (parent i).symm.trans found
    rw [same i alive, same p (h.up i p alive found)]
    exact h.inside i p alive found
  apart i j alive other order := by
    rw [same i alive, same j other]
    exact (h.apart i j alive other order).imp_left (.congr parent)

/-- Intervals nest elsewhere if their ends go to boundaries and keep their order. -/
theorem map (h : Nested f live region) {region' : List Char} {place : Nat → Nat}
    (order : ∀ m n, m ≤ n → place m ≤ place n)
    (bound : ∀ n, IsBoundary region n → IsBoundary region' (place n)) (parent : ∀ i, (g i).parent = (f i).parent)
    (ends : ∀ i, live i → (g i).start = place (f i).start ∧ (g i).stop = place (f i).stop) :
    Nested g live region' := by
  constructor
  case start_le_stop =>
    intro i alive
    rw [(ends i alive).1, (ends i alive).2]
    exact order _ _ (h.start_le_stop i alive)
  case start_boundary => exact fun i alive => (ends i alive).1 ▸ bound _ (h.start_boundary i alive)
  case stop_boundary => exact fun i alive => (ends i alive).2 ▸ bound _ (h.stop_boundary i alive)
  case up => exact fun i p alive found => h.up i p alive ((parent i).symm.trans found)
  case inside =>
    intro i p alive found
    have found := (parent i).symm.trans found
    obtain ⟨first, last⟩ := h.inside i p alive found
    have holder := ends p (h.up i p alive found)
    rw [(ends i alive).1, (ends i alive).2, holder.1, holder.2]
    exact ⟨order _ _ first, order _ _ last⟩
  case apart =>
    intro i j one other lower
    rw [(ends i one).2, (ends j other).1]
    exact (h.apart i j one other lower).imp (.congr parent) (order _ _)

/-- What is around a live interval is live and holds it. -/
theorem around (h : Nested f live region) {i j : Nat} (alive : live j) (below : Below f j i) :
    live i ∧ (f i).start ≤ (f j).start ∧ (f j).stop ≤ (f i).stop := by
  induction below with
  | parent found => exact ⟨h.up _ _ alive found, h.inside _ _ alive found⟩
  | step found _ ih =>
    have here := h.inside _ _ alive found
    have above := ih (h.up _ _ alive found)
    exact ⟨above.1, by omega, by omega⟩

/-- A live interval has a text. -/
theorem slice?_eq_some (h : Nested f live region) {i : Nat} (alive : live i) :
    ∃ text, slice? region (f i).start (f i).stop = some text := by
  obtain ⟨l, m, r, rfl, start, stop⟩ :=
    (h.start_boundary i alive).parts (h.stop_boundary i alive) (h.start_le_stop i alive)
  rw [← start, ← stop]
  exact ⟨m, Text.slice?_append l m r⟩

end Nested

/-- The intervals `g` are the intervals `f` after the text of interval `id` has gone from `old` octets to
`new`: those around it grow, and those behind it move. -/
structure Moves (f g : Nat → Interval) (live : Nat → Prop) (id old new : Nat) : Prop where
  parent : ∀ i, (g i).parent = (f i).parent
  grown : ∀ i, live i → i = id ∨ Below f id i → (g i).start = (f i).start ∧ (g i).stop + old = (f i).stop + new
  kept : ∀ i, live i → i < id → ¬ Below f id i → (g i).start = (f i).start ∧ (g i).stop = (f i).stop
  moved : ∀ i, live i → id < i → (g i).start + old = (f i).start + new ∧ (g i).stop + old = (f i).stop + new

/-- Where a live interval stands to a live interval without live intervals inside. -/
theorem Nested.position (h : Nested f live region) (alive : live id) (leaf : ∀ i, live i → ¬ Below f i id)
    {i : Nat} (other : live i) :
    (i = id) ∨
    (Below f id i ∧ (f i).start ≤ (f id).start ∧ (f id).stop ≤ (f i).stop) ∨
    (i < id ∧ ¬ Below f id i ∧ (f i).stop ≤ (f id).start) ∨
    (id < i ∧ (f id).stop ≤ (f i).start) := by
  by_cases below : Below f id i
  · exact .inr (.inl ⟨below, (h.around alive below).2⟩)
  rcases Nat.lt_trichotomy i id with before | same | behind
  · exact .inr (.inr (.inl ⟨before, below, (h.apart i id other alive before).resolve_left below⟩))
  · exact .inl same
  · exact .inr (.inr (.inr ⟨behind, (h.apart id i alive other behind).resolve_left (leaf i other)⟩))

/-- The text `old` of a live interval without live intervals inside is replaced by `new`. -/
structure Splice (f g : Nat → Interval) (live : Nat → Prop) (id : Nat) (l old new r : List Char) : Prop where
  numbered : Numbered f
  nested : Nested f live (l ++ old ++ r)
  alive : live id
  leaf : ∀ i, live i → ¬ Below f i id
  start : (f id).start = byteLength l
  stop : (f id).stop = byteLength l + byteLength old
  moves : Moves f g live id (byteLength old) (byteLength new)

namespace Splice

variable (h : Splice f g live id l old new r)
include h

/-- The new ends of an interval, by where it stands to the replaced text. -/
theorem cases {i : Nat} (other : live i) :
    (i = id ∨ Below f id i) ∧ (f i).start ≤ byteLength l ∧ byteLength l + byteLength old ≤ (f i).stop ∧
        (g i).start = (f i).start ∧ (g i).stop + byteLength old = (f i).stop + byteLength new ∨
      (i < id ∧ ¬ Below f id i) ∧ (f i).stop ≤ byteLength l ∧ (g i).start = (f i).start ∧
        (g i).stop = (f i).stop ∨
      id < i ∧ byteLength l + byteLength old ≤ (f i).start ∧
        (g i).start + byteLength old = (f i).start + byteLength new ∧
        (g i).stop + byteLength old = (f i).stop + byteLength new := by
  have start := h.start
  have stop := h.stop
  rcases h.nested.position h.alive h.leaf other with
    rfl | ⟨below, first, last⟩ | ⟨before, apart, first⟩ | ⟨behind, first⟩
  · obtain ⟨same, grown⟩ := h.moves.grown i other (.inl rfl)
    exact .inl ⟨.inl rfl, by omega, by omega, same, grown⟩
  · obtain ⟨same, grown⟩ := h.moves.grown i other (.inr below)
    exact .inl ⟨.inr below, by omega, by omega, same, grown⟩
  · obtain ⟨same, kept⟩ := h.moves.kept i other before apart
    exact .inr (.inl ⟨⟨before, apart⟩, by omega, same, kept⟩)
  · obtain ⟨first', last'⟩ := h.moves.moved i other behind
    exact .inr (.inr ⟨behind, by omega, first', last'⟩)

/-- The intervals nest on the text with the replacement. -/
theorem nests : Nested g live (l ++ new ++ r) := by
  have cases {i : Nat} (other : live i) := h.cases other
  obtain ⟨numbered, nested, -, leaf, -, -, moves⟩ := h
  have before {n : Nat} (bound : IsBoundary (l ++ old ++ r) n) (within : n ≤ byteLength l) :
      IsBoundary (l ++ new ++ r) n := by
    rw [List.append_assoc] at bound ⊢
    exact (bound.of_le within).append_right _
  have behind {n m : Nat} (bound : IsBoundary (l ++ old ++ r) n) (beyond : byteLength l + byteLength old ≤ n)
      (shift : m + byteLength old = n + byteLength new) : IsBoundary (l ++ new ++ r) m := by
    rw [← Text.byteLength_append] at beyond
    have moved := (bound.of_ge beyond).append_left (l ++ new)
    rw [Text.byteLength_append, Text.byteLength_append] at moved
    rw [Text.byteLength_append] at beyond
    rwa [show m = byteLength l + byteLength new + (n - (byteLength l + byteLength old)) by omega]
  have below {i j : Nat} : Below g j i → Below f j i := .congr fun i => (moves.parent i).symm
  constructor
  case start_le_stop =>
    intro i other
    have order := nested.start_le_stop i other
    rcases cases other with ⟨-, _⟩ | ⟨-, _⟩ | ⟨-, _⟩ <;> omega
  case start_boundary =>
    intro i other
    have bound := nested.start_boundary i other
    have order := nested.start_le_stop i other
    rcases cases other with ⟨-, first, -, same, -⟩ | ⟨-, last, same, -⟩ | ⟨-, first, shift, -⟩
    · exact same ▸ before bound first
    · exact same ▸ before bound (Nat.le_trans order last)
    · exact behind bound first shift
  case stop_boundary =>
    intro i other
    have bound := nested.stop_boundary i other
    have order := nested.start_le_stop i other
    rcases cases other with ⟨-, -, last, -, shift⟩ | ⟨-, last, -, same⟩ | ⟨-, first, -, shift⟩
    · exact behind bound last shift
    · exact same ▸ before bound last
    · exact behind bound (Nat.le_trans first order) shift
  case up => exact fun i p other found => nested.up i p other ((moves.parent i).symm.trans found)
  case inside =>
    intro i p other found
    rw [moves.parent] at found
    have order := nested.inside i p other found
    have holder := nested.up i p other found
    have first := numbered.parent_lt i p found
    have notId : p ≠ id := fun same => leaf i other (same ▸ .parent found)
    rcases cases other with ⟨place, _⟩ | ⟨⟨place, -⟩, _⟩ | ⟨place, _⟩
    · -- the parent of what grows grows too
      have above : Below f id p := by
        rcases place with rfl | below
        · exact .parent found
        · exact below.trans (.parent found)
      have := numbered.lt above
      rcases cases holder with _ | ⟨⟨-, apart⟩, _⟩ | _
      · omega
      · exact absurd above apart
      · omega
    · rcases cases holder with _ | _ | _ <;> omega
    · rcases cases holder with _ | ⟨⟨before, apart⟩, _⟩ | _
      · omega
      · exact absurd (numbered.between p id i before place (.parent found)) apart
      · omega
  case apart =>
    intro i j one other order
    by_cases under : Below f j i
    · exact .inl (under.congr moves.parent)
    right
    have first := (nested.apart i j one other order).resolve_left under
    rcases cases one with ⟨place, _⟩ | ⟨⟨before, -⟩, _⟩ | ⟨behind, _⟩
    · -- what comes behind an interval that grows, but is not in it, moves
      have beyond : id < j := by
        rcases place with rfl | around
        · exact order
        · rcases Nat.lt_trichotomy j id with before | rfl | behind
          · exact absurd (numbered.between i j id order before around) under
          · exact absurd around under
          · exact behind
      rcases cases other with ⟨place', _⟩ | ⟨⟨before, -⟩, _⟩ | _
      · rcases place' with rfl | around
        · omega
        · have := numbered.lt around
          omega
      · omega
      · omega
    · rcases cases other with _ | _ | _ <;> omega
    · rcases cases other with ⟨place', _⟩ | _ | _
      · rcases place' with rfl | around
        · omega
        · have := numbered.lt around
          omega
      · omega
      · omega

/-- The replaced interval reads the new text. -/
theorem text : slice? (l ++ new ++ r) (g id).start (g id).stop = some new := by
  have stop := h.stop
  obtain ⟨same, grown⟩ := h.moves.grown id h.alive (.inl rfl)
  rw [same, h.start, show (g id).stop = byteLength l + byteLength new by omega]
  exact Text.slice?_append l new r

/-- An interval that is not around the replaced one reads what it read. -/
theorem other {i : Nat} (other : live i) (different : i ≠ id) (apart : ¬ Below f id i) {text : List Char}
    (read : slice? (l ++ old ++ r) (f i).start (f i).stop = some text) :
    slice? (l ++ new ++ r) (g i).start (g i).stop = some text := by
  rcases h.cases other with ⟨place, _⟩ | ⟨-, last, same, same'⟩ | ⟨-, first, shift, shift'⟩
  · rcases place with rfl | around
    · exact absurd rfl different
    · exact absurd around apart
  · rw [List.append_assoc] at read ⊢
    rw [same, same']
    exact Text.slice?_append_left read last (new ++ r)
  · have order := h.nested.start_le_stop i other
    rw [← Text.byteLength_append] at first
    have moved := Text.slice?_append_right read first (l ++ new)
    rw [Text.byteLength_append, Text.byteLength_append] at moved
    rw [Text.byteLength_append] at first
    rwa [
      show (g i).start = (f i).start - (byteLength l + byteLength old) + (byteLength l + byteLength new) by omega,
      show (g i).stop = (f i).stop - (byteLength l + byteLength old) + (byteLength l + byteLength new) by omega]

end Splice

end EditorBundles.Snippet
