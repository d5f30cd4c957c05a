import EditorBundles.Proofs.Snippet.Nesting

/-!
# Expansions nest

While a template is expanded, the intervals that are open form a chain from the innermost one outwards,
and all others are closed. `Spans` says how they lie: what is closed lies inside its parent and ends
before the next interval that is not inside it starts. Opening and closing keep it, so that the intervals
of a whole expansion nest on its text, and only tab stops hold others.
-/

namespace EditorBundles.Snippet
set_option autoImplicit false
open Text (byteLength IsBoundary)

/-- Interval `i` is at a place, given by the innermost interval around it, or around that. -/
def Around (f : Nat → Interval) (place : Option Nat) (i : Nat) : Prop :=
  ∃ p, place = some p ∧ (p = i ∨ Below f p i)

/-- The first `count` intervals lie on a text that is still growing, with those around `place` open. -/
structure Spans (f : Nat → Interval) (count : Nat) (place : Option Nat) (text : List Char) : Prop where
  numbered : Numbered f
  beyond : ∀ i, count ≤ i → (f i).parent = none
  place_lt : ∀ p, place = some p → p < count
  start : ∀ i < count, IsBoundary text (f i).start
  stop : ∀ i < count, ¬ Around f place i → (f i).start ≤ (f i).stop ∧ IsBoundary text (f i).stop
  inside : ∀ i p, (f i).parent = some p →
    (f p).start ≤ (f i).start ∧ (¬ Around f place p → (f i).stop ≤ (f p).stop)
  apart : ∀ i j, i < j → j < count → Below f j i ∨ ¬ Around f place i ∧ (f i).stop ≤ (f j).start

variable {f g : Nat → Interval} {count : Nat} {place : Option Nat} {text : List Char}

theorem below_iff_around {i j : Nat} : Below f j i ↔ Around f (f j).parent i := by
  constructor
  · intro below
    cases below with
    | parent found => exact ⟨i, found, .inl rfl⟩
    | step found above => exact ⟨_, found, .inr above⟩
  · rintro ⟨p, found, rfl | above⟩
    · exact .parent found
    · exact .step found above

theorem around_some {p i : Nat} : Around f (some p) i ↔ p = i ∨ Below f p i := by
  constructor
  · rintro ⟨q, same, here⟩
    obtain rfl := Option.some.inj same
    exact here
  · exact fun here => ⟨p, rfl, here⟩

namespace Spans

variable (h : Spans f count place text)
include h

theorem lt_of_parent {i p : Nat} (found : (f i).parent = some p) : i < count := by
  by_contra far
  rw [h.beyond i (Nat.le_of_not_lt far)] at found
  cases found

/-- Text goes behind all intervals. -/
theorem append (more : List Char) : Spans f count place (text ++ more) :=
  { h with
    start := fun i bound => (h.start i bound).append_right more
    stop := fun i bound closed => ⟨(h.stop i bound closed).1, (h.stop i bound closed).2.append_right more⟩ }

/-- What is around a new interval at the end, and around the others. -/
theorem below_enter (same : ∀ i, i ≠ count → g i = f i) (new : (g count).parent = place) {i j : Nat} :
    Below g j i ↔ if j = count then Around f place i else Below f j i := by
  have grow {i j : Nat} (below : Below f j i) : Below g j i := by
    induction below with
    | parent found =>
      have bound := h.lt_of_parent found
      exact .parent (by rwa [same _ (by omega)])
    | step found _ ih =>
      have bound := h.lt_of_parent found
      exact .step (by rwa [same _ (by omega)]) ih
  have shrink {i j : Nat} (below : Below g j i) : j ≠ count → Below f j i := by
    induction below with
    | parent found =>
      intro old
      rw [same _ old] at found
      exact .parent found
    | @step j p i found _ ih =>
      intro old
      rw [same _ old] at found
      have bound := h.lt_of_parent found
      have before := h.numbered.parent_lt _ _ found
      exact .step found (ih (by omega))
  by_cases last : j = count
  · subst last
    rw [if_pos rfl, below_iff_around, new]
    constructor
    · rintro ⟨p, found, here⟩
      have before := h.place_lt p found
      exact ⟨p, found, here.imp_right fun below => shrink below (by omega)⟩
    · rintro ⟨p, found, here⟩
      exact ⟨p, found, here.imp_right grow⟩
  · rw [if_neg last]
    exact ⟨fun below => shrink below last, grow⟩

/-- Opening an interval at the end of the text. -/
theorem enter (same : ∀ i, i ≠ count → g i = f i) (new : g count = ⟨byteLength text, byteLength text, place⟩) :
    Spans g (count + 1) (some count) text := by
  have parent : (g count).parent = place := by rw [new]
  have below {i j : Nat} := h.below_enter same parent (i := i) (j := j)
  have isOpen {i : Nat} : Around g (some count) i ↔ count = i ∨ Around f place i := by
    rw [around_some, below, if_pos rfl]
  constructor
  case numbered =>
    constructor
    case parent_lt =>
      intro i p found
      by_cases last : i = count
      · subst last
        exact h.place_lt p (parent ▸ found)
      · rw [same i last] at found
        exact h.numbered.parent_lt i p found
    case between =>
      intro i j k first second inside
      rw [below] at inside ⊢
      by_cases last : k = count
      · -- what is open is around all that came after it
        subst last
        rw [if_pos rfl] at inside
        rw [if_neg (by omega)]
        exact (h.apart i j first second).resolve_right fun closed => closed.1 inside
      · rw [if_neg last] at inside
        have bound : k < count := by
          cases inside with
          | parent found => exact h.lt_of_parent found
          | step found _ => exact h.lt_of_parent found
        rw [if_neg (by omega)]
        exact h.numbered.between i j k first second inside
  case beyond =>
    intro i far
    rw [same i (by omega)]
    exact h.beyond i (by omega)
  case place_lt =>
    rintro p ⟨⟩
    exact Nat.lt_succ_self count
  case start =>
    intro i bound
    by_cases last : i = count
    · subst last
      rw [new]
      simpa using IsBoundary.length text []
    · rw [same i last]
      exact h.start i (by omega)
  case stop =>
    intro i bound closed
    rw [isOpen, not_or] at closed
    have old : i ≠ count := Ne.symm closed.1
    rw [same i old]
    exact h.stop i (by omega) closed.2
  case inside =>
    intro i p found
    by_cases last : i = count
    · subst last
      have around : Around f place p := ⟨p, parent ▸ found, .inl rfl⟩
      have before := h.place_lt p (parent ▸ found)
      rw [new, same p (by omega)]
      exact ⟨(h.start p before).le, fun closed => absurd (isOpen.2 (.inr around)) closed⟩
    · rw [same i last] at found ⊢
      have before := h.numbered.parent_lt i p found
      have bound := h.lt_of_parent found
      rw [same p (by omega)]
      obtain ⟨first, last⟩ := h.inside i p found
      exact ⟨first, fun closed => last fun around => closed (isOpen.2 (.inr around))⟩
  case apart =>
    intro i j order bound
    rw [below, isOpen, same i (by omega)]
    by_cases last : j = count
    · subst last
      rw [if_pos rfl, new]
      by_cases around : Around f place i
      · exact .inl around
      · exact .inr ⟨not_or.2 ⟨by omega, around⟩, (h.stop i order around).2.le⟩
    · rw [if_neg last, same j last]
      refine (h.apart i j order (by omega)).imp_right fun closed => ⟨not_or.2 ⟨by omega, closed.1⟩, closed.2⟩

end Spans

/-- Closing the innermost interval that is open. -/
theorem Spans.leave {id : Nat} (h : Spans f count (some id) text) (same : ∀ i, i ≠ id → g i = f i)
    (new : g id = { f id with stop := byteLength text }) : Spans g count (f id).parent text := by
  have parent (i : Nat) : (g i).parent = (f i).parent := by
    by_cases here : i = id
    · rw [here, new]
    · rw [same i here]
  have start (i : Nat) : (g i).start = (f i).start := by
    by_cases here : i = id
    · rw [here, new]
    · rw [same i here]
  have below {i j : Nat} : Below g j i ↔ Below f j i := ⟨.congr fun i => (parent i).symm, .congr parent⟩
  have isOpen {i : Nat} : Around g (f id).parent i ↔ Below f id i := by
    rw [← parent, ← below_iff_around, below]
  have here := h.place_lt id rfl
  constructor
  case numbered => exact h.numbered.congr parent
  case beyond => exact fun i far => (parent i).trans (h.beyond i far)
  case place_lt => exact fun p found => Nat.lt_trans (h.numbered.parent_lt id p found) here
  case start => exact fun i bound => (start i).symm ▸ h.start i bound
  case stop =>
    intro i bound closed
    rw [isOpen] at closed
    by_cases last : i = id
    · rw [last, new]
      exact ⟨(h.start id here).le, by simpa using IsBoundary.length text []⟩
    · rw [same i last]
      exact h.stop i bound fun around => (around_some.1 around).elim (fun e => last e.symm) closed
  case inside =>
    intro i p found
    rw [parent] at found
    rw [start, start, isOpen]
    obtain ⟨first, last⟩ := h.inside i p found
    refine ⟨first, fun closed => ?_⟩
    have order := h.numbered.parent_lt i p found
    by_cases inner : p = id
    · -- what lies in the interval ends before the text does
      have notOpen : ¬ Around f (some id) i := by
        rw [around_some]
        rintro (rfl | above)
        · omega
        · have := h.numbered.lt above
          omega
      rw [inner, new, same i (by omega)]
      exact (h.stop i (h.lt_of_parent found) notOpen).2.le
    · have closed' : ¬ Around f (some id) p := fun around =>
        (around_some.1 around).elim (fun e => inner e.symm) closed
      by_cases isId : i = id
      · subst isId
        exact absurd (.parent found) closed
      · rw [same p inner, same i isId]
        exact last closed'
  case apart =>
    intro i j order bound
    rw [below, isOpen, start j]
    refine (h.apart i j order bound).imp_right fun closed => ?_
    have notId : i ≠ id := fun e => closed.1 (around_some.2 (.inl e.symm))
    rw [same i notId]
    exact ⟨fun above => closed.1 (around_some.2 (.inr above)), closed.2⟩

/-- Once all intervals are closed they nest. -/
theorem Spans.nested (h : Spans f count none text) : Nested f (· < count) text := by
  have closed (i : Nat) : ¬ Around f none i := by
    rintro ⟨p, found, -⟩
    cases found
  constructor
  case start_le_stop => exact fun i bound => (h.stop i bound (closed i)).1
  case start_boundary => exact h.start
  case stop_boundary => exact fun i bound => (h.stop i bound (closed i)).2
  case up => exact fun i p bound found => Nat.lt_trans (h.numbered.parent_lt i p found) bound
  case inside => exact fun i p _ found => ⟨(h.inside i p found).1, (h.inside i p found).2 (closed p)⟩
  case apart => exact fun i j _ bound order => (h.apart i j order bound).imp_right And.right

/-! ## Tab stops -/

namespace Stops

theorem insert_perm (number : Nat) (stop : Stop) (stops : Stops) :
    (insert number stop stops).Perm ((number, stop) :: stops) := by
  induction stops with
  | nil => exact .refl _
  | cons entry stops ih =>
    obtain ⟨n, s⟩ := entry
    rw [insert]
    split
    · exact .refl _
    · exact (ih.cons _).trans (.swap _ _ _)

/-- A new tab stop keeps the numbers in order. -/
theorem ascending_insert {number : Nat} {stops : Stops} (undefined : number ∉ Entries.keys stops)
    (ascending : (Entries.keys stops).Pairwise (· < ·)) (stop : Stop) :
    (Entries.keys (insert number stop stops)).Pairwise (· < ·) := by
  induction stops with
  | nil => exact List.pairwise_singleton _ number
  | cons entry stops ih =>
    obtain ⟨n, s⟩ := entry
    rw [Entries.keys_cons, List.mem_cons, not_or] at undefined
    rw [Entries.keys_cons, List.pairwise_cons] at ascending
    obtain ⟨first, rest⟩ := ascending
    rw [insert]
    split
    · rename_i lower
      refine List.pairwise_cons.2 ⟨fun m member => ?_, List.pairwise_cons.2 ⟨first, rest⟩⟩
      rcases List.mem_cons.1 member with rfl | later
      · exact lower
      · exact Nat.lt_trans lower (first m later)
    · refine List.pairwise_cons.2 ⟨fun m member => ?_, ih undefined.2 rest⟩
      have keys : (Entries.keys (insert number stop stops)).Perm (number :: Entries.keys stops) :=
        (insert_perm number stop stops).map _
      rcases List.mem_cons.1 (keys.mem_iff.1 member) with rfl | later
      · omega
      · exact first m later

/-- Changing a tab stop changes its entry alone. -/
theorem modify_split {front back : Stops} {number : Nat} {stop : Stop}
    (numbers : (Entries.keys (front ++ (number, stop) :: back)).Nodup) (change : Stop → Stop) :
    modify (front ++ (number, stop) :: back) number change = front ++ (number, change stop) :: back := by
  rw [Entries.keys_append, Entries.keys_cons] at numbers
  obtain ⟨-, behind, apart⟩ := List.nodup_append.1 numbers
  have other (stops : Stops) (absent : number ∉ Entries.keys stops) : modify stops number change = stops := by
    refine (List.map_congr_left fun entry member => if_neg ?_).trans (List.map_id stops)
    rintro rfl
    exact absent (List.mem_map_of_mem member)
  rw [modify, List.map_append, List.map_cons]
  simp only [if_true]
  rw [show front.map _ = front from other front fun member => apart _ member _ List.mem_cons_self rfl,
    show back.map _ = back from other back (List.nodup_cons.1 behind).1]

theorem keys_modify (stops : Stops) (number : Nat) (change : Stop → Stop) :
    Entries.keys (modify stops number change) = Entries.keys stops := by
  rw [Entries.keys, Entries.keys, modify, List.map_map]
  refine List.map_congr_left fun entry _ => ?_
  rw [Function.comp_apply]
  split <;> rfl

end Stops

namespace Expansion

/-- An interval by its number. -/
def interval (e : Expansion) (id : Nat) : Interval := e.intervals.getD id ⟨0, 0, none⟩

/-- The intervals that show something: of tab stops, mirrors and substitutions. -/
def liveIds (e : Expansion) : List Nat :=
  e.stops.flatMap (fun stop => stop.2.interval :: stop.2.mirrors) ++ e.bindings.map (·.interval)

/-- The intervals of tab stops. -/
def stopIds (e : Expansion) : List Nat := e.stops.map (·.2.interval)

/-- The intervals of an expansion nest as far as they are closed, only tab stops hold others, and each
interval belongs to one thing. -/
structure Growing (e : Expansion) : Prop where
  spans : Spans e.interval e.intervals.length e.parent e.text
  place_stop : ∀ p, e.parent = some p → p ∈ e.stopIds
  parent_stop : ∀ i p, (e.interval i).parent = some p → p ∈ e.stopIds
  within : ∀ i ∈ e.liveIds, i < e.intervals.length
  distinct : e.liveIds.Nodup
  numbers : (Entries.keys e.stops).Nodup

/-- `e'` is `e` with more behind it. -/
structure Extends (e e' : Expansion) : Prop where
  parent : e'.parent = e.parent
  length : e.intervals.length ≤ e'.intervals.length
  kept : ∀ i < e.intervals.length, e'.interval i = e.interval i

variable {e e' e'' : Expansion}

theorem Extends.refl (e : Expansion) : e.Extends e := ⟨rfl, Nat.le_refl _, fun _ _ => rfl⟩

theorem Extends.trans (first : e.Extends e') (second : e'.Extends e'') : e.Extends e'' where
  parent := second.parent.trans first.parent
  length := Nat.le_trans first.length second.length
  kept i bound := (second.kept i (Nat.lt_of_lt_of_le bound first.length)).trans (first.kept i bound)

theorem length_openInterval (e : Expansion) : e.openInterval.intervals.length = e.intervals.length + 1 := by
  simp [openInterval]

theorem lt_length_openInterval (e : Expansion) : e.intervals.length < e.openInterval.intervals.length := by
  rw [length_openInterval]
  exact Nat.lt_succ_self _

theorem interval_openInterval (e : Expansion) :
    (∀ i, i ≠ e.intervals.length → e.openInterval.interval i = e.interval i) ∧
      e.openInterval.interval e.intervals.length = ⟨byteLength e.text, byteLength e.text, e.parent⟩ := by
  constructor
  · intro i old
    rw [interval, interval, openInterval, List.getD_eq_getElem?_getD, List.getD_eq_getElem?_getD]
    rcases Nat.lt_or_gt_of_ne old with inside | beyond
    · rw [List.getElem?_append_left inside]
    · rw [List.getElem?_eq_none (by simp; omega), List.getElem?_eq_none (by omega)]
  · simp [interval, openInterval, List.getD_eq_getElem?_getD]

theorem length_closeInterval (e : Expansion) (id : Nat) :
    (e.closeInterval id).intervals.length = e.intervals.length := by
  simp [closeInterval]

theorem interval_closeInterval (e : Expansion) {id : Nat} (bound : id < e.intervals.length) :
    (∀ i, i ≠ id → (e.closeInterval id).interval i = e.interval i) ∧
      (e.closeInterval id).interval id = { e.interval id with stop := byteLength e.text } := by
  constructor
  · intro i other
    simp [interval, closeInterval, List.getD_eq_getElem?_getD, other.symm]
  · simp [interval, closeInterval, List.getD_eq_getElem?_getD, bound]

theorem parent_closeInterval (e : Expansion) {id : Nat} (bound : id < e.intervals.length) :
    (e.closeInterval id).parent = (e.interval id).parent := by
  simp [closeInterval, interval, List.getD_eq_getElem?_getD, bound]

/-- Behind an interval that is opened and closed again the same interval is open. -/
theorem Extends.leaf (more : e.openInterval.Extends e') :
    (e'.closeInterval e.intervals.length).parent = e.parent := by
  have opened := e.lt_length_openInterval
  rw [parent_closeInterval e' (Nat.lt_of_lt_of_le opened more.length), more.kept _ opened]
  exact congrArg Interval.parent (interval_openInterval e).2

/-- Text behind an expansion. -/
theorem Growing.append (h : e.Growing) {more : List Char} (text : e'.text = e.text ++ more)
    (intervals : e'.intervals = e.intervals) (parent : e'.parent = e.parent) (stops : e'.stops = e.stops)
    (bindings : e'.bindings = e.bindings) : e'.Growing ∧ e.Extends e' := by
  have same : e'.interval = e.interval := by
    funext i
    rw [interval, intervals, interval]
  have live : e'.liveIds = e.liveIds := by rw [liveIds, stops, bindings, liveIds]
  have ids : e'.stopIds = e.stopIds := by rw [stopIds, stops, stopIds]
  refine ⟨?_, parent, intervals ▸ Nat.le_refl _, fun i _ => by rw [same]⟩
  constructor
  case spans =>
    rw [same, intervals, parent, text]
    exact h.spans.append more
  case place_stop => rw [parent, ids]; exact h.place_stop
  case parent_stop => rw [same, ids]; exact h.parent_stop
  case within => rw [live, intervals]; exact h.within
  case distinct => rw [live]; exact h.distinct
  case numbers => rw [stops]; exact h.numbers

/-- Opening an interval behind an expansion. -/
theorem Growing.openInterval (h : e.Growing) :
    Spans e.openInterval.interval (e.intervals.length + 1) (some e.intervals.length) e.text :=
  h.spans.enter (interval_openInterval e).1 (interval_openInterval e).2

/-- The parents of the intervals, with a new one opened, are tab stops. -/
theorem Growing.parent_openInterval (h : e.Growing) {i p : Nat}
    (found : (e.openInterval.interval i).parent = some p) :
    p ∈ e.stopIds := by
  obtain ⟨same, new⟩ := interval_openInterval e
  by_cases last : i = e.intervals.length
  · rw [last, new] at found
    exact h.place_stop p found
  · rw [same i last] at found
    exact h.parent_stop i p found

/-- An interval with nothing in it, for a mirror or a substitution. -/
theorem Growing.leaf (h : e.Growing)
    (opened : e'.interval = (e.openInterval.closeInterval e.intervals.length).interval)
    (length : e'.intervals.length = e.intervals.length + 1) (parent : e'.parent = e.parent)
    (text : e'.text = e.text)
    (live : e'.liveIds.Perm (e.intervals.length :: e.liveIds)) (ids : e'.stopIds = e.stopIds)
    (keys : Entries.keys e'.stops = Entries.keys e.stops) : e'.Growing ∧ e.Extends e' := by
  obtain ⟨same, new⟩ := interval_closeInterval e.openInterval e.lt_length_openInterval
  rw [← opened] at same new
  have back : (e.openInterval.interval e.intervals.length).parent = e.parent :=
    congrArg Interval.parent (interval_openInterval e).2
  refine ⟨?_, parent, by omega, fun i old => ?_⟩
  · constructor
    case spans =>
      have closed := h.openInterval.leave same new
      rwa [back, ← length, ← parent, ← text] at closed
    case place_stop => rw [parent, ids]; exact h.place_stop
    case parent_stop =>
      intro i p found
      rw [ids]
      by_cases last : i = e.intervals.length
      · rw [last, new] at found
        exact h.parent_openInterval found
      · rw [same i last] at found
        exact h.parent_openInterval found
    case within =>
      intro i alive
      rcases List.mem_cons.1 (live.mem_iff.1 alive) with rfl | old
      · omega
      · have := h.within i old
        omega
    case distinct =>
      refine live.nodup_iff.2 (List.nodup_cons.2 ⟨fun old => ?_, h.distinct⟩)
      exact Nat.lt_irrefl _ (h.within _ old)
    case numbers => rw [keys]; exact h.numbers
  · have old' : i ≠ e.intervals.length := by omega
    rw [same i old', (interval_openInterval e).1 i old']

/-- A mirror of a tab stop behind an expansion. -/
theorem Growing.mirror (h : e.Growing) {number : Nat} {stop : Stop} (found : e.stops.get? number = some stop) :
    let e' := { e.openInterval with stops := e.stops.modify number fun s =>
      { s with mirrors := s.mirrors ++ [e.intervals.length] } }.closeInterval e.intervals.length
    e'.Growing ∧ e.Extends e' := by
  intro e'
  obtain ⟨front, back, split, -⟩ := Entries.exists_split_of_get? found
  have numbers := h.numbers
  rw [split] at numbers
  have modified : e'.stops = Stops.modify e.stops number fun s =>
      { s with mirrors := s.mirrors ++ [e.intervals.length] } := rfl
  have stops : e'.stops =
      front ++ (number, { stop with mirrors := stop.mirrors ++ [e.intervals.length] }) :: back := by
    rw [modified, split, Stops.modify_split numbers]
  refine h.leaf rfl ?_ ?_ rfl ?_ ?_ ?_
  · rw [length_closeInterval]
    exact length_openInterval e
  · exact Extends.leaf ⟨rfl, Nat.le_refl _, fun _ _ => rfl⟩
  · rw [liveIds, liveIds, stops, split]
    show (_ ++ e.bindings.map _).Perm _
    simp only [List.flatMap_append, List.flatMap_cons, List.cons_append, List.append_assoc, List.nil_append]
    refine (List.Perm.append_left _ ?_).trans List.perm_middle
    exact (List.Perm.cons _ List.perm_middle).trans (.swap _ _ _)
  · rw [stopIds, stopIds, stops, split]
    simp
  · rw [modified, Stops.keys_modify]

/-- A substitution over a tab stop behind an expansion. -/
theorem Growing.substitution (h : e.Growing) (number : Nat) (t : Transform) :
    let closed := e.openInterval.closeInterval e.intervals.length
    let e' := { closed with bindings := closed.bindings ++ [⟨number, e.intervals.length, t⟩] }
    e'.Growing ∧ e.Extends e' := by
  intro closed e'
  refine h.leaf rfl ?_ ?_ rfl ?_ rfl rfl
  · show closed.intervals.length = _
    rw [length_closeInterval]
    exact length_openInterval e
  · exact Extends.leaf (.refl e.openInterval)
  · show (_ ++ (e.bindings ++ [_]).map _).Perm _
    rw [List.map_append, ← List.append_assoc]
    exact List.perm_append_singleton _ _

/-- A tab stop behind an expansion, with what it holds still to come. -/
theorem Growing.define (h : e.Growing) {number : Nat} (undefined : e.stops.get? number = none)
    (pipe : Option (List Char)) :
    Growing { e.openInterval with stops := e.stops.insert number ⟨e.intervals.length, pipe, []⟩ } := by
  have perm := Stops.insert_perm number ⟨e.intervals.length, pipe, []⟩ e.stops
  have ids : ((Stops.insert number ⟨e.intervals.length, pipe, []⟩ e.stops).map (·.2.interval)).Perm
      (e.intervals.length :: e.stopIds) := perm.map _
  have live :
      (liveIds { e.openInterval with stops := e.stops.insert number ⟨e.intervals.length, pipe, []⟩ }).Perm
        (e.intervals.length :: e.liveIds) := (perm.flatMap_right _).append_right _
  have keys : (Entries.keys (Stops.insert number ⟨e.intervals.length, pipe, []⟩ e.stops)).Perm
      (number :: Entries.keys e.stops) := perm.map _
  constructor
  case spans =>
    show Spans e.openInterval.interval e.openInterval.intervals.length _ e.text
    rw [length_openInterval]
    exact h.openInterval
  case place_stop =>
    rintro p ⟨⟩
    exact ids.mem_iff.2 List.mem_cons_self
  case parent_stop =>
    intro i p found
    exact ids.mem_iff.2 (List.mem_cons_of_mem _ (h.parent_openInterval found))
  case within =>
    intro i alive
    show i < e.openInterval.intervals.length
    rw [length_openInterval]
    rcases List.mem_cons.1 (live.mem_iff.1 alive) with rfl | old
    · omega
    · have := h.within i old
      omega
  case distinct =>
    refine live.nodup_iff.2 (List.nodup_cons.2 ⟨fun old => ?_, h.distinct⟩)
    exact Nat.lt_irrefl _ (h.within _ old)
  case numbers => exact keys.nodup_iff.2 (List.nodup_cons.2 ⟨Entries.get?_eq_none_iff.1 undefined, h.numbers⟩)

/-- Closing the interval that is open. -/
theorem Growing.close (h : e.Growing) {id : Nat} (place : e.parent = some id) : (e.closeInterval id).Growing := by
  have bound := h.spans.place_lt id place
  obtain ⟨same, new⟩ := interval_closeInterval e bound
  have parent (i : Nat) : ((e.closeInterval id).interval i).parent = (e.interval i).parent := by
    by_cases here : i = id
    · rw [here, new]
    · rw [same i here]
  constructor
  case spans =>
    have closed := (place ▸ h.spans).leave same new
    rwa [← length_closeInterval e id, ← parent_closeInterval e bound] at closed
  case place_stop =>
    intro p found
    rw [parent_closeInterval e bound] at found
    exact h.parent_stop id p found
  case parent_stop => exact fun i p found => h.parent_stop i p ((parent i).symm.trans found)
  case within =>
    rw [length_closeInterval]
    exact h.within
  case distinct => exact h.distinct
  case numbers => exact h.numbers

/-- A tab stop behind an expansion, closed behind what it holds. -/
theorem Growing.enclose (h : e'.Growing) {number : Nat} {stop : Stop}
    (more : ({ e.openInterval with stops := e.stops.insert number stop } : Expansion).Extends e') :
    (e'.closeInterval e.intervals.length).Growing ∧ e.Extends (e'.closeInterval e.intervals.length) := by
  obtain ⟨parent, length, kept⟩ := more
  have place : e'.parent = some e.intervals.length := parent
  have bound := h.spans.place_lt _ place
  have opened := e.lt_length_openInterval
  obtain ⟨same, -⟩ := interval_closeInterval e' bound
  refine ⟨h.close place, ?_, ?_, fun i old => ?_⟩
  · exact Extends.leaf ⟨parent, length, kept⟩
  · rw [length_closeInterval]
    omega
  · have earlier : i ≠ e.intervals.length := by omega
    rw [same i earlier, kept i (Nat.lt_trans old opened)]
    exact (interval_openInterval e).1 i earlier

/-! ## Templates -/

mutual

/-- A part of a template goes behind an expansion. -/
theorem growing_node (runner : Runner) (env : Environment) (indentUnit : List Char) :
    ∀ (n : Node) {e : Expansion}, e.Growing →
      (node runner env indentUnit e n).Growing ∧ e.Extends (node runner env indentUnit e n)
  | .text s, e, h => by
    rw [node]
    exact h.append rfl rfl rfl rfl rfl
  | .stop number placeholder pipe, e, h => by
    rw [node]
    split
    · exact h.append (List.append_nil _).symm rfl rfl rfl rfl
    cases found : e.openInterval.stops.get? number with
    | some stop =>
      simp only [found]
      exact h.mirror found
    | none =>
      simp only [found]
      -- the interval that was opened is the innermost one again when its placeholder has been expanded
      have defined := h.define found pipe
      obtain ⟨inner, more⟩ := growing_nodes runner env indentUnit placeholder defined
      exact inner.enclose more
  | .stopTransform number t, e, h => by
    rw [node]
    exact h.substitution number t
  | .var name, e, h => by
    rw [node]
    exact h.append rfl rfl rfl rfl rfl
  | .varOr name fallback, e, h => by
    rw [node]
    split
    · exact h.append rfl rfl rfl rfl rfl
    · exact growing_nodes runner env indentUnit fallback h
  | .varTransform name t, e, h => by
    rw [node]
    exact h.append rfl rfl rfl rfl rfl
  | .shell command, e, h => by
    rw [node]
    exact h.append rfl rfl rfl rfl rfl

theorem growing_nodes (runner : Runner) (env : Environment) (indentUnit : List Char) :
    ∀ (template : List Node) {e : Expansion}, e.Growing →
      (nodes runner env indentUnit e template).Growing ∧ e.Extends (nodes runner env indentUnit e template)
  | [], e, h => by
    rw [nodes]
    exact ⟨h, .refl e⟩
  | n :: rest, e, h => by
    rw [nodes]
    obtain ⟨first, more⟩ := growing_node runner env indentUnit n h
    obtain ⟨others, still⟩ := growing_nodes runner env indentUnit rest first
    exact ⟨others, more.trans still⟩

end

mutual

/-- Expanding a part of a template keeps the numbers of the tab stops in order. -/
theorem ascending_node (runner : Runner) (env : Environment) (indentUnit : List Char) :
    ∀ (n : Node) {e : Expansion}, (Entries.keys e.stops).Pairwise (· < ·) →
      (Entries.keys (node runner env indentUnit e n).stops).Pairwise (· < ·)
  | .text s, e, h => by
    rw [node]
    exact h
  | .stop number placeholder pipe, e, h => by
    rw [node]
    split
    · exact h
    cases found : e.openInterval.stops.get? number with
    | some stop =>
      simp only [found]
      rw [closeInterval, Stops.keys_modify]
      exact h
    | none =>
      simp only [found]
      exact ascending_nodes runner env indentUnit placeholder
        (Stops.ascending_insert (Entries.get?_eq_none_iff.1 found) h _)
  | .stopTransform number t, e, h => by
    rw [node]
    exact h
  | .var name, e, h => by
    rw [node]
    exact h
  | .varOr name fallback, e, h => by
    rw [node]
    split
    · exact h
    · exact ascending_nodes runner env indentUnit fallback h
  | .varTransform name t, e, h => by
    rw [node]
    exact h
  | .shell command, e, h => by
    rw [node]
    exact h

theorem ascending_nodes (runner : Runner) (env : Environment) (indentUnit : List Char) :
    ∀ (template : List Node) {e : Expansion}, (Entries.keys e.stops).Pairwise (· < ·) →
      (Entries.keys (nodes runner env indentUnit e template).stops).Pairwise (· < ·)
  | [], e, h => by
    rw [nodes]
    exact h
  | n :: rest, e, h => by
    rw [nodes]
    exact ascending_nodes runner env indentUnit rest (ascending_node runner env indentUnit n h)

end

/-- The tab stops of a template stand in the order of their numbers. -/
theorem ascending_ofNodes (runner : Runner) (env : Environment) (indentUnit : List Char) (template : List Node) :
    (Entries.keys (ofNodes runner env indentUnit template).stops).Pairwise (· < ·) :=
  ascending_nodes runner env indentUnit template .nil

/-- Nothing nests. -/
theorem growing_empty : ({} : Expansion).Growing := by
  have noParent {i p : Nat} (found : (({} : Expansion).interval i).parent = some p) : False := by
    simp [interval] at found
  have notBelow {i j : Nat} (below : Below ({} : Expansion).interval j i) : False := by
    cases below with
    | parent found => exact noParent found
    | step found _ => exact noParent found
  constructor
  case spans =>
    constructor
    case numbered => exact ⟨fun i p found => (noParent found).elim, fun i j k _ _ below => (notBelow below).elim⟩
    case beyond => exact fun i _ => by simp [interval]
    case place_lt => exact fun p found => by cases found
    case start => exact fun i bound => absurd bound (Nat.not_lt_zero i)
    case stop => exact fun i bound => absurd bound (Nat.not_lt_zero i)
    case inside => exact fun i p found => (noParent found).elim
    case apart => exact fun i j _ bound => absurd bound (Nat.not_lt_zero j)
  case place_stop => exact fun p found => by cases found
  case parent_stop => exact fun i p found => (noParent found).elim
  case within => exact fun i alive => absurd alive List.not_mem_nil
  case distinct => exact List.nodup_nil
  case numbers => exact List.nodup_nil

/-- The intervals of a template nest on its text, and all of them are closed. -/
theorem growing_ofNodes (runner : Runner) (env : Environment) (indentUnit : List Char) (template : List Node) :
    (ofNodes runner env indentUnit template).Growing ∧
      (ofNodes runner env indentUnit template).parent = none := by
  obtain ⟨growing, more⟩ := growing_nodes runner env indentUnit template growing_empty
  exact ⟨growing, more.parent⟩

/-! ## Indentation -/

/-- Where a place is once `distance` octets were put behind `position`. -/
def placed (position distance n : Nat) : Nat := if position < n then n + distance else n

theorem placed_le_placed {position distance m n : Nat} (order : m ≤ n) :
    placed position distance m ≤ placed position distance n := by
  unfold placed
  split_ifs <;> omega

theorem shiftFrom_eq {i : Interval} (order : i.start ≤ i.stop) (position distance : Nat) :
    (i.shiftFrom position (distance : Int)).start = placed position distance i.start ∧
      (i.shiftFrom position (distance : Int)).stop = placed position distance i.stop := by
  unfold Interval.shiftFrom placed
  split
  · simp only [shifted]
    split <;> omega
  · exact ⟨by rw [if_neg (by omega)], rfl⟩

theorem parent_shiftFrom (i : Interval) (position : Nat) (distance : Int) :
    (i.shiftFrom position distance).parent = i.parent := by
  unfold Interval.shiftFrom
  split <;> rfl

/-- Text behind a character moves the boundaries behind it, and those alone. -/
theorem placed_boundary {before rest : List Char} {c : Char} {n : Nat}
    (bound : IsBoundary (before ++ c :: rest) n)
    (indent : List Char) :
    IsBoundary (before ++ c :: indent ++ rest) (placed (byteLength before) (byteLength indent) n) := by
  rw [placed]
  split
  · next behind =>
    have inside : IsBoundary (c :: rest) (n - byteLength before) := bound.of_ge (Nat.le_of_lt behind)
    obtain ⟨first, others, same, length⟩ := inside
    cases first with
    | nil =>
      rw [Text.byteLength_nil] at length
      omega
    | cons d first =>
      obtain ⟨rfl, rfl⟩ := List.cons.inj same
      refine ⟨before ++ c :: indent ++ first, others, by simp, ?_⟩
      simp only [Text.byteLength_append, Text.byteLength_cons] at length ⊢
      omega
  · next ahead =>
    have inside := bound.of_le (Nat.le_of_not_lt ahead)
    rw [List.append_assoc]
    exact inside.append_right _

/-- Intervals by their numbers. -/
def intervalIn (intervals : List Interval) (id : Nat) : Interval := intervals.getD id ⟨0, 0, none⟩

theorem intervalIn_shiftFrom (intervals : List Interval) (position distance i : Nat) :
    intervalIn (intervals.map (·.shiftFrom position (distance : Int))) i =
      (intervalIn intervals i).shiftFrom position (distance : Int) := by
  by_cases bound : i < intervals.length
  · simp [intervalIn, List.getD_eq_getElem?_getD, bound]
  · have far : intervals.length ≤ i := Nat.le_of_not_lt bound
    simp [intervalIn, List.getD_eq_getElem?_getD, far, Interval.shiftFrom]

/-- Indenting keeps the intervals nested. -/
theorem nested_indentFrom (indent rest : List Char) (finish : Nat) {before : List Char}
    {intervals : List Interval}
    {live : Nat → Prop} (h : Nested (intervalIn intervals) live (before ++ rest)) :
    let indented := indentFrom indent before intervals finish rest
    Nested (intervalIn indented.2.1) live indented.1 ∧ indented.2.1.length = intervals.length ∧
      ∀ i, (intervalIn indented.2.1 i).parent = (intervalIn intervals i).parent := by
  induction rest generalizing before intervals finish with
  | nil => exact ⟨by simpa [indentFrom] using h, rfl, fun _ => rfl⟩
  | cons c rest ih =>
    rw [indentFrom]
    split
    · have shift := intervalIn_shiftFrom intervals (byteLength before) (byteLength indent)
      have parent (i : Nat) := (congrArg Interval.parent (shift i)).trans (parent_shiftFrom _ _ _)
      have moved : Nested
          (intervalIn (intervals.map (·.shiftFrom (byteLength before) (byteLength indent : Int)))) live
          (before ++ c :: indent ++ rest) := by
        refine h.map (fun m n => placed_le_placed) (fun n bound => placed_boundary bound indent) parent
          fun i alive => ?_
        rw [shift]
        exact shiftFrom_eq (h.start_le_stop i alive) _ _
      obtain ⟨nested, length, parents⟩ := ih _ moved
      exact ⟨nested, length.trans (List.length_map _), fun i => (parents i).trans (parent i)⟩
    · have same : before ++ c :: rest = before ++ [c] ++ rest := by simp
      exact ih _ (same ▸ h)

/-- Indenting a whole expansion keeps its intervals nested. -/
theorem Growing.nested_indentLines {e : Expansion} (growing : e.Growing) (closed : e.parent = none) (indent : List Char) :
    Nested (intervalIn (e.indentLines indent).intervals) (· < e.intervals.length) (e.indentLines indent).text ∧
      (e.indentLines indent).intervals.length = e.intervals.length ∧
      ∀ i, (intervalIn (e.indentLines indent).intervals i).parent = (e.interval i).parent := by
  have spans := growing.spans
  rw [closed] at spans
  have whole : Nested (intervalIn e.intervals) (· < e.intervals.length) ([] ++ e.text) := spans.nested
  exact nested_indentFrom indent e.text e.finishPosition whole

end Expansion

end EditorBundles.Snippet
