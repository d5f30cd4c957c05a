import EditorBundles.Proofs.Snippet.Buffer
import EditorBundles.Proofs.Snippet.Nesting
import EditorBundles.Snippet.Session

/-!
# Resizing and dropping intervals of a session

The live intervals of a session are those of its tab stops, their mirrors and its substitutions.
`Session.Tree` says that they nest on the text of the snippet and that only tab stops hold others. A
change of length moves the live intervals as the text moves, and dropping what lies inside an interval
leaves the other live ones alone.
-/

namespace EditorBundles.Snippet.Session
set_option autoImplicit false
open Text (byteLength IsBoundary slice?)

/-- The intervals that show something: of tab stops, mirrors and substitutions. -/
def liveIds (s : Session) : List Nat :=
  s.stops.flatMap (fun stop => stop.2.interval :: stop.2.mirrors) ++ s.bindings.map (·.interval)

/-- The intervals of tab stops. -/
def stopIds (s : Session) : List Nat := s.stops.map (·.2.interval)

/-- The live intervals of a session nest on the text of its snippet. -/
structure Tree (s : Session) (region : List Char) : Prop where
  numbered : Numbered s.interval
  nested : Nested s.interval (· ∈ s.liveIds) region
  within : ∀ i ∈ s.liveIds, i < s.intervals.length
  distinct : s.liveIds.Nodup
  numbers : (Entries.keys s.stops).Nodup
  parent_stop : ∀ i ∈ s.liveIds, ∀ p, (s.interval i).parent = some p → p ∈ s.stopIds

variable {s : Session} {id : Nat} {live : Nat → Prop} {region : List Char}

/-! ## Ancestors -/

theorem mem_ancestorsUpTo (numbered : Numbered s.interval) {fuel a : Nat} (enough : id < fuel) :
    a ∈ s.ancestorsUpTo fuel id ↔ Below s.interval id a := by
  induction fuel generalizing id with
  | zero => omega
  | succ fuel ih =>
    rw [ancestorsUpTo]
    cases found : (s.interval id).parent with
    | none =>
      refine ⟨fun member => absurd member List.not_mem_nil, fun below => ?_⟩
      cases below with
      | parent h => simp [found] at h
      | step h => simp [found] at h
    | some p =>
      have less := numbered.parent_lt id p found
      rw [List.mem_cons, ih (by omega)]
      constructor
      · rintro (rfl | below)
        · exact .parent found
        · exact .step found below
      · intro below
        exact (below.parent_or found).imp_left Eq.symm

theorem isDescendant_iff (numbered : Numbered s.interval) {a : Nat} :
    s.isDescendant id a = true ↔ Below s.interval id a := by
  rw [isDescendant, List.contains_iff_mem]
  exact mem_ancestorsUpTo numbered (Nat.lt_succ_self id)

/-! ## Resizing -/

theorem length_resize (s : Session) (id : Nat) (distance : Int) :
    (s.resize id distance).intervals.length = s.intervals.length := by
  unfold resize
  split <;> simp

/-- Resizing touches the intervals and the end marker only. -/
theorem resize_eq (s : Session) (id : Nat) (distance : Int) :
    s.resize id distance = { s with
      intervals := (s.resize id distance).intervals
      finish := (s.resize id distance).finish } := by
  unfold resize
  split <;> rfl

theorem interval_of_le {i : Nat} (h : s.intervals.length ≤ i) : s.interval i = ⟨0, 0, none⟩ :=
  by simp [interval, List.getD_eq_getElem?_getD, h]

theorem interval_mapIdx {f : Nat → Interval → Interval} {t : Session} (h : t.intervals = s.intervals.mapIdx f)
    {i : Nat} (bound : i < s.intervals.length) : t.interval i = f i (s.interval i) := by
  simp [interval, h, List.getD_eq_getElem?_getD, bound]

theorem parent_mapIdx {f : Nat → Interval → Interval} {t : Session} (h : t.intervals = s.intervals.mapIdx f)
    (same : ∀ i iv, (f i iv).parent = iv.parent) (i : Nat) : (t.interval i).parent = (s.interval i).parent := by
  by_cases bound : i < s.intervals.length
  · rw [interval_mapIdx h bound, same]
  · have length : t.intervals.length = s.intervals.length := by simp [h]
    rw [interval_of_le (by omega), interval_of_le (by omega)]

/-- A change of length moves the live intervals as it moves the text. -/
theorem moves_resize (numbered : Numbered s.interval) (nested : Nested s.interval live region)
    (within : ∀ i, live i → i < s.intervals.length) (alive : live id)
    (leaf : ∀ i, live i → ¬ Below s.interval i id)
    {old : Nat} (stop : (s.interval id).stop = (s.interval id).start + old) (new : Nat) :
    Moves s.interval (s.resize id ((new : Int) - old)).interval live id old new := by
  by_cases same : (new : Int) - old = 0
  · have equal : new = old := by omega
    subst equal
    rw [resize, if_pos same]
    exact ⟨fun _ => rfl, fun _ _ _ => ⟨rfl, rfl⟩, fun _ _ _ _ => ⟨rfl, rfl⟩, fun _ _ _ => ⟨rfl, rfl⟩⟩
  have shape : (s.resize id ((new : Int) - old)).intervals = s.intervals.mapIdx fun index i =>
      if index = id ∨ (s.ancestors id).contains index then { i with stop := shifted i.stop ((new : Int) - old) }
      else if id < index then
        { i with
          start :=
            if i.start = (s.interval id).start ∧ s.isDescendant index id then i.start
            else shifted i.start ((new : Int) - old)
          stop := shifted i.stop ((new : Int) - old) }
      else i := by rw [resize, if_neg same]
  have around {i : Nat} : (s.ancestors id).contains i = true ↔ Below s.interval id i := by
    rw [← isDescendant_iff numbered, isDescendant]
  constructor
  case parent =>
    refine parent_mapIdx shape fun i iv => ?_
    split_ifs <;> rfl
  case grown =>
    intro i other place
    rw [interval_mapIdx shape (within i other), if_pos (place.imp_right around.2)]
    have beyond : (s.interval id).stop ≤ (s.interval i).stop := by
      rcases place with rfl | below
      · exact Nat.le_refl _
      · exact (nested.around alive below).2.2
    exact ⟨rfl, by simp only [shifted]; omega⟩
  case kept =>
    intro i other before apart
    have notAround : ¬ (i = id ∨ (s.ancestors id).contains i = true) := by
      rintro (same | contained)
      · omega
      · exact apart (around.1 contained)
    rw [interval_mapIdx shape (within i other), if_neg notAround, if_neg (by omega)]
    exact ⟨rfl, rfl⟩
  case moved =>
    intro i other behind
    have notAround : ¬ (i = id ∨ (s.ancestors id).contains i = true) := by
      rintro (same | contained)
      · omega
      · have := numbered.lt (around.1 contained)
        omega
    have notInside : ¬ ((s.interval i).start = (s.interval id).start ∧ s.isDescendant i id = true) :=
      fun inside => leaf i other ((isDescendant_iff numbered).1 inside.2)
    have beyond := (nested.apart id i alive other behind).resolve_left (leaf i other)
    have order := nested.start_le_stop i other
    rw [interval_mapIdx shape (within i other), if_neg notAround, if_pos behind]
    simp only [notInside, if_false, shifted]
    omega

/-! ## Sessions that differ in where their intervals are -/

/-- `t` is `s` with its intervals and its end marker elsewhere. -/
structure Alike (s t : Session) : Prop where
  stops : t.stops = s.stops
  bindings : t.bindings = s.bindings
  offset : t.offset = s.offset
  current : t.current = s.current
  indent : t.indent = s.indent
  indentUnit : t.indentUnit = s.indentUnit
  length : t.intervals.length = s.intervals.length
  parent : ∀ i, (t.interval i).parent = (s.interval i).parent

namespace Alike

variable {t u : Session}

theorem refl (s : Session) : s.Alike s := ⟨rfl, rfl, rfl, rfl, rfl, rfl, rfl, fun _ => rfl⟩

theorem trans (first : s.Alike t) (second : t.Alike u) : s.Alike u where
  stops := second.stops.trans first.stops
  bindings := second.bindings.trans first.bindings
  offset := second.offset.trans first.offset
  current := second.current.trans first.current
  indent := second.indent.trans first.indent
  indentUnit := second.indentUnit.trans first.indentUnit
  length := second.length.trans first.length
  parent i := (second.parent i).trans (first.parent i)

theorem liveIds (h : s.Alike t) :
    t.liveIds = s.liveIds := by rw [Session.liveIds, h.stops, h.bindings, Session.liveIds]

theorem stopIds (h : s.Alike t) : t.stopIds = s.stopIds := by rw [Session.stopIds, h.stops, Session.stopIds]

theorem below (h : s.Alike t) {i j : Nat} : Below t.interval j i ↔ Below s.interval j i :=
  ⟨.congr fun i => (h.parent i).symm, .congr h.parent⟩

theorem isDescendant (h : s.Alike t) (numbered : Numbered s.interval) (i j : Nat) :
    t.isDescendant i j = s.isDescendant i j := by
  rw [Bool.eq_iff_iff, isDescendant_iff (numbered.congr h.parent), isDescendant_iff numbered, h.below]

theorem indentText (h : s.Alike t) (text : List Char) : t.indentText text = s.indentText text := by
  rw [Session.indentText, h.indent, Session.indentText]

theorem nested (h : s.Alike t) (numbered : Numbered s.interval) (id : Nat) : t.nested id = s.nested id := by
  rw [Session.nested, Session.nested, h.length]
  exact List.filter_congr fun i _ => by rw [h.isDescendant numbered]

/-- Nested intervals elsewhere make a tree there. -/
theorem tree (h : s.Alike t) (numbered : Numbered s.interval) (within : ∀ i ∈ s.liveIds, i < s.intervals.length)
    (distinct : s.liveIds.Nodup) (numbers : (Entries.keys s.stops).Nodup)
    (parent_stop : ∀ i ∈ s.liveIds, ∀ p, (s.interval i).parent = some p → p ∈ s.stopIds)
    (nested : Nested t.interval (· ∈ s.liveIds) region) : t.Tree region where
  numbered := numbered.congr h.parent
  nested := by rwa [h.liveIds]
  within := by rwa [h.liveIds, h.length]
  distinct := by rwa [h.liveIds]
  numbers := by rwa [h.stops]
  parent_stop := by
    rw [h.liveIds, h.stopIds]
    exact fun i alive p found => parent_stop i alive p ((h.parent i).symm.trans found)

end Alike

theorem alike_resize (numbered : Numbered s.interval) (nested : Nested s.interval live region)
    (within : ∀ i, live i → i < s.intervals.length) (alive : live id)
    (leaf : ∀ i, live i → ¬ Below s.interval i id)
    {old : Nat} (stop : (s.interval id).stop = (s.interval id).start + old) (new : Nat) :
    s.Alike (s.resize id ((new : Int) - old)) := by
  have parent := (moves_resize numbered nested within alive leaf stop new).parent
  rw [resize_eq] at parent ⊢
  exact ⟨rfl, rfl, rfl, rfl, rfl, rfl, length_resize s id _, parent⟩

/-! ## Dropping -/

theorem mem_nested (numbered : Numbered s.interval) {i : Nat} :
    i ∈ s.nested id ↔ i < s.intervals.length ∧ Below s.interval i id := by
  rw [nested, List.mem_filter, List.mem_range, Bool.and_eq_true, decide_eq_true_eq, isDescendant_iff numbered]
  constructor
  · exact fun h => ⟨h.1, h.2.2⟩
  · exact fun h => ⟨h.1, numbered.lt h.2, h.2⟩

/-- Dropping leaves the parents and what lies outside alone. -/
theorem interval_dropNested (s : Session) (id : Nat) :
    (∀ i, ((s.dropNested id).interval i).parent = (s.interval i).parent) ∧
      ∀ i, i ∉ s.nested id → (s.dropNested id).interval i = s.interval i := by
  have shape : (s.dropNested id).intervals = s.intervals.mapIdx fun index i =>
      if (s.nested id).contains index then
        { i with start := (s.interval id).start, stop := (s.interval id).start }
      else i := rfl
  constructor
  · refine parent_mapIdx shape fun i iv => ?_
    split_ifs <;> rfl
  · intro i outside
    by_cases bound : i < s.intervals.length
    · rw [interval_mapIdx shape bound, if_neg (by simpa using outside)]
    · have length : (s.dropNested id).intervals.length = s.intervals.length := by simp [dropNested]
      rw [interval_of_le (by omega), interval_of_le (by omega)]

theorem length_dropNested (s : Session) (id : Nat) : (s.dropNested id).intervals.length = s.intervals.length := by
  simp [dropNested]

theorem keys_dropNested (s : Session) (id : Nat) :
    (Entries.keys (s.dropNested id).stops).Sublist (Entries.keys s.stops) := by
  have same : Entries.keys (s.dropNested id).stops =
      Entries.keys (s.stops.filter fun stop => !(s.nested id).contains stop.2.interval) := by
    simp [dropNested, Entries.keys, Function.comp_def]
  rw [same]
  exact List.filter_sublist.map Prod.fst

theorem mem_stopIds_dropNested {i : Nat} : i ∈ (s.dropNested id).stopIds ↔ i ∈ s.stopIds ∧ i ∉ s.nested id := by
  simp only [stopIds, dropNested, List.map_map, List.mem_map, List.mem_filter, Function.comp_apply,
    Bool.not_eq_true', List.contains_eq_mem, decide_eq_false_iff_not]
  constructor
  · rintro ⟨stop, ⟨member, outside⟩, rfl⟩
    exact ⟨⟨stop, member, rfl⟩, outside⟩
  · rintro ⟨⟨stop, member, rfl⟩, outside⟩
    exact ⟨stop, ⟨member, outside⟩, rfl⟩

/-- What is live behind a drop was live before, and does not lie inside. -/
theorem sublist_liveIds_dropNested (s : Session) (id : Nat) :
    (s.dropNested id).liveIds.Sublist (s.liveIds.filter fun i => !(s.nested id).contains i) := by
  have stops (stops : Stops) :
      (((stops.filter fun stop => !(s.nested id).contains stop.2.interval).map fun stop =>
        (stop.1, { stop.2 with mirrors := stop.2.mirrors.filter fun m => !(s.nested id).contains m })).flatMap
          fun stop => stop.2.interval :: stop.2.mirrors).Sublist
      ((stops.flatMap fun stop => stop.2.interval :: stop.2.mirrors).filter fun i => !(s.nested id).contains i) := by
    induction stops with
    | nil => exact List.Sublist.slnil
    | cons stop stops ih =>
      rw [List.flatMap_cons, List.filter_append, List.filter_cons]
      cases inside : (s.nested id).contains stop.2.interval with
      | true => exact ih.trans (List.sublist_append_right _ _)
      | false =>
        rw [List.filter_cons, inside]
        exact (List.Sublist.refl _).append ih
  rw [liveIds, liveIds, List.filter_append, List.filter_map]
  exact (stops s.stops).append (List.Sublist.refl _)

theorem mem_liveIds_dropNested {i : Nat} (alive : i ∈ (s.dropNested id).liveIds) :
    i ∈ s.liveIds ∧ i ∉ s.nested id := by
  have member := (sublist_liveIds_dropNested s id).subset alive
  simpa using member

theorem mem_stopIds_of_get? {number : Nat} {stop : Stop} (found : s.stops.get? number = some stop) :
    stop.interval ∈ s.stopIds :=
  List.mem_map_of_mem (Entries.mem_of_get? found)

theorem mem_liveIds_of_mem_stopIds {i : Nat} (member : i ∈ s.stopIds) : i ∈ s.liveIds := by
  obtain ⟨stop, found, rfl⟩ := List.mem_map.1 member
  exact List.mem_append_left _ (List.mem_flatMap.2 ⟨stop, found, List.mem_cons_self⟩)

/-- A tab stop that is not dropped keeps its number. -/
theorem get?_dropNested {number : Nat} {stop : Stop} (found : s.stops.get? number = some stop)
    (outside : stop.interval ∉ s.nested id) :
    (s.dropNested id).stops.get? number =
      some { stop with mirrors := stop.mirrors.filter fun m => !(s.nested id).contains m } := by
  obtain ⟨front, back, split, fresh⟩ := Entries.exists_split_of_get? found
  have kept : (!(s.nested id).contains stop.interval) = true := by simpa using outside
  rw [Session.dropNested, Stops.get?]
  simp only [split, List.filter_append, List.filter_cons, kept, if_true, List.map_append, List.map_cons]
  refine Entries.get?_split (fun member => fresh ?_) _
  obtain ⟨changed, inside, rfl⟩ := List.mem_map.1 member
  obtain ⟨entry, earlier, rfl⟩ := List.mem_map.1 inside
  exact List.mem_map.2 ⟨entry, (List.mem_filter.1 earlier).1, rfl⟩

namespace Tree

/-- A live interval of a mirror or a substitution holds no live interval. -/
theorem leaf (h : s.Tree region) (notStop : id ∉ s.stopIds) : ∀ i ∈ s.liveIds, ¬ Below s.interval i id := by
  intro i alive below
  induction below with
  | parent found => exact notStop (h.parent_stop _ alive _ found)
  | step found _ ih => exact ih notStop (h.nested.up _ _ alive found)

/-- What was live and lies outside has all that is around it outside. -/
theorem dropNested_up (h : s.Tree region) :
    ∀ i p, i ∈ (s.dropNested id).liveIds → (s.interval i).parent = some p → p ∈ (s.dropNested id).stopIds := by
  intro i p alive found
  obtain ⟨before, outside⟩ := mem_liveIds_dropNested alive
  refine mem_stopIds_dropNested.2 ⟨h.parent_stop i before p found, fun inside => outside ?_⟩
  have above := ((mem_nested h.numbered).1 inside).2
  exact (mem_nested h.numbered).2 ⟨h.within i before, .step found above⟩

/-- Replacing the text of a live interval that holds no live interval. -/
theorem splice {l old r : List Char} (h : s.Tree (l ++ old ++ r)) (alive : id ∈ s.liveIds)
    (leaf : ∀ i ∈ s.liveIds, ¬ Below s.interval i id) (start : (s.interval id).start = byteLength l)
    (stop : (s.interval id).stop = byteLength l + byteLength old) (new : List Char) :
    s.Alike (s.resize id ((byteLength new : Int) - byteLength old)) ∧
      Splice s.interval (s.resize id ((byteLength new : Int) - byteLength old)).interval (· ∈ s.liveIds) id
        l old new r := by
  have length : (s.interval id).stop = (s.interval id).start + byteLength old := by omega
  refine ⟨alike_resize h.numbered h.nested h.within alive leaf length _, ?_⟩
  exact ⟨h.numbered, h.nested, alive, leaf, start, stop,
    moves_resize h.numbered h.nested h.within alive leaf length _⟩

/-- The live intervals nest on the text with the replacement. -/
theorem resize {l old r : List Char} (h : s.Tree (l ++ old ++ r)) (alive : id ∈ s.liveIds)
    (leaf : ∀ i ∈ s.liveIds, ¬ Below s.interval i id) (start : (s.interval id).start = byteLength l)
    (stop : (s.interval id).stop = byteLength l + byteLength old) (new : List Char) :
    (s.resize id ((byteLength new : Int) - byteLength old)).Tree (l ++ new ++ r) := by
  obtain ⟨alike, splice⟩ := h.splice alive leaf start stop new
  exact alike.tree h.numbered h.within h.distinct h.numbers h.parent_stop splice.nests

end Tree

/-- The session after the text of interval `id` has gone from `old` octets to `new` and what lies inside
it has been dropped. -/
def rewritten (s : Session) (id old new : Nat) : Session := (s.resize id ((new : Int) - old)).dropNested id

namespace Tree

variable {l old r : List Char}

/-- A tab stop does not lie inside itself. -/
theorem mem_stopIds_dropNested_self (h : s.Tree region) (stopId : id ∈ s.stopIds) :
    id ∈ (s.dropNested id).stopIds := by
  refine mem_stopIds_dropNested.2 ⟨stopId, fun inside => ?_⟩
  exact Nat.lt_irrefl id (h.numbered.lt ((mem_nested h.numbered).1 inside).2)

/-- What is left of a tree, with one of its tab stops rewritten. -/
theorem splice_rewritten (h : s.Tree (l ++ old ++ r)) (stopId : id ∈ s.stopIds)
    (start : (s.interval id).start = byteLength l) (stop : (s.interval id).stop = byteLength l + byteLength old)
    (new : List Char) :
    (s.dropNested id).Alike (s.rewritten id (byteLength old) (byteLength new)) ∧
      (∀ i ∈ (s.dropNested id).liveIds, (s.rewritten id (byteLength old) (byteLength new)).interval i =
        (s.resize id ((byteLength new : Int) - byteLength old)).interval i) ∧
      Splice s.interval (s.resize id ((byteLength new : Int) - byteLength old)).interval
        (· ∈ (s.dropNested id).liveIds) id l old new r := by
  have length : (s.interval id).stop = (s.interval id).start + byteLength old := by omega
  have alive := mem_liveIds_of_mem_stopIds (h.mem_stopIds_dropNested_self stopId)
  have before {i : Nat} (alive : i ∈ (s.dropNested id).liveIds) := (mem_liveIds_dropNested alive).1
  have fewer : Nested s.interval (· ∈ (s.dropNested id).liveIds) (l ++ old ++ r) :=
    h.nested.mono (fun _ => before) fun i p alive found => mem_liveIds_of_mem_stopIds (h.dropNested_up i p alive found)
  have leaf : ∀ i ∈ (s.dropNested id).liveIds, ¬ Below s.interval i id := by
    intro i alive below
    obtain ⟨live, outside⟩ := mem_liveIds_dropNested alive
    exact outside ((mem_nested h.numbered).2 ⟨h.within i live, below⟩)
  have within : ∀ i ∈ (s.dropNested id).liveIds, i < s.intervals.length :=
    fun i alive => h.within i (before alive)
  have alike := alike_resize h.numbered fewer within alive leaf length (byteLength new)
  have nested := alike.nested h.numbered id
  obtain ⟨parent, same⟩ := interval_dropNested (s.resize id ((byteLength new : Int) - byteLength old)) id
  obtain ⟨parent', -⟩ := interval_dropNested s id
  refine ⟨?_, ?_, h.numbered, fewer, alive, leaf, start, stop,
    moves_resize h.numbered fewer within alive leaf length _⟩
  · constructor
    case stops => rw [rewritten, Session.dropNested, Session.dropNested, nested, alike.stops]
    case bindings => rw [rewritten, Session.dropNested, Session.dropNested, nested, alike.bindings]
    case offset => exact alike.offset
    case current => exact alike.current
    case indent => exact alike.indent
    case indentUnit => exact alike.indentUnit
    case length => rw [rewritten, length_dropNested, length_dropNested, alike.length]
    case parent => exact fun i => ((parent i).trans (alike.parent i)).trans (parent' i).symm
  · intro i alive
    exact same i (nested ▸ (mem_liveIds_dropNested alive).2)

theorem rewritten (h : s.Tree (l ++ old ++ r)) (stopId : id ∈ s.stopIds)
    (start : (s.interval id).start = byteLength l)
    (stop : (s.interval id).stop = byteLength l + byteLength old) (new : List Char) :
    (s.rewritten id (byteLength old) (byteLength new)).Tree (l ++ new ++ r) := by
  obtain ⟨alike, same, splice⟩ := h.splice_rewritten stopId start stop new
  obtain ⟨parent, -⟩ := interval_dropNested s id
  refine alike.tree (h.numbered.congr parent) ?_ ?_ ?_ ?_ ?_
  · intro i alive
    rw [length_dropNested]
    exact h.within i (mem_liveIds_dropNested alive).1
  · exact (sublist_liveIds_dropNested s id).nodup (h.distinct.filter _)
  · exact (keys_dropNested s id).nodup h.numbers
  · intro i alive p found
    exact h.dropNested_up i p alive ((parent i).symm.trans found)
  · refine splice.nests.congr (fun i => ?_) same
    exact ((alike.parent i).trans (parent i)).trans (splice.moves.parent i).symm

end Tree

end EditorBundles.Snippet.Session
