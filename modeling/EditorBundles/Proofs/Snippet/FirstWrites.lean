import EditorBundles.Proofs.Snippet.Indentation
import EditorBundles.Proofs.Snippet.Placeholders

/-!
# The first writes of a session

In an expansion the mirrors and substitutions of tab stops have no text yet: each gets its first one when the session over
the expansion is brought up to date. A first text is inserted and replaces nothing, so it leaves the end marker between
characters, wherever that is.
-/

namespace EditorBundles.Snippet
set_option autoImplicit false
open Text (byteLength IsBoundary)

/-! ## Expansions -/

namespace Stops

/-- A mirror that is added belongs to a tab stop that is there. -/
theorem mem_mirrors_modify {stops : Stops} {number id i : Nat}
    (member : i ∈ (stops.modify number fun s => { s with mirrors := s.mirrors ++ [id] }).flatMap (·.2.mirrors)) :
    i = id ∨ i ∈ stops.flatMap (·.2.mirrors) := by
  obtain ⟨_, changed, shown⟩ := List.mem_flatMap.1 member
  obtain ⟨entry, here, rfl⟩ := List.mem_map.1 changed
  split at shown
  · rcases List.mem_append.1 shown with old | new
    · exact .inr (List.mem_flatMap.2 ⟨entry, here, old⟩)
    · exact .inl (List.mem_singleton.1 new)
  · exact .inr (List.mem_flatMap.2 ⟨entry, here, shown⟩)

theorem map_interval_modify (stops : Stops) (number id : Nat) :
    (stops.modify number fun s => { s with mirrors := s.mirrors ++ [id] }).map (·.2.interval) =
      stops.map (·.2.interval) := by
  rw [modify, List.map_map]
  refine List.map_congr_left fun entry _ => ?_
  rw [Function.comp_apply]
  split <;> rfl

end Stops

namespace Expansion

variable {e e' : Expansion}

/-- The intervals of mirrors and substitutions. -/
def shownIds (e : Expansion) : List Nat := e.stops.flatMap (·.2.mirrors) ++ e.bindings.map (·.interval)

/-- Mirrors and substitutions have intervals of their own, with no text in them. -/
def Hollow (e : Expansion) : Prop :=
  ∀ i ∈ e.shownIds, i ∉ e.stopIds ∧ i < e.intervals.length ∧ (e.interval i).stop = (e.interval i).start

/-- What brings no intervals leaves those of mirrors and substitutions empty. -/
theorem Hollow.congr (h : e.Hollow) (intervals : e'.intervals = e.intervals) (stops : e'.stops = e.stops)
    (bindings : e'.bindings = e.bindings) : e'.Hollow := by
  intro i member
  rw [shownIds, stops, bindings] at member
  rw [stopIds, stops, interval, intervals]
  exact h i member

/-- A new interval that is opened and closed again is empty. -/
theorem Hollow.leaf (h : e.Hollow) (growing : e.Growing)
    (opened : e'.intervals = (e.openInterval.closeInterval e.intervals.length).intervals)
    (shown : ∀ i ∈ e'.shownIds, i = e.intervals.length ∨ i ∈ e.shownIds) (ids : e'.stopIds = e.stopIds) : e'.Hollow := by
  have bound := e.lt_length_openInterval
  obtain ⟨same, new⟩ := interval_closeInterval e.openInterval bound
  have length : e'.intervals.length = e.intervals.length + 1 := by
    rw [opened, length_closeInterval, length_openInterval]
  have inside (i : Nat) : e'.interval i = (e.openInterval.closeInterval e.intervals.length).interval i := by
    rw [interval, opened, interval]
  intro i member
  rw [inside, ids, length]
  rcases shown i member with rfl | old
  · refine ⟨fun stop => Nat.lt_irrefl _ (growing.lt_of_mem_stopIds stop), by omega, ?_⟩
    rw [new, (interval_openInterval e).2]
    rfl
  · obtain ⟨notStop, inside, empty⟩ := h i old
    have earlier : i ≠ e.intervals.length := by omega
    rw [same i earlier, (interval_openInterval e).1 i earlier]
    exact ⟨notStop, by omega, empty⟩

/-- A tab stop that is defined is no mirror. -/
theorem Hollow.define (h : e.Hollow) (number : Nat) (pipe : Option (List Char)) :
    Hollow { e.openInterval with stops := e.stops.insert number ⟨e.intervals.length, pipe, []⟩ } := by
  have perm := Stops.insert_perm number ⟨e.intervals.length, pipe, []⟩ e.stops
  have ids : ((Stops.insert number ⟨e.intervals.length, pipe, []⟩ e.stops).map (·.2.interval)).Perm
      (e.intervals.length :: e.stopIds) := perm.map _
  have shown : (shownIds { e.openInterval with stops := e.stops.insert number ⟨e.intervals.length, pipe, []⟩ }).Perm
      e.shownIds := (perm.flatMap_right _).append_right _
  intro i member
  obtain ⟨notStop, inside, empty⟩ := h i (shown.mem_iff.1 member)
  have earlier : i ≠ e.intervals.length := by omega
  have same : (e.openInterval.interval i) = e.interval i := (interval_openInterval e).1 i earlier
  refine ⟨fun stop => ?_, Nat.lt_trans inside e.lt_length_openInterval, (same ▸ empty : _)⟩
  rcases List.mem_cons.1 (ids.mem_iff.1 stop) with last | old
  · exact earlier last
  · exact notStop old

/-- Closing a tab stop gives no mirror a text. -/
theorem Hollow.close (h : e.Hollow) (growing : e.Growing) {id : Nat} (place : e.parent = some id) :
    (e.closeInterval id).Hollow := by
  have bound := growing.spans.place_lt id place
  have isStop := growing.place_stop id place
  obtain ⟨same, -⟩ := interval_closeInterval e bound
  intro i member
  obtain ⟨notStop, inside, empty⟩ := h i member
  have other : i ≠ id := fun here => notStop (here ▸ isStop)
  rw [same i other, length_closeInterval]
  exact ⟨notStop, inside, empty⟩

mutual

/-- Expanding a part of a template leaves mirrors and substitutions empty. -/
theorem hollow_node (runner : Runner) (env : Environment) (indentUnit : List Char) :
    ∀ (n : Node) {e : Expansion}, e.Growing → e.Hollow → (node runner env indentUnit e n).Hollow
  | .text s, e, growing, h => by
    rw [node]
    exact h.congr rfl rfl rfl
  | .stop number placeholder pipe, e, growing, h => by
    rw [node]
    split
    · exact h.congr rfl rfl rfl
    cases found : e.openInterval.stops.get? number with
    | some stop =>
      simp only [found]
      refine h.leaf growing rfl (fun i member => ?_) ?_
      · rcases List.mem_append.1 member with mirror | substitution
        · exact (Stops.mem_mirrors_modify mirror).imp_right (List.mem_append_left _)
        · exact .inr (List.mem_append_right _ substitution)
      · exact Stops.map_interval_modify e.stops number e.intervals.length
    | none =>
      simp only [found]
      have defined := growing.define found pipe
      obtain ⟨inner, more⟩ := growing_nodes runner env indentUnit placeholder defined
      exact (hollow_nodes runner env indentUnit placeholder defined (h.define number pipe)).close inner more.parent
  | .stopTransform number t, e, growing, h => by
    rw [node]
    refine h.leaf growing rfl (fun i member => ?_) rfl
    rcases List.mem_append.1 member with mirror | substitution
    · exact .inr (List.mem_append_left _ mirror)
    · rw [List.map_append, List.mem_append] at substitution
      exact substitution.symm.imp List.mem_singleton.1 (List.mem_append_right _)
  | .var name, e, growing, h => by
    rw [node]
    exact h.congr rfl rfl rfl
  | .varOr name fallback, e, growing, h => by
    rw [node]
    split
    · exact h.congr rfl rfl rfl
    · exact hollow_nodes runner env indentUnit fallback growing h
  | .varTransform name t, e, growing, h => by
    rw [node]
    exact h.congr rfl rfl rfl
  | .shell command, e, growing, h => by
    rw [node]
    exact h.congr rfl rfl rfl

theorem hollow_nodes (runner : Runner) (env : Environment) (indentUnit : List Char) :
    ∀ (template : List Node) {e : Expansion}, e.Growing → e.Hollow → (nodes runner env indentUnit e template).Hollow
  | [], e, growing, h => by
    rw [nodes]
    exact h
  | n :: rest, e, growing, h => by
    rw [nodes]
    exact hollow_nodes runner env indentUnit rest (growing_node runner env indentUnit n growing).1
      (hollow_node runner env indentUnit n growing h)

end

end Expansion

/-! ## Writes -/

namespace Session

variable {s t : Session} {b b' : Buffer} {before region after content : List Char} {id number : Nat} {ids more : List Nat}

/-- The intervals `ids` get their first text yet, and the end marker is a place in the text. -/
structure Awaits (s : Session) (region : List Char) (ids : List Nat) : Prop where
  marker : IsBoundary region s.finish
  distinct : ids.Nodup
  places : ∀ i ∈ ids, i ∈ s.liveIds ∧ i ∉ s.stopIds
  empty : ∀ i ∈ ids, (s.interval i).stop = (s.interval i).start

theorem Awaits.drop (h : s.Awaits region (ids ++ more)) : s.Awaits region more where
  marker := h.marker
  distinct := (List.nodup_append.1 h.distinct).2.1
  places i member := h.places i (List.mem_append_right _ member)
  empty i member := h.empty i (List.mem_append_right _ member)

namespace Over

end Over

end Session

end EditorBundles.Snippet
