import EditorBundles.Proofs.Snippet.CommandEnvironment
import EditorBundles.Proofs.Snippet.EndMarker

/-!
# Runs of calls

An editor is steady if its cursor is between characters and its session, if there is one, is at one of its
tab stops with its end marker in place. Each call on a steady editor gives a result, which is steady again,
and moves the cursor and the selection only to places between characters. It asks two things of what it is
called with: text is deleted between places in the buffer, and the end marker of a template that is started
stands in none of its intervals. Without the second one the end marker can end up inside a character.
-/

namespace EditorBundles.Snippet.Editor
set_option autoImplicit false
open Text (byteLength IsBoundary)

/-- An editor with its cursor between characters that is at a tab stop of its session, if it has one, with
the end marker in place. -/
structure Steady (e : Editor) : Prop where
  cursor : IsBoundary e.buffer.text e.buffer.cursor
  filling : ∀ s, e.session = some s → ∃ stop before l old r after,
    e.Filling s stop before l old r after ∧ s.EndMarked (l ++ old ++ r)

/-- A call left the selection alone, or set one that starts and ends between characters. -/
def Selects (e e' : Editor) : Prop :=
  e'.buffer.selection = e.buffer.selection ∨ ∀ first last, e'.buffer.selection = some (first, last) →
    first ≤ last ∧ IsBoundary e'.buffer.text first ∧ IsBoundary e'.buffer.text last

variable {e e' : Editor} {s : Session} {stop : Stop} {before l old r after region content : List Char}
  {runner : Runner}

theorem selects_of_none (none_ : e'.buffer.selection = none) : e.Selects e' :=
  .inr fun first last selected => by simp [none_] at selected

/-- What was selected before does not count once nothing was selected. -/
theorem Selects.of_none (h : e.Selects e') (none_ : e.buffer.selection = none) (earlier : Editor) :
    earlier.Selects e' :=
  h.elim (fun same => selects_of_none (same.trans none_)) .inr

theorem steady_of_inactive (none_ : e.session = none) (cursor : IsBoundary e.buffer.text e.buffer.cursor) :
    e.Steady :=
  ⟨cursor, fun s found => by simp [none_] at found⟩

namespace Steady

theorem clear (h : e.Steady) : e.clear.Steady := steady_of_inactive rfl h.cursor

/-- A steady editor may lose its selection. -/
theorem deselect (h : e.Steady) : ({ e with buffer := e.buffer.deselect } : Editor).Steady where
  cursor := h.cursor
  filling s found := by
    obtain ⟨stop, before, l, old, r, after, filling, marked⟩ := h.filling s found
    have still := filling.withBuffer (b := e.buffer.deselect) rfl h.cursor e.calls
    exact ⟨stop, before, l, old, r, after, still, marked⟩

/-- The cursor splits the text. -/
theorem split (h : e.Steady) :
    ∃ front back, e.buffer.text = front ++ back ∧ e.buffer.cursor = byteLength front := by
  obtain ⟨front, back, text, length⟩ := h.cursor
  exact ⟨front, back, text, length.symm⟩

/-- Typing at the cursor ends up behind what was typed. -/
theorem type? (h : e.Steady) (text : List Char) : ∃ b, e.buffer.type? text = some b ∧
    IsBoundary b.text b.cursor ∧ b.selection = e.buffer.selection := by
  obtain ⟨front, back, split, cursor⟩ := h.split
  obtain ⟨b, typed, text', cursor', selection, -⟩ := Buffer.type?_eq split cursor text
  refine ⟨b, typed, ?_, selection⟩
  rw [text', cursor', ← Text.byteLength_append]
  exact .length _ _

end Steady

/-! ## Edits -/

namespace Filling

variable (h : e.Filling s stop before l old r after)
include h

/-- A session at a tab stop stands in the buffer, if its end marker is in place. -/
theorem standing (marked : s.EndMarked (l ++ old ++ r)) : s.Standing e.buffer before (l ++ old ++ r) after :=
  ⟨h.lies, marked⟩

theorem steady (marked : s.EndMarked (l ++ old ++ r)) : e.Steady where
  cursor := h.lies.cursor
  filling t found := by
    obtain rfl := Option.some.inj (h.session.symm.trans found)
    exact ⟨stop, before, l, old, r, after, h, marked⟩

/-- Rewriting the current tab stop keeps the end marker in place. -/
theorem steady_of_rewrites (marked : s.EndMarked (l ++ old ++ r))
    (rewrites : e.Rewrites s before l old r after content e') : e'.Steady ∧ e'.buffer.selection = none := by
  have follows := h.follows rewrites
  obtain ⟨b, s', b', retyped, refreshed, rfl⟩ := rewrites
  obtain ⟨t, stop', l', old', r', filling, -⟩ := h.refill follows
  obtain rfl : s' = t := Option.some.inj filling.session
  obtain ⟨region', stands, selection⟩ := h.lies.tree.standing_refresh? marked h.lies.offset h.current h.first
    h.last retyped.text retyped.cursor refreshed
  obtain rfl := stands.toOver.region_unique filling.lies
  exact ⟨filling.steady stands.marked, selection.trans retyped.selection⟩

end Filling

/-- Typing gives a steady editor, with nothing selected if there is a session at the cursor. -/
theorem Steady.insert? (h : e.Steady) (text : List Char) :
    ∃ e', e.insert? text = some e' ∧ e'.Steady ∧ e.Selects e' := by
  obtain ⟨b, typed, cursor, selection⟩ := h.type? text
  cases session : e.session with
  | none =>
    refine ⟨{ e with buffer := b }, ?_, steady_of_inactive session cursor, .inl selection⟩
    rw [Editor.insert?, session]
    simp only [Option.bind_eq_bind, typed, Option.bind_some]
    rfl
  | some s =>
    obtain ⟨stop, before, l, old, r, after, filling, marked⟩ := h.filling s session
    cases inside : holds (s.range stop.interval) e.buffer.cursor with
    | true =>
      obtain ⟨e', content, inserted, -, rewrites⟩ := filling.rewrites_insert? inside text
      obtain ⟨steady, none_⟩ := filling.steady_of_rewrites marked rewrites
      exact ⟨e', inserted, steady, selects_of_none none_⟩
    | false =>
      refine ⟨{ e with buffer := b, session := none }, ?_, steady_of_inactive rfl cursor, .inl selection⟩
      rw [filling.range] at inside
      rw [Editor.insert?, session]
      simp only [filling.stopRange?, Option.filter_some, inside, Bool.false_eq_true, if_false,
        Option.bind_eq_bind, typed, Option.bind_some]
      rfl

/-- Deleting between places gives a steady editor. -/
theorem Steady.delete? (h : e.Steady) {start last : Nat} (order : start ≤ last)
    (startBound : IsBoundary e.buffer.text start) (lastBound : IsBoundary e.buffer.text last) :
    ∃ e', e.delete? start last = some e' ∧ e'.Steady ∧ e.Selects e' := by
  obtain ⟨front, gone, back, split, rfl, rfl⟩ := startBound.parts lastBound order
  obtain ⟨b, deleted, -, cursor, selection, -⟩ := Buffer.delete?_eq split h.cursor
  cases session : e.session with
  | none =>
    refine ⟨{ e with buffer := b }, ?_, steady_of_inactive session cursor, .inl selection⟩
    rw [Editor.delete?, session]
    simp only [Option.bind_eq_bind, deleted, Option.bind_some]
    rfl
  | some s =>
    obtain ⟨stop, before, l, old, r, after, filling, marked⟩ := h.filling s session
    by_cases inside : (s.range stop.interval).1 ≤ byteLength front ∧
        byteLength front + byteLength gone ≤ (s.range stop.interval).2
    · by_cases some_ : byteLength front < byteLength front + byteLength gone
      · obtain ⟨_, _, _, e', -, -, -, deleted', rewrites⟩ :=
          filling.rewrites_delete? some_ inside.1 inside.2 startBound lastBound
        obtain ⟨steady, none_⟩ := filling.steady_of_rewrites marked rewrites
        exact ⟨e', deleted', steady, selects_of_none none_⟩
      · refine ⟨{ e with buffer := e.buffer.deselect }, ?_, h.deselect, selects_of_none rfl⟩
        rw [filling.range] at inside
        rw [Editor.delete?, session]
        simp only [filling.stopRange?, Option.filter_some, inside, decide_true, Bool.and_self, if_true, some_,
          if_false]
        rfl
    · refine ⟨{ e with buffer := b, session := none }, ?_, steady_of_inactive rfl cursor, .inl selection⟩
      have outside : (decide ((s.range stop.interval).1 ≤ byteLength front) &&
          decide (byteLength front + byteLength gone ≤ (s.range stop.interval).2)) = false := by
        rw [← Bool.decide_and]
        exact decide_eq_false inside
      rw [filling.range] at outside
      rw [Editor.delete?, session]
      simp only [filling.stopRange?, Option.filter_some, outside, Bool.false_eq_true, if_false,
        Option.bind_eq_bind, deleted, Option.bind_some]
      rfl

/-! ## Moves -/

/-- The environment of a command can be read as long as the end marker is in place. -/
theorem pipeEnvironment?_isSome {b : Buffer} (h : s.Standing b before region after) :
    (s.pipeEnvironment? b).isSome = true := by
  obtain ⟨front, back, split, length⟩ := h.marked.boundary
  obtain ⟨env, environment, -⟩ := h.toOver.exists_pipeEnvironment? split length.symm
  rw [environment, Option.isSome_some]

/-- Piping the current tab stop through its command gives a steady editor. -/
theorem Filling.steady_pipe? (h : e.Filling s stop before l old r after) (marked : s.EndMarked (l ++ old ++ r))
    (runner : Runner) : ∃ e', e.pipe? runner s.current = some e' ∧ e'.Steady ∧ e.Selects e' ∧
      e'.isActive = true := by
  obtain ⟨e', piped, change⟩ := h.pipe? runner fun _ _ => pipeEnvironment?_isSome (h.standing marked)
  refine ⟨e', piped, ?_⟩
  rcases change with ⟨calls, rfl⟩ | ⟨e₁, content, filling, rewrites⟩
  · have still := h.withBuffer (b := e.buffer) rfl h.lies.cursor calls
    refine ⟨still.steady marked, .inl rfl, ?_⟩
    rw [isActive, still.session, Option.isSome_some]
  · obtain ⟨steady, none_⟩ := filling.steady_of_rewrites marked rewrites
    obtain ⟨b, s', b', -, -, rfl⟩ := rewrites
    exact ⟨steady, selects_of_none none_, rfl⟩

/-- A tab stop that is entered is selected, between characters. -/
theorem steady_enter (h : s.Standing e.buffer before region after) {number : Nat}
    (found : (number, stop) ∈ s.stops) :
    (e.enter s number (s.range stop.interval)).Steady ∧ e.Selects (e.enter s number (s.range stop.interval)) := by
  have alive : stop.interval ∈ s.liveIds := Session.mem_liveIds_of_mem_stopIds (List.mem_map_of_mem found)
  obtain ⟨start, last, order⟩ := h.toOver.boundary_range alive
  obtain ⟨stop', l, old, r, rfl, filling⟩ := filling_enter (e := e) h.toOver found
  refine ⟨filling.steady h.marked, .inr ?_⟩
  rintro _ _ ⟨⟩
  exact ⟨order, start, last⟩

/-- A session that ends leaves the cursor at its last tab stop or at its end marker. -/
theorem steady_conclude? (h : s.Standing e.buffer before region after) (runner : Runner) :
    ∃ e', e.conclude? runner s = some e' ∧ e'.Steady ∧ e.Selects e' := by
  rw [conclude?]
  cases last : s.stops.get? 0 with
  | none =>
    have place := Buffer.isBoundary_setCursor h.boundary_finishPosition
    exact ⟨_, rfl, steady_of_inactive rfl place, .inl rfl⟩
  | some final =>
    have alive := Session.mem_liveIds_of_mem_stopIds (Session.mem_stopIds_of_get? last)
    obtain ⟨startBound, lastBound, order⟩ := h.toOver.boundary_range alive
    cases hasCommand : final.pipe.isSome with
    | true =>
      -- the session is at tab stop 0 for its command, and ends there
      obtain ⟨l, old, r, rfl, filling⟩ := filling_of_over
        (e := { e with session := some { s with current := 0 } }) rfl (over_enter h.toOver 0) last
      obtain ⟨e', piped, steady, selects, -⟩ := filling.steady_pipe? h.marked runner
      refine ⟨e'.clear, ?_, steady.clear, selects⟩
      simp only [hasCommand, if_true, Option.bind_eq_bind]
      rw [piped]
      rfl
    | false =>
      simp only [hasCommand, Bool.false_eq_true, if_false]
      by_cases some_ : (s.range final.interval).1 < (s.range final.interval).2
      · refine ⟨_, rfl, steady_of_inactive rfl ?_, .inr ?_⟩
        · simp only [some_, if_true]
          exact Buffer.isBoundary_setCursor lastBound
        · simp only [some_, if_true]
          rintro _ _ ⟨⟩
          exact ⟨order, startBound, lastBound⟩
      · refine ⟨_, rfl, steady_of_inactive rfl ?_, .inl ?_⟩
        · simp only [some_, if_false]
          exact Buffer.isBoundary_setCursor lastBound
        · simp only [some_, if_false]
          rfl

/-- Moving on from a tab stop enters the next one or ends the session. -/
theorem advance?_of_standing (h : s.Standing e.buffer before region after) (session : e.session = some s)
    (runner : Runner) (current : Nat) (earlier : Editor) :
    ∃ e', e.advance? runner current = some e' ∧ e'.Steady ∧ earlier.Selects e' := by
  have deselected : s.Standing e.buffer.deselect before region after :=
    ⟨⟨h.text, h.offset, h.cursor, h.tree⟩, h.marked⟩
  rw [Editor.advance?, session]
  simp only
  cases found : s.stops.next? ((current + 1) % Node.numberLimit) with
  | none =>
    obtain ⟨e', concluded, steady, selects⟩ :=
      steady_conclude? (e := { e with buffer := e.buffer.deselect, session := some s }) deselected runner
    exact ⟨e', concluded, steady, selects.of_none rfl earlier⟩
  | some entry =>
    obtain ⟨number, stop'⟩ := entry
    obtain ⟨steady, selects⟩ := steady_enter (e := { e with buffer := e.buffer.deselect, session := some s })
      deselected (List.mem_of_find?_eq_some found)
    refine ⟨_, rfl, ?_, ?_⟩
    · split
      · exact steady.clear
      · exact steady
    · have all := selects.of_none rfl earlier
      split
      · exact all
      · exact all

/-- Moving to the next tab stop. -/
theorem Steady.next? (h : e.Steady) (runner : Runner) :
    ∃ e', e.next? runner = some e' ∧ e'.Steady ∧ e.Selects e' := by
  cases session : e.session with
  | none =>
    refine ⟨e, ?_, h, .inl rfl⟩
    rw [Editor.next?, session]
    rfl
  | some s =>
    obtain ⟨stop, before, l, old, r, after, filling, marked⟩ := h.filling s session
    rw [next?_eq runner session]
    split
    · exact advance?_of_standing (filling.standing marked) session runner s.current e
    · obtain ⟨e₁, piped, steady, -, active⟩ := filling.steady_pipe? marked runner
      obtain ⟨s₁, session₁⟩ := Option.isSome_iff_exists.1 active
      obtain ⟨stop₁, before₁, l₁, old₁, r₁, after₁, filling₁, marked₁⟩ := steady.filling s₁ session₁
      rw [piped]
      exact advance?_of_standing (filling₁.standing marked₁) session₁ runner s.current e

/-- Moving to the previous tab stop. -/
theorem Steady.previous (h : e.Steady) : e.previous.Steady ∧ e.Selects e.previous := by
  rw [Editor.previous]
  cases session : e.session with
  | none => exact ⟨h, .inl rfl⟩
  | some s =>
    obtain ⟨stop, before, l, old, r, after, filling, marked⟩ := h.filling s session
    cases found : s.stops.previous? s.current with
    | none =>
      simp only [found]
      exact ⟨h, .inl rfl⟩
    | some entry =>
      simp only [found]
      exact steady_enter (filling.standing marked) (List.mem_filter.1 (List.mem_of_getLast? found)).1

/-- A session starts with its end marker in place if that stands in no interval of the expansion. -/
theorem endMarked_start {expansion : Expansion} (growing : expansion.Growing) (closed : expansion.parent = none)
    (boundary : IsBoundary expansion.text expansion.finishPosition) (apart : expansion.EndsApart)
    (indent : List Char) (intervals : s.intervals = (expansion.indentLines indent).intervals)
    (stops : s.stops = expansion.stops) (bindings : s.bindings = expansion.bindings)
    (finish : s.finish = (expansion.indentLines indent).finishPosition) :
    s.EndMarked (expansion.indentLines indent).text := by
  obtain ⟨spans, -, -, within, -, -⟩ := growing
  rw [closed] at spans
  have whole : Nested (Expansion.intervalIn expansion.intervals) (· < expansion.intervals.length)
      ([] ++ expansion.text) := spans.nested
  have marked : Marked (Expansion.intervalIn expansion.intervals) (· < expansion.intervals.length)
      ([] ++ expansion.text) expansion.finishPosition := by
    refine ⟨boundary, fun i bound => ?_⟩
    have member : expansion.intervals[i] ∈ expansion.intervals := List.getElem_mem bound
    have same : Expansion.intervalIn expansion.intervals i = expansion.intervals[i] := by
      simp [Expansion.intervalIn, bound]
    rw [same]
    exact apart _ member
  have indented := Expansion.marked_indentFrom indent expansion.text whole.start_le_stop marked
  have same : s.interval = Expansion.intervalIn (expansion.indentLines indent).intervals := by
    funext i
    rw [Session.interval, intervals]
    rfl
  have live : s.liveIds = expansion.liveIds := by rw [Session.liveIds, stops, bindings, Expansion.liveIds]
  rw [Session.EndMarked, same, live, finish]
  exact indented.mono within

/-- Starting a snippet whose end marker stands in none of its intervals. -/
theorem Steady.start? (h : e.Steady) (runner : Runner) (template : List Char) (env : Environment)
    (apart : (Expansion.ofNodes runner env e.buffer.indentUnit (parseTemplate template)).EndsApart) :
    ∃ fault e', e.start? runner template env = some (fault, e') ∧ e'.Steady ∧ e.Selects e' := by
  rw [Editor.start?]
  split
  · exact ⟨none, e.clear, rfl, h.clear, .inl rfl⟩
  have boundary := Expansion.boundary_finishPosition runner env e.buffer.indentUnit (parseTemplate template)
  obtain ⟨growing, closed⟩ := Expansion.growing_ofNodes runner env e.buffer.indentUnit (parseTemplate template)
  rw [show e.clear.buffer = e.buffer from rfl]
  generalize Expansion.ofNodes runner env e.buffer.indentUnit (parseTemplate template) = expansion at *
  simp only
  cases faulty : expansion.fault? with
  | some fault => exact ⟨some fault, _, rfl, steady_of_inactive rfl h.cursor, .inl rfl⟩
  | none =>
    obtain ⟨before, after, text, cursor⟩ := h.split
    obtain ⟨indent, indented⟩ : ∃ indent, e.buffer.lineIndent? e.buffer.cursor = some indent := by
      rw [Buffer.lineIndent?, text, cursor, Text.splitAt?_append]
      exact ⟨_, rfl⟩
    obtain ⟨b₁, inserted, text₁, bound, -⟩ := Buffer.insert?_eq text h.cursor (expansion.indentLines indent).text
    rw [← cursor] at inserted
    simp only [Option.bind_eq_bind, indented, Option.bind_some, inserted]
    -- the session lies in the buffer, is brought up to date and goes to its first tab stop
    generalize starting : Session.mk _ _ _ _ _ _ _ _ _ = s
    have stands : s.Standing b₁ before (expansion.indentLines indent).text after := by
      subst starting
      exact ⟨⟨text₁, cursor, bound, tree_start growing closed indent rfl rfl rfl⟩,
        endMarked_start growing closed boundary apart indent rfl rfl rfl rfl⟩
    obtain ⟨s', b', -, refreshed, -⟩ := stands.toOver.refreshAll? (s.stops.map (·.1))
    obtain ⟨region', stands', alike, -⟩ := stands.refreshAll? refreshed
    have current : s'.current = 0 := by rw [alike.current, ← starting]
    have stops : s.stops = (expansion.indentLines indent).stops := by rw [← starting]
    obtain ⟨e', advanced, steady, selects⟩ := advance?_of_standing
      (e := { e.clear with buffer := b', session := some s', calls := e.calls ++ expansion.calls })
      stands' rfl runner s'.current e
    rw [← stops, refreshed]
    simp only [Option.bind_some]
    rw [next?_eq runner rfl, if_pos current, Option.bind_some]
    rw [show e.clear.calls = e.calls from rfl, advanced]
    exact ⟨none, e', rfl, steady, selects⟩

/-! ## Runs -/

/-- What can be asked of an editor. -/
inductive Action where
  | start (template : List Char) (env : Environment)
  | next
  | previous
  | insert (text : List Char)
  | delete (first last : Nat)
  | validate
  | goToFinish
  | clear
  deriving Repr

/-- The editor after an action. -/
def Action.run? (runner : Runner) (e : Editor) : Action → Option Editor
  | .start template env => (e.start? runner template env).map (·.2)
  | .next => e.next? runner
  | .previous => some e.previous
  | .insert text => e.insert? text
  | .delete first last => e.delete? first last
  | .validate => some e.validate.2
  | .goToFinish => some e.goToFinish
  | .clear => some e.clear

/-- What an action asks for: text is deleted between places in the buffer, and the end marker of a template
stands in none of its intervals. -/
def Action.Fits (runner : Runner) (e : Editor) : Action → Prop
  | .start template env => (Expansion.ofNodes runner env e.buffer.indentUnit (parseTemplate template)).EndsApart
  | .delete first last => first ≤ last ∧ IsBoundary e.buffer.text first ∧ IsBoundary e.buffer.text last
  | _ => True

/-- The editors that fitting actions lead to from a buffer with its cursor between characters. -/
inductive Driven (runner : Runner) : Editor → Prop where
  | opened (b : Buffer) (place : IsBoundary b.text b.cursor) : Driven runner { buffer := b }
  | call {e e' : Editor} {action : Action} (run : Driven runner e) (fits : action.Fits runner e)
      (called : action.run? runner e = some e') : Driven runner e'

/-- A fitting action on a steady editor gives a steady editor. -/
theorem Steady.run? (h : e.Steady) (action : Action) (fits : action.Fits runner e) :
    ∃ e', action.run? runner e = some e' ∧ e'.Steady ∧ e.Selects e' := by
  cases action with
  | start template env =>
    obtain ⟨fault, e', started, steady, selects⟩ := h.start? runner template env fits
    refine ⟨e', ?_, steady, selects⟩
    rw [Action.run?, started, Option.map_some]
  | next => exact h.next? runner
  | previous => exact ⟨_, rfl, h.previous⟩
  | insert text => exact h.insert? text
  | delete first last => exact h.delete? fits.1 fits.2.1 fits.2.2
  | validate =>
    refine ⟨_, rfl, ?_⟩
    rw [validate]
    cases session : e.session with
    | none => exact ⟨h, .inl rfl⟩
    | some s =>
      simp only
      split
      · exact ⟨h, .inl rfl⟩
      · exact ⟨h.clear, .inl rfl⟩
  | goToFinish =>
    refine ⟨_, rfl, ?_⟩
    rw [goToFinish]
    cases session : e.session with
    | none => exact ⟨h, .inl rfl⟩
    | some s =>
      obtain ⟨stop, before, l, old, r, after, filling, marked⟩ := h.filling s session
      have place := Buffer.isBoundary_setCursor (filling.standing marked).boundary_finishPosition
      exact ⟨steady_of_inactive rfl place, .inl rfl⟩
  | clear => exact ⟨_, rfl, h.clear, .inl rfl⟩

theorem Driven.steady (run : Driven runner e) : e.Steady := by
  induction run with
  | opened b place => exact steady_of_inactive rfl place
  | @call e e' action _ fits called ih =>
    obtain ⟨e'', called', steady, -⟩ := ih.run? action fits
    obtain rfl := Option.some.inj (called.symm.trans called')
    exact steady

/-- In a run the cursor, the end marker and the ends of all tab stops are between characters, and each
fitting action gives a result: what it inserts, deletes, reads and selects is between characters too. -/
theorem run?_of_driven (run : Driven runner e) :
    IsBoundary e.buffer.text e.buffer.cursor ∧
      (∀ position, e.finishPosition? = some position → IsBoundary e.buffer.text position) ∧
      (∀ number first last, e.stopRange? number = some (first, last) →
        first ≤ last ∧ IsBoundary e.buffer.text first ∧ IsBoundary e.buffer.text last) ∧
      ∀ action : Action, action.Fits runner e →
        ∃ e', action.run? runner e = some e' ∧ e.Selects e' := by
  have steady := run.steady
  refine ⟨steady.cursor, ?_, ?_, ?_⟩
  · intro position found
    obtain ⟨s, session, rfl⟩ := Option.map_eq_some_iff.1 found
    obtain ⟨stop, before, l, old, r, after, filling, marked⟩ := steady.filling s session
    exact (filling.standing marked).boundary_finishPosition
  · intro number first last found
    obtain ⟨s, session, range⟩ := Option.bind_eq_some_iff.1 found
    obtain ⟨stop, before, l, old, r, after, filling, -⟩ := steady.filling s session
    obtain ⟨stop', here, place⟩ := Option.map_eq_some_iff.1 range
    have alive := Session.mem_liveIds_of_mem_stopIds (Session.mem_stopIds_of_get? here)
    obtain ⟨start, stop, order⟩ := filling.lies.boundary_range alive
    rw [place] at start stop order
    exact ⟨order, start, stop⟩
  · intro action fits
    obtain ⟨e', called, -, selects⟩ := steady.run? action fits
    exact ⟨e', called, selects⟩

/-- Typing a character of two octets over a placeholder that the end marker comes after. -/
theorem run?_of_driven_typed : ∃ e : Editor, Driven Runner.disabled e ∧ e.buffer.text = ['é', '!'] ∧
    e.finishPosition? = some 3 ∧ IsBoundary e.buffer.text 3 ∧
    ∃ e', Action.next.run? Runner.disabled e = some e' := by
  obtain ⟨e, started, e', inserted, text, finish⟩ : ∃ e : Editor,
      (Action.start ['$', '{', '1', ':', 'b', '}', '!', '$', '0'] {}).run? Runner.disabled
        ⟨⟨[], 0, none, ['\t']⟩, none, []⟩ = some e ∧
      ∃ e', (Action.insert ['é']).run? Runner.disabled e = some e' ∧ e'.buffer.text = ['é', '!'] ∧
        e'.finishPosition? = some 3 := ⟨_, rfl, _, rfl, rfl, rfl⟩
  have fits : (Action.start ['$', '{', '1', ':', 'b', '}', '!', '$', '0'] {}).Fits Runner.disabled
      ⟨⟨[], 0, none, ['\t']⟩, none, []⟩ := by
    have intervals : (Expansion.ofNodes Runner.disabled {} ['\t']
        (parseTemplate ['$', '{', '1', ':', 'b', '}', '!', '$', '0'])).intervals = [⟨0, 1, none⟩] := rfl
    intro interval member
    rw [intervals, List.mem_singleton] at member
    subst member
    exact .inr (by decide)
  have opened : Driven Runner.disabled ⟨⟨[], 0, none, ['\t']⟩, none, []⟩ := .opened _ (.zero [])
  have fits' : (Action.insert ['é']).Fits Runner.disabled e := trivial
  have run : Driven Runner.disabled e' := .call (.call opened fits started) fits' inserted
  obtain ⟨-, ends, -, gives⟩ := run?_of_driven run
  obtain ⟨e'', moved, -⟩ := gives .next trivial
  exact ⟨e', run, text, finish, ends 3 finish, e'', moved⟩

/-- The end marker stands at the start of a tab stop here. Typing a character of two octets leaves it inside
that character, and the command of the tab stop cannot be given the text of the snippet. -/
theorem drifting_end : ∃ e e' : Editor,
    (⟨⟨[], 0, none, ['\t']⟩, none, []⟩ : Editor).start? Runner.disabled
      ['$', '0', '$', '{', '1', ':', 'b', '|', 'c', 'a', 't', '}'] {} = some (none, e) ∧
    e.insert? ['é'] = some e' ∧ e'.buffer.text = ['é'] ∧ e'.finishPosition? = some 1 ∧
    ¬ IsBoundary e'.buffer.text 1 ∧ e'.next? Runner.disabled = none := by
  obtain ⟨e, e', started, inserted, text, finish, moved⟩ : ∃ e e' : Editor,
      (⟨⟨[], 0, none, ['\t']⟩, none, []⟩ : Editor).start? Runner.disabled
        ['$', '0', '$', '{', '1', ':', 'b', '|', 'c', 'a', 't', '}'] {} = some (none, e) ∧
      e.insert? ['é'] = some e' ∧ e'.buffer.text = ['é'] ∧ e'.finishPosition? = some 1 ∧
      e'.next? Runner.disabled = none := ⟨_, _, rfl, rfl, rfl, rfl, rfl⟩
  refine ⟨e, e', started, inserted, text, finish, ?_, moved⟩
  rw [text]
  rintro ⟨front, back, same, length⟩
  -- the text has one character, of two octets
  cases front with
  | nil => simp at length
  | cons c front =>
    obtain ⟨rfl, -⟩ := List.cons.inj same
    have two : Char.utf8Size 'é' = 2 := rfl
    rw [Text.byteLength_cons, two] at length
    omega

end EditorBundles.Snippet.Editor
