import Mathlib.Order.Bounds.Basic
import EditorBundles.Proofs.Snippet.MarkerPlace
import EditorBundles.Proofs.Snippet.StopNumbers

/-!
# Moving through the tab stops

The tab stops of a session are in the order of their numbers, and an edit only takes some of them away. So moving to the
next one goes up, past the last one the session ends, and it does so after as many moves as there are tab stops.
Numbers are 32-bit words that wrap: all this is so as long as the greatest word is no tab stop.
-/

namespace EditorBundles.Snippet
set_option autoImplicit false
open Text (byteLength IsBoundary)

/-! ## The next and the previous tab stop -/

namespace Stops

variable {stops : Stops} (ascending : (Entries.keys stops).Pairwise (· < ·)) {bound number : Nat} {stop : Stop}
include ascending

theorem get?_of_ascending (member : (number, stop) ∈ stops) : stops.get? number = some stop :=
  Entries.get?_of_mem (ascending.imp Nat.ne_of_lt) member

/-- The next tab stop has the least number from the bound on. -/
theorem isLeast_next? (found : stops.next? bound = some (number, stop)) :
    IsLeast {n | n ∈ Entries.keys stops ∧ bound ≤ n} number ∧ stops.get? number = some stop := by
  have member : (number, stop) ∈ stops := List.mem_of_find?_eq_some found
  obtain ⟨reached, front, back, rfl, earlier⟩ := List.find?_eq_some_iff_append.1 found
  refine ⟨⟨⟨List.mem_map_of_mem member, by simpa using reached⟩, ?_⟩, get?_of_ascending ascending member⟩
  rintro n ⟨key, reached'⟩
  rw [Entries.keys_append, Entries.keys_cons] at key ascending
  rcases List.mem_append.1 key with before | later
  · obtain ⟨entry, inFront, rfl⟩ := List.mem_map.1 before
    have short := earlier entry inFront
    simp only [Bool.not_eq_true', decide_eq_false_iff_not] at short
    exact absurd reached' short
  · rcases List.mem_cons.1 later with rfl | behind
    · exact Nat.le_refl _
    · exact Nat.le_of_lt (List.rel_of_pairwise_cons (List.pairwise_append.1 ascending).2.1 behind)

omit ascending in
theorem lt_of_next?_eq_none (none_ : stops.next? bound = none) : ∀ n ∈ Entries.keys stops, n < bound := by
  intro n key
  obtain ⟨entry, member, rfl⟩ := List.mem_map.1 key
  have short := List.find?_eq_none.1 none_ entry member
  simpa using short

/-- The previous tab stop has the greatest number from 1 on below the bound. -/
theorem isGreatest_previous? (found : stops.previous? bound = some (number, stop)) :
    IsGreatest {n | n ∈ Entries.keys stops ∧ 1 ≤ n ∧ n < bound} number ∧ stops.get? number = some stop := by
  obtain ⟨front, split⟩ := List.getLast?_eq_some_iff.1 found
  have member : (number, stop) ∈ stops.filter fun s => 1 ≤ s.1 && s.1 < bound := List.mem_of_getLast? found
  obtain ⟨inStops, reached⟩ := List.mem_filter.1 member
  refine ⟨⟨⟨List.mem_map_of_mem inStops, by simpa using reached⟩, ?_⟩, get?_of_ascending ascending inStops⟩
  rintro n ⟨key, low, high⟩
  obtain ⟨entry, there, rfl⟩ := List.mem_map.1 key
  have kept : entry ∈ stops.filter fun s => 1 ≤ s.1 && s.1 < bound :=
    List.mem_filter.2 ⟨there, by simpa using ⟨low, high⟩⟩
  have order : (Entries.keys (stops.filter fun s => 1 ≤ s.1 && s.1 < bound)).Pairwise (· < ·) :=
    ascending.sublist (List.filter_sublist.map Prod.fst)
  rw [split, Entries.keys_append] at order
  rw [split] at kept
  rcases List.mem_append.1 kept with earlier | last
  · exact Nat.le_of_lt ((List.pairwise_append.1 order).2.2 _ (List.mem_map_of_mem earlier) _ (by simp))
  · rw [List.mem_singleton.1 last]

omit ascending in
theorem le_of_previous?_eq_none (none_ : stops.previous? bound = none) :
    ∀ n ∈ Entries.keys stops, 1 ≤ n → bound ≤ n := by
  intro n key positive
  obtain ⟨entry, member, rfl⟩ := List.mem_map.1 key
  have outside := List.filter_eq_nil_iff.1 (List.getLast?_eq_none_iff.1 none_) entry member
  simp only [Bool.and_eq_true, decide_eq_true_eq, not_and] at outside
  exact Nat.le_of_not_lt (outside positive)

end Stops

namespace Session

/-- The numbers of the live tab stops. -/
def numbers (s : Session) : List Nat := Entries.keys s.stops

/-- Tab stops in order, with a word behind each of their numbers. -/
structure Ordered (s : Session) : Prop where
  ascending : s.numbers.Pairwise (· < ·)
  room : ∀ n ∈ s.numbers, n + 1 < Node.numberLimit

theorem Ordered.sublist {s t : Session} (h : s.Ordered) (sub : t.numbers.Sublist s.numbers) : t.Ordered :=
  ⟨h.ascending.sublist sub, fun n member => h.room n (sub.subset member)⟩

/-- How many tab stops are still to come. -/
def ahead (s : Session) : Nat := (s.numbers.filter (s.current < ·)).length

theorem ahead_lt {s : Session} (live : s.current ∈ s.numbers) : s.ahead < s.numbers.length := by
  refine List.length_filter_lt_length_iff_exists.2 ⟨s.current, live, ?_⟩
  simp

end Session

namespace Editor

variable {e e₀ e₁ e' p : Editor} {s t : Session} {stop : Stop} {before l old r after : List Char} {runner : Runner}
  {current : Nat}

/-- Where moving on from the tab stop `current` leads: past the last tab stop, to the next one, or to a last one that is
empty, has no command and is where the session ends. -/
inductive Tabs (t : Session) (current : Nat) (e' : Editor) : Prop where
  | past (last : ∀ n ∈ t.numbers, n ≤ current) (ended : e'.session = none)
  | enters {number : Nat} {stop : Stop} (least : IsLeast {n | n ∈ t.numbers ∧ current < n} number)
      (found : t.stops.get? number = some stop) (session : e'.session = some { t with current := number })
      (selected : e'.buffer.selection = some (t.range stop.interval))
  | closes {number : Nat} {stop : Stop} (least : IsLeast {n | n ∈ t.numbers ∧ current < n} number)
      (found : t.stops.get? number = some stop) (last : ∀ n ∈ t.numbers, n ≤ number) (silent : stop.pipe = none)
      (empty : (t.interval stop.interval).stop ≤ (t.interval stop.interval).start)
      (finish : (t.interval stop.interval).start = t.finish) (ended : e'.session = none)

/-- Where moving back from the current tab stop leads: nowhere from the first one, and else to the previous one. -/
inductive TabsBack (s : Session) (e e' : Editor) : Prop where
  | first (least : ∀ n ∈ s.numbers, 1 ≤ n → s.current ≤ n) (same : e' = e)
  | enters {number : Nat} {stop : Stop} (greatest : IsGreatest {n | n ∈ s.numbers ∧ 1 ≤ n ∧ n < s.current} number)
      (found : s.stops.get? number = some stop) (session : e'.session = some { s with current := number })
      (selected : e'.buffer.selection = some (s.range stop.interval))

/-! ## One move -/

theorem tabs_of_advance? (session : e.session = some t) (ordered : t.Ordered) (room : current + 1 < Node.numberLimit)
    (advanced : e.advance? runner current = some e') : Tabs t current e' := by
  rw [advance?, session] at advanced
  simp only [Nat.mod_eq_of_lt room] at advanced
  cases found : t.stops.next? (current + 1) with
  | none =>
    simp only [found] at advanced
    exact .past (fun n member => Nat.le_of_lt_succ (Stops.lt_of_next?_eq_none found n member))
      (session_conclude? advanced)
  | some entry =>
    obtain ⟨number, stop⟩ := entry
    obtain ⟨least, here⟩ := Stops.isLeast_next? ordered.ascending found
    simp only [found, Option.some.injEq, Nat.mod_eq_of_lt (ordered.room number least.1.1)] at advanced
    split at advanced
    · rename_i closes
      obtain ⟨empty, last, finish, silent⟩ := closes
      subst advanced
      refine .closes least here (fun n member => ?_) (Option.isNone_iff_eq_none.1 silent) ?_ finish rfl
      · exact Nat.le_of_lt_succ (Stops.lt_of_next?_eq_none (Option.isNone_iff_eq_none.1 last) n member)
      · simpa [Session.range] using empty
    · subst advanced
      exact .enters least here rfl rfl

/-- Piping a tab stop through its command leaves the session there, and takes tab stops away at most. -/
theorem Filling.numbers_pipe? (h : e.Filling s stop before l old r after)
    (piped : e.pipe? runner s.current = some p) : ∃ t stop' l' old' r',
      p.Filling t stop' before l' old' r' after ∧ t.current = s.current ∧ t.numbers.Sublist s.numbers := by
  rcases h.rewrites_of_pipe? piped with ⟨calls, rfl⟩ | ⟨e₁, content, filling, rewrites⟩
  · exact ⟨s, stop, l, old, r, h.withBuffer (b := e.buffer) rfl h.lies.cursor calls, rfl, .refl _⟩
  · obtain ⟨t, stop', l', old', r', filling', edited⟩ := filling.refill (filling.follows rewrites)
    refine ⟨t, stop', l', old', r', filling', edited.dropped.current, ?_⟩
    rw [Session.numbers, edited.dropped.stops]
    exact Session.keys_dropNested s stop.interval

/-- Moving on from a tab stop goes up or ends the session. -/
theorem Filling.tabs_of_next? (h : e.Filling s stop before l old r after) (ordered : s.Ordered)
    (positive : 1 ≤ s.current) (moved : e.next? runner = some e') :
    ∃ p t, e.pipe? runner s.current = some p ∧ p.session = some t ∧ t.current = s.current ∧
      t.numbers.Sublist s.numbers ∧ Tabs t s.current e' := by
  rw [next?_eq runner h.session, if_neg (Nat.ne_of_gt positive)] at moved
  obtain ⟨p, piped, advanced⟩ := Option.bind_eq_some_iff.1 moved
  obtain ⟨t, stop', l', old', r', filling, current, sub⟩ := h.numbers_pipe? piped
  have room := ordered.room s.current (Entries.mem_keys_of_get? h.current)
  exact ⟨p, t, piped, filling.session, current, sub,
    tabs_of_advance? filling.session (ordered.sublist sub) room advanced⟩

theorem Filling.tabsBack_previous (h : e.Filling s stop before l old r after) (ordered : s.Ordered) :
    TabsBack s e e.previous := by
  rw [previous, h.session]
  cases found : s.stops.previous? s.current with
  | none =>
    simp only [found]
    exact .first (Stops.le_of_previous?_eq_none found) rfl
  | some entry =>
    obtain ⟨number, stop'⟩ := entry
    obtain ⟨greatest, here⟩ := Stops.isGreatest_previous? ordered.ascending found
    simp only [found]
    exact .enters greatest here rfl rfl

/-! ## Runs -/

/-- Tab stops stay in order. -/
theorem enduring_ordered : Enduring fun s _ => s.Ordered where
  enter _ ordered := ⟨ordered.ascending, ordered.room⟩
  rewrites h rewrites ordered := by
    obtain ⟨t, stop', l', old', r', filling, edited⟩ := h.refill (h.follows rewrites)
    refine filling.upholds (ordered.sublist ?_)
    rw [Session.numbers, edited.dropped.stops]
    exact Session.keys_dropNested _ _

/-- A session that is at a tab stop from 1 on is so after any call that it outlasts. -/
theorem positive_of_run? (h : e.Upholds (fun s _ => s.Ordered) before after)
    (positive : ∀ s, e.session = some s → 1 ≤ s.current) {action : Action}
    (goesOn : ∀ template env, action ≠ .start template env) (called : action.run? runner e = some e')
    (session : e'.session = some t) : 1 ≤ t.current := by
  obtain ⟨s, stop, l, old, r, filling, ordered⟩ := h
  have low := positive s filling.session
  have active : e'.isActive = true := by rw [isActive, session, Option.isSome_some]
  have stays {content : List Char} (follows : Follows e' s stop before (l ++ old ++ r) after content) :
      1 ≤ t.current := by
    obtain ⟨s', region', session', -, edited⟩ := follows
    obtain rfl := Option.some.inj (session'.symm.trans session)
    rw [edited.dropped.current]
    exact low
  cases action with
  | start template env => exact absurd rfl (goesOn template env)
  | next =>
    obtain ⟨p, u, -, -, -, -, tabs⟩ := filling.tabs_of_next? ordered low called
    cases tabs with
    | past _ ended | closes _ _ _ _ _ _ ended => simp [ended] at session
    | enters least _ session' =>
      obtain rfl := Option.some.inj (session'.symm.trans session)
      exact Nat.one_le_of_lt least.1.2
  | previous =>
    obtain rfl := Option.some.inj called
    cases filling.tabsBack_previous ordered with
    | first _ same => exact positive t (same ▸ session)
    | enters greatest _ session' =>
      obtain rfl := Option.some.inj (session'.symm.trans session)
      exact greatest.1.2.1
  | insert text =>
    obtain ⟨content, follows⟩ := filling.follows_insert? called active
    exact stays follows
  | delete first last =>
    by_cases some_ : first < last
    · obtain ⟨content, follows⟩ := filling.follows_delete? some_ called active
      exact stays follows
    · rw [Action.run?, delete?, filling.session] at called
      simp only [filling.stopRange?, Option.filter_some, some_, if_false] at called
      split at called
      · obtain ⟨b, -, result⟩ := Option.bind_eq_some_iff.1 called
        obtain rfl := Option.some.inj result
        cases session
      · obtain rfl := Option.some.inj called
        obtain rfl := Option.some.inj session
        exact low
  | validate =>
    obtain rfl := Option.some.inj called
    rw [validate, filling.session] at session
    simp only at session
    split at session
    · exact positive t session
    · cases session
  | goToFinish =>
    obtain rfl := Option.some.inj called
    rw [goToFinish, filling.session] at session
    cases session
  | clear =>
    obtain rfl := Option.some.inj called
    cases session

theorem Onward.positive (run : Onward runner e₁ e) (start : e₁.Upholds (fun s _ => s.Ordered) before after)
    (first : ∀ s, e₁.session = some s → 1 ≤ s.current) : ∀ s, e.session = some s → 1 ≤ s.current := by
  induction run with
  | here => exact first
  | call run goesOn called _ ih =>
    exact fun t session => positive_of_run? (run.upholds enduring_ordered start) ih goesOn called session
  | move _ _ ih | select _ _ _ ih | deselect _ ih => exact ih

/-- A snippet starts at a tab stop from 1 on, with its tab stops in order, if the greatest word is not one of them. -/
theorem ordered_of_start? {template : List Char} {env : Environment} (text : e₀.buffer.text = before ++ after)
    (cursor : e₀.buffer.cursor = byteLength before) (started : e₀.start? runner template env = some (none, e₁))
    (active : e₁.isActive = true) (room : e₁.stopRange? (Node.numberLimit - 1) = none) :
    e₁.Upholds (fun s _ => s.Ordered) before after ∧ ∀ s, e₁.session = some s → 1 ≤ s.current := by
  obtain ⟨indent, t, b, calls, region, -, alike, lies, advanced⟩ := exists_started text cursor started active
  have ascending := Expansion.ascending_ofNodes runner env e₀.buffer.indentUnit (parseTemplate template)
  have words := Expansion.allWords_ofNodes runner env e₀.buffer.indentUnit template
  have same : (Expansion.ofNodes runner env e₀.buffer.indentUnit (parseTemplate template)).stops = t.stops :=
    alike.stops.symm
  rw [same] at ascending words
  -- the tab stops stay the same when the first one is entered
  obtain ⟨s, stop, l, old, r, filling, stops⟩ := upholds_advance? (P := fun s _ => s.stops = t.stops)
    ⟨fun _ same => same⟩ rfl lies rfl advanced active
  have unused : Node.numberLimit - 1 ∉ s.numbers := by
    rw [stopRange?, filling.session, Option.bind_some, Session.stopRange?, Option.map_eq_none_iff] at room
    exact Entries.get?_eq_none_iff.1 room
  have numbers : t.numbers = s.numbers := by rw [Session.numbers, Session.numbers, stops]
  have ordered : t.Ordered := by
    refine ⟨ascending, fun n member => ?_⟩
    have other : n ≠ Node.numberLimit - 1 := fun same => unused (numbers ▸ same ▸ member)
    have word : n < Node.numberLimit := words n member
    omega
  refine ⟨filling.upholds (ordered.sublist (numbers ▸ List.Sublist.refl _)), fun s' session => ?_⟩
  cases tabs_of_advance? rfl ordered (by decide) advanced with
  | past _ ended | closes _ _ _ _ _ _ ended => simp [ended] at session
  | enters least _ session' =>
    obtain rfl := Option.some.inj (session'.symm.trans session)
    exact least.1.2

/-! ## Moving on again and again -/

/-- The editor after a number of moves to the next tab stop. -/
def tabs? (runner : Runner) : Nat → Editor → Option Editor
  | 0, e => some e
  | k + 1, e => (e.next? runner).bind (tabs? runner k)

/-- No session, or one without commands. -/
def Unpiped (e : Editor) : Prop := ∀ s, e.session = some s → ∀ entry ∈ s.stops, entry.2.pipe = none

theorem tabs?_of_inactive (ended : e.session = none) (k : Nat) : e.tabs? runner k = some e := by
  have still : e.next? runner = some e := by
    rw [next?, ended]
    rfl
  induction k with
  | zero => rfl
  | succ k ih => rw [tabs?, still, Option.bind_some, ih]

/-- A move takes a tab stop from those that are still to come. -/
theorem ahead_lt_of_enters {number : Nat} (sub : t.numbers.Sublist s.numbers)
    (least : IsLeast {n | n ∈ t.numbers ∧ s.current < n} number) :
    ({ t with current := number } : Session).ahead < s.ahead := by
  have fewer : (t.numbers.filter (number < ·)).Sublist (s.numbers.filter (s.current < ·)) := by
    refine (sub.filter _).trans (List.monotone_filter_right _ fun n later => ?_)
    exact decide_eq_true (least.1.2.trans (of_decide_eq_true later))
  refine lt_of_le_of_ne fewer.length_le fun same => ?_
  have there : number ∈ s.numbers.filter (s.current < ·) :=
    List.mem_filter.2 ⟨sub.subset least.1.1, decide_eq_true least.1.2⟩
  rw [← fewer.eq_of_length same] at there
  exact Nat.lt_irrefl number (of_decide_eq_true (List.mem_filter.1 there).2)

/-- The session has ended after more moves than there are tab stops still to come. -/
theorem ended_of_tabs? (h : e.Upholds (fun s _ => s.Ordered) before after) (session : e.session = some s)
    (positive : 1 ≤ s.current) {k : Nat} (enough : s.ahead < k) (moved : e.tabs? runner k = some e') :
    e'.session = none := by
  induction k generalizing e s with
  | zero => exact absurd enough (Nat.not_lt_zero _)
  | succ k ih =>
    obtain ⟨next, move, moved⟩ := Option.bind_eq_some_iff.1 moved
    obtain ⟨s', stop, l, old, r, filling, ordered⟩ := h
    obtain rfl := Option.some.inj (filling.session.symm.trans session)
    obtain ⟨p, t, -, -, -, sub, tabs⟩ := filling.tabs_of_next? ordered positive move
    cases tabs with
    | past _ ended | closes _ _ _ _ _ _ ended =>
      rw [tabs?_of_inactive ended] at moved
      obtain rfl := Option.some.inj moved
      exact ended
    | enters least _ session' =>
      have active : next.isActive = true := by rw [isActive, session', Option.isSome_some]
      have still := (filling.upholds ordered).next? enduring_ordered move active
      have fewer := ahead_lt_of_enters sub least
      exact ih still session' (Nat.one_le_of_lt least.1.2) (by omega) moved

theorem Steady.exists_tabs? (steady : e.Steady) (k : Nat) : ∃ e', e.tabs? runner k = some e' := by
  induction k generalizing e with
  | zero => exact ⟨e, rfl⟩
  | succ k ih =>
    obtain ⟨next, move, still, -⟩ := steady.next? runner
    obtain ⟨e', moved⟩ := ih still
    exact ⟨e', by rw [tabs?, move, Option.bind_some, moved]⟩

theorem pipe_of_get? (h : e.Unpiped) (session : e.session = some s) {number : Nat}
    (found : s.stops.get? number = some stop) : stop.pipe = none :=
  h s session (number, stop) (Entries.mem_of_get? found)

theorem exists_conclude? (runner : Runner) (silent : ∀ stop, s.stops.get? 0 = some stop → stop.pipe = none) :
    ∃ e', e.conclude? runner s = some e' := by
  rw [conclude?]
  cases last : s.stops.get? 0 with
  | none => exact ⟨_, rfl⟩
  | some stop =>
    simp only [silent stop last, Option.isSome_none, Bool.false_eq_true, if_false]
    exact ⟨_, rfl⟩

/-- Without commands each move gives a result. -/
theorem Unpiped.next? (h : e.Unpiped) : ∃ e', e.next? runner = some e' ∧ e'.Unpiped := by
  cases session : e.session with
  | none => exact ⟨e, by rw [Editor.next?, session]; rfl, h⟩
  | some s =>
    have unchanged : e.pipe? runner s.current = some e := by
      rw [pipe?, session]
      cases found : s.stops.get? s.current with
      | none => simp only [found, Option.pure_def]
      | some stop => simp only [found, pipe_of_get? h session found, Option.pure_def]
    rw [next?_eq runner session, unchanged, ite_self, Option.bind_some, advance?, session]
    simp only
    cases found : s.stops.next? ((s.current + 1) % Node.numberLimit) with
    | none =>
      obtain ⟨e', concluded⟩ := exists_conclude? (e := { e with buffer := e.buffer.deselect, session := some s }) runner
        fun stop found => pipe_of_get? h session found
      exact ⟨e', concluded, fun t session' => by simp [session_conclude? concluded] at session'⟩
    | some entry =>
      refine ⟨_, rfl, fun t session' entry' member => ?_⟩
      split at session'
      · cases session'
      · obtain rfl := Option.some.inj session'
        exact h s session entry' member

theorem Unpiped.exists_tabs? (h : e.Unpiped) (k : Nat) : ∃ e', e.tabs? runner k = some e' := by
  induction k generalizing e with
  | zero => exact ⟨e, rfl⟩
  | succ k ih =>
    obtain ⟨next, move, still⟩ := h.next?
    obtain ⟨e', moved⟩ := ih still
    exact ⟨e', by rw [tabs?, move, Option.bind_some, moved]⟩

/-- From its start on, a session that does not have the greatest word for a tab stop is at one of its tab stops from 1 on,
and there is a word behind each of their numbers. Moving on pipes the tab stop and goes to the next larger one that is
left then, or ends the session; moving back goes to the next smaller one. After as many moves on as there are tab stops
the session has ended. All moves on give a result if the end marker is in place, or if there are no commands. -/
theorem tabs_of_onward {template : List Char} {env : Environment} (text : e₀.buffer.text = before ++ after)
    (cursor : e₀.buffer.cursor = byteLength before) (started : e₀.start? runner template env = some (none, e₁))
    (active : e₁.isActive = true) (room : e₁.stopRange? (Node.numberLimit - 1) = none) (run : Onward runner e₁ e) :
    ∃ s, e.session = some s ∧ s.Ordered ∧ s.current ∈ s.numbers ∧ 1 ≤ s.current ∧
      (∀ e', e.next? runner = some e' → ∃ p t, e.pipe? runner s.current = some p ∧ p.session = some t ∧
        t.current = s.current ∧ t.numbers.Sublist s.numbers ∧ Tabs t s.current e') ∧
      TabsBack s e e.previous ∧
      (∀ k e', s.numbers.length ≤ k → e.tabs? runner k = some e' → e'.session = none) ∧
      (e.Steady ∨ e.Unpiped → ∀ k, ∃ e', e.tabs? runner k = some e') := by
  obtain ⟨start, first⟩ := ordered_of_start? text cursor started active room
  have upholds := run.upholds enduring_ordered start
  have positive := run.positive start first
  obtain ⟨s, stop, l, old, r, filling, ordered⟩ := upholds
  have low := positive s filling.session
  have holding := filling.upholds (P := fun s _ => s.Ordered) ordered
  have live : s.current ∈ s.numbers := Entries.mem_keys_of_get? filling.current
  refine ⟨s, filling.session, ordered, live, low, fun e' moved => filling.tabs_of_next? ordered low moved,
    filling.tabsBack_previous ordered, fun k e' enough moved => ?_, fun sure k => ?_⟩
  · have fewer := Session.ahead_lt live
    exact ended_of_tabs? holding filling.session low (by omega) moved
  · rcases sure with steady | unpiped
    · exact steady.exists_tabs? k
    · exact unpiped.exists_tabs? k

/-- Typing over the placeholder of the second tab stop, which takes the third one away. -/
theorem tabs_of_onward_dropped : ∃ e₁ e : Editor,
    (⟨⟨['(', ')'], 1, none, ['\t']⟩, none, []⟩ : Editor).start? Runner.disabled
      ['$', '{', '2', ':', 'b', '$', '{', '3', ':', 'c', '}', '}', '$', '{', '1', ':', 'a', '}'] {} =
        some (none, e₁) ∧ e₁.isActive = true ∧ e₁.stopRange? (Node.numberLimit - 1) = none ∧
    Onward Runner.disabled e₁ e ∧ e.buffer.text = ['(', 'x', 'a', ')'] ∧
    ∃ s, e.session = some s ∧ s.numbers = [1, 2] ∧ s.current = 2 ∧ TabsBack s e e.previous ∧
      ∃ e', e.tabs? Runner.disabled 2 = some e' ∧ e'.session = none := by
  obtain ⟨e₁, started, active, room, e₂, moved, active₂, e, typed, active', text, found⟩ : ∃ e₁ : Editor,
      (⟨⟨['(', ')'], 1, none, ['\t']⟩, none, []⟩ : Editor).start? Runner.disabled
        ['$', '{', '2', ':', 'b', '$', '{', '3', ':', 'c', '}', '}', '$', '{', '1', ':', 'a', '}'] {} =
          some (none, e₁) ∧ e₁.isActive = true ∧ e₁.stopRange? (Node.numberLimit - 1) = none ∧
      ∃ e₂, Action.next.run? Runner.disabled e₁ = some e₂ ∧ e₂.isActive = true ∧
      ∃ e, (Action.insert ['x']).run? Runner.disabled e₂ = some e ∧ e.isActive = true ∧
        e.buffer.text = ['(', 'x', 'a', ')'] ∧
        e.session.map (fun s => (s.current, s.stops.map fun entry => (entry.1, entry.2.pipe))) =
          some (2, [(1, none), (2, none)]) :=
    ⟨_, rfl, rfl, rfl, _, rfl, rfl, _, rfl, rfl, rfl, rfl⟩
  have run : Onward Runner.disabled e₁ e := .call (.call .here (by simp) moved active₂) (by simp) typed active'
  have split : (⟨⟨['(', ')'], 1, none, ['\t']⟩, none, []⟩ : Editor).buffer.text = ['('] ++ [')'] := rfl
  obtain ⟨s, session, -, -, -, -, back, ends, gives⟩ := tabs_of_onward split rfl started active room run
  rw [session, Option.map_some, Option.some.injEq, Prod.mk.injEq] at found
  obtain ⟨current, stops⟩ := found
  have numbers : s.numbers = [1, 2] := by
    have keys := congrArg (List.map Prod.fst) stops
    simpa [Session.numbers, Entries.keys, Function.comp_def] using keys
  have unpiped : e.Unpiped := by
    intro t session' entry member
    obtain rfl := Option.some.inj (session.symm.trans session')
    have pipe : (entry.1, entry.2.pipe) ∈ s.stops.map fun entry => (entry.1, entry.2.pipe) := List.mem_map_of_mem member
    rw [stops] at pipe
    simp at pipe
    exact pipe.elim And.right And.right
  obtain ⟨e', moved'⟩ := gives (.inr unpiped) 2
  exact ⟨e₁, e, started, active, room, run, text, s, session, numbers, current, back, e', moved',
    ends 2 e' (by simp [numbers]) moved'⟩

/-- The greatest word is followed by 0, so moving on from it leads to it again, however often this is done. -/
theorem tabs_stuck : ∃ e : Editor,
    (⟨⟨[], 0, none, ['\t']⟩, none, []⟩ : Editor).start? Runner.disabled
      ['$', '{', '4', '2', '9', '4', '9', '6', '7', '2', '9', '5', ':', 'a', '}'] {} = some (none, e) ∧
    e.isActive = true ∧ e.currentStop? = some 4294967295 ∧ ∀ k, e.tabs? Runner.disabled k = some e := by
  obtain ⟨e, started, active, current, stays⟩ : ∃ e : Editor,
      (⟨⟨[], 0, none, ['\t']⟩, none, []⟩ : Editor).start? Runner.disabled
        ['$', '{', '4', '2', '9', '4', '9', '6', '7', '2', '9', '5', ':', 'a', '}'] {} = some (none, e) ∧
      e.isActive = true ∧ e.currentStop? = some 4294967295 ∧ e.next? Runner.disabled = some e :=
    ⟨_, rfl, rfl, rfl, rfl⟩
  refine ⟨e, started, active, current, fun k => ?_⟩
  induction k with
  | zero => rfl
  | succ k ih => rw [tabs?, stays, Option.bind_some, ih]

end Editor

end EditorBundles.Snippet
