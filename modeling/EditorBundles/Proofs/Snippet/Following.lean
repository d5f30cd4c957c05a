import EditorBundles.Proofs.Snippet.Running
import Mathlib.Logic.Relation

/-!
# What follows the text of a tab stop

A session is started with its tab stops brought up to date in the order of their numbers, so a tab stop is
in sync if only earlier ones are shown inside it. An edit brings the current tab stop up to date and no
other one: those that hold it, or hold something that shows it, may be left behind. Over a whole run the
tab stops that hold nothing stay in sync.
-/

namespace EditorBundles.Snippet
set_option autoImplicit false
open Text (byteLength)

namespace Session

variable {s t : Session} {b : Buffer} {before after region region' content : List Char} {id number : Nat}

/-- A tab stop is in sync, if there is one with that number. -/
def Synced (s : Session) (region : List Char) (number : Nat) : Prop :=
  ∀ stop, s.stops.get? number = some stop → s.Shows region number stop

/-- Something that shows tab stop `number` lies inside tab stop `holder`. -/
def ShownIn (s : Session) (number holder : Nat) : Prop :=
  ∃ stop, s.stops.get? holder = some stop ∧ ∃ i ∈ s.shown number, Below s.interval i stop.interval

/-- The text of tab stop `number` goes into the text of tab stop `holder`, which holds it or something that
shows it. -/
def Feeds (s : Session) (number holder : Nat) : Prop :=
  ∃ stop, s.stops.get? holder = some stop ∧
    ∃ i, (i ∈ s.shown number ∨ (s.stops.get? number).map (·.interval) = some i) ∧ Below s.interval i stop.interval

/-- Every tab stop is in sync inside which neither it nor a later one is shown. -/
def SyncedAbove (s : Session) (region : List Char) : Prop :=
  ∀ number, (∀ later, number ≤ later → ¬ s.ShownIn later number) → s.Synced region number

/-- Every tab stop is in sync that holds no interval, not even one of something that was dropped. -/
def SyncedLeaves (s : Session) (region : List Char) : Prop :=
  ∀ number, (∀ stop, s.stops.get? number = some stop → ∀ i, ¬ Below s.interval i stop.interval) →
    s.Synced region number

/-- No tab stop goes into its own text if texts go into later tab stops only. -/
theorem not_transGen_feeds (lower : ∀ number holder, s.Feeds number holder → number < holder) (number : Nat) :
    ¬ Relation.TransGen s.Feeds number number := by
  have less {first last : Nat} (path : Relation.TransGen s.Feeds first last) : first < last := by
    induction path with
    | single feeds => exact lower _ _ feeds
    | tail _ feeds ih => exact Nat.lt_trans ih (lower _ _ feeds)
  exact fun cycle => Nat.lt_irrefl number (less cycle)

/-- Another tab stop becomes the current one. -/
theorem Synced.enter (h : s.Synced region number) (current : Nat) : Synced { s with current } region number :=
  fun stop found => (h stop found).frame (fun _ member => member) (fun _ member => member) rfl rfl fun _ _ => rfl

/-- A session starts with its tab stops in sync, as far as the later ones leave the earlier ones alone. -/
theorem Over.syncedAbove {b' : Buffer} (h : s.Over b before region after)
    (ascending : (Entries.keys s.stops).Pairwise (· < ·))
    (refreshed : s.refreshAll? b (s.stops.map (·.1)) = some (t, b')) (lies : t.Over b' before region' after) :
    t.SyncedAbove region' := by
  obtain ⟨t', b'', region'', refreshed', lies', writes, shows⟩ := h.refreshAll? (s.stops.map (·.1))
  obtain ⟨rfl, rfl⟩ := Prod.mk.inj (Option.some.inj (refreshed.symm.trans refreshed'))
  obtain rfl := lies.region_unique lies'
  have alike := writes.alike
  intro number outside stop stays
  have found : s.stops.get? number = some stop := alike.stops ▸ stays
  obtain ⟨front, back, split, -⟩ := Entries.exists_split_of_get? found
  have numbers : s.stops.map (·.1) = front.map (·.1) ++ number :: back.map (·.1) := by simp [split]
  have later : ∀ other ∈ back.map (·.1), number < other := by
    have ascending : (s.stops.map (·.1)).Pairwise (· < ·) := ascending
    rw [numbers] at ascending
    exact (List.pairwise_cons.1 (List.pairwise_append.1 ascending).2.1).1
  refine shows _ number _ stop numbers (fun member => Nat.lt_irrefl _ (later number member)) found ?_
  intro other member i shown below
  have order : number ≤ other := by
    rcases List.mem_cons.1 member with rfl | behind
    · exact Nat.le_refl _
    · exact Nat.le_of_lt (later other behind)
  exact outside other order ⟨stop, stays, i, alike.shown other ▸ shown, alike.below.2 below⟩

/-- A tab stop that is left after a drop was there before, with all of its mirrors. -/
theorem Tree.get?_of_dropNested (h : s.Tree region) {stop : Stop}
    (found : (s.dropNested id).stops.get? number = some stop) :
    ∃ stop', s.stops.get? number = some stop' ∧ stop.interval = stop'.interval ∧
      ∀ i ∈ stop.mirrors, i ∈ stop'.mirrors := by
  obtain ⟨⟨number', stop'⟩, kept, same⟩ := List.mem_map.1 (Entries.mem_of_get? found)
  obtain ⟨rfl, rfl⟩ := Prod.mk.inj same
  exact ⟨stop', Entries.get?_of_mem h.numbers (List.mem_filter.1 kept).1, rfl,
    fun i mirror => (List.mem_filter.1 mirror).1⟩

/-- The tab stop that was edited is in sync. -/
theorem Edited.shows_current (edited : s.Edited t region region' number id content) {stop : Stop}
    (here : stop.interval = id) : t.Shows region' number stop :=
  ⟨content, here ▸ edited.reads, edited.inSync⟩

/-- An edit leaves a tab stop in sync that holds neither the edited one nor anything that shows it. -/
theorem Edited.shows (edited : s.Edited t region region' number id content) (h : s.Tree region)
    (h' : t.Tree region') (stopId : id ∈ t.stopIds) {other : Nat} {stop stop' : Stop} (different : other ≠ number)
    (found : s.stops.get? other = some stop) (found' : t.stops.get? other = some stop')
    (elsewhere : stop'.interval ≠ id) (apart : ¬ Below t.interval id stop'.interval)
    (unshown : ∀ i ∈ t.shown number, ¬ Below t.interval i stop'.interval) (shows : s.Shows region other stop) :
    t.Shows region' other stop' := by
  have dropped := edited.dropped
  rw [dropped.stops] at found'
  obtain ⟨stop₀, found₀, same, mirrors⟩ := h.get?_of_dropNested found'
  obtain rfl := Option.some.inj (found.symm.trans found₀)
  rw [← dropped.stops] at found'
  have stopId' := mem_stopIds_of_get? found'
  have shows : s.Shows region other stop' := by
    obtain ⟨content, reads, sync⟩ := shows
    exact ⟨content, same ▸ reads, sync⟩
  refine shows.frame ?_ ?_ dropped.indent dropped.indentUnit ?_
  · intro i member
    rw [mirrorsOf, found'] at member
    rw [mirrorsOf, found]
    exact mirrors i member
  · intro binding member
    rw [bindingsOf, dropped.bindings] at member
    obtain ⟨kept, source⟩ := List.mem_filter.1 member
    exact List.mem_filter.2 ⟨(List.mem_filter.1 kept).1, source⟩
  · rintro i (rfl | member)
    · refine edited.kept _ (mem_liveIds_of_mem_stopIds stopId') elsewhere (fun shown => ?_) apart unshown
      exact ((h'.shown number).2 _ shown).2 stopId'
    · -- what shows the tab stop holds nothing, and shows no other
      obtain ⟨live, notStop⟩ := (h'.shown other).2 i member
      refine edited.kept i live ?_ (h'.shown_disjoint different member) ?_ ?_
      · exact fun same => notStop (same ▸ stopId)
      · exact h'.leaf notStop id (mem_liveIds_of_mem_stopIds stopId)
      · exact fun j shown => h'.leaf notStop j ((h'.shown number).2 j shown).1

/-- Tab stops have different intervals. -/
theorem Tree.interval_ne (h : s.Tree region) {other : Nat} {stop stop' : Stop} (different : number ≠ other)
    (found : s.stops.get? number = some stop) (found' : s.stops.get? other = some stop') :
    stop.interval ≠ stop'.interval := by
  have apart := h.stops_disjoint different (Entries.mem_of_get? found) (Entries.mem_of_get? found')
  exact fun same => apart List.mem_cons_self (same ▸ List.mem_cons_self)

end Session

namespace Editor
open Session

/-- Typing, or deleting some text. -/
inductive Edits (e : Editor) : Editor → Prop where
  | insert {e' : Editor} (text : List Char) (inserted : e.insert? text = some e') : Edits e e'
  | delete {e' : Editor} {start stop : Nat} (some_ : start < stop) (deleted : e.delete? start stop = some e') :
      Edits e e'

variable {runner : Runner} {before after l old r : List Char} {e e' : Editor} {s : Session} {stop : Stop}

theorem Filling.follows_edits (h : e.Filling s stop before l old r after) (edits : e.Edits e')
    (active : e'.isActive = true) : ∃ content, Follows e' s stop before (l ++ old ++ r) after content := by
  cases edits with
  | insert text inserted => exact h.follows_insert? inserted active
  | delete some_ deleted => exact h.follows_delete? some_ deleted active

theorem initial_syncedAbove : Initial SyncedAbove where
  enter := fun current synced number outside => (synced number outside).enter current
  start := fun lies ascending refreshed lies' => lies.syncedAbove ascending refreshed lies'

/-- The interval of the current tab stop stays the same over an edit, and the tab stop stays live. -/
theorem current_of_edited {t : Session} {region region' content : List Char} (h : s.Tree region)
    (current : s.stops.get? s.current = some stop)
    (edited : s.Edited t region region' s.current stop.interval content) :
    ∃ stop', t.stops.get? s.current = some stop' ∧ stop'.interval = stop.interval := by
  have kept := h.mem_stopIds_dropNested_self (mem_stopIds_of_get? current)
  have found := get?_dropNested current (mem_stopIds_dropNested.1 kept).2
  rw [← edited.dropped.stops] at found
  exact ⟨_, found, rfl⟩

/-- An edit leaves the current tab stop in sync, and those that were in sync and that it does not feed. -/
theorem synced_of_edited {t : Session} {region region' content : List Char} (h : s.Tree region)
    (h' : t.Tree region') (current : s.stops.get? s.current = some stop)
    (edited : s.Edited t region region' s.current stop.interval content) {number : Nat}
    (unfed : number = s.current ∨ ¬ t.Feeds s.current number ∧ s.Synced region number) :
    t.Synced region' number := by
  intro after found'
  obtain ⟨stop', live, same⟩ := current_of_edited h current edited
  by_cases here : number = s.current
  · subst here
    obtain rfl := Option.some.inj (live.symm.trans found')
    exact edited.shows_current same
  · obtain ⟨unfed, synced⟩ := unfed.resolve_left here
    obtain ⟨before, found, -, -⟩ := h.get?_of_dropNested (edited.dropped.stops ▸ found')
    have apart (i : Nat) (shown : i ∈ t.shown s.current ∨ i = stop.interval) :
        ¬ Below t.interval i after.interval := by
      intro below
      refine unfed ⟨after, found', i, shown.imp_right ?_, below⟩
      rintro rfl
      rw [live, Option.map_some, same]
    have elsewhere := same ▸ h'.interval_ne here found' live
    exact edited.shows h h' (same ▸ mem_stopIds_of_get? live) here found found' elsewhere (apart _ (.inr rfl))
      (fun i shown => apart i (.inl shown)) (synced before found)

theorem lasting_syncedLeaves : Lasting SyncedLeaves where
  enter := fun current synced number empty => (synced number empty).enter current
  start := fun lies ascending refreshed lies' number empty =>
    lies.syncedAbove ascending refreshed lies' number fun _ _ ⟨stop, found, i, _, below⟩ => empty stop found i below
  edited := by
    intro s t region region' content stop h h' current synced edited number empty after found'
    have dropped := edited.dropped
    obtain ⟨parent, -⟩ := interval_dropNested s stop.interval
    obtain ⟨before, found, same, -⟩ := h.get?_of_dropNested (dropped.stops ▸ found')
    refine synced_of_edited h h' current edited (.inr ⟨?_, synced number ?_⟩) after found'
    · rintro ⟨holder, found'', i, -, below⟩
      exact empty holder found'' i below
    · intro holder found'' i below
      obtain rfl := Option.some.inj (found.symm.trans found'')
      exact empty after found' i (same ▸ below.congr fun i => (dropped.parent i).trans (parent i))

/-- A session starts with every tab stop in sync inside which neither it nor a later one is shown. In a run
the tab stops that hold nothing are in sync, and an edit leaves the current tab stop in sync, and with it all
those that were in sync and that it does not feed. -/
theorem synced_of_running :
    (∀ {e e' : Editor} {template : List Char} {env : Environment}, e.buffer.text = before ++ after →
      e.buffer.cursor = byteLength before → e.start? runner template env = some (none, e') →
      e'.isActive = true → e'.Upholds SyncedAbove before after) ∧
    ∀ {e : Editor}, Running runner before after e → ∃ s stop l old r,
      e.Filling s stop before l old r after ∧ s.SyncedLeaves (l ++ old ++ r) ∧
      ∀ e', e.Edits e' → e'.isActive = true → ∃ s' region', e'.session = some s' ∧
        s'.Over e'.buffer before region' after ∧
        ∀ number, number = s.current ∨ ¬ s'.Feeds s.current number ∧ s.Synced (l ++ old ++ r) number →
          s'.Synced region' number := by
  constructor
  · intro e e' template env text cursor started active
    exact upholds_start? initial_syncedAbove text cursor started active
  · intro e run
    obtain ⟨s, stop, l, old, r, filling, synced⟩ := run.upholds lasting_syncedLeaves
    refine ⟨s, stop, l, old, r, filling, synced, fun e' edits active => ?_⟩
    obtain ⟨content, s', region', session, lies, edited⟩ := filling.follows_edits edits active
    exact ⟨s', region', session, lies, fun number unfed =>
      synced_of_edited filling.lies.tree lies.tree filling.current edited unfed⟩

/-- Typing over the placeholder of a tab stop that is shown inside another. -/
theorem synced_of_running_shown : ∃ e : Editor, e.buffer.text = ['b', 'x', 'b'] ∧
    Running Runner.disabled [] [] e ∧ e.Upholds SyncedLeaves [] [] := by
  obtain ⟨e, started, active, e', inserted, active', text⟩ : ∃ e : Editor,
      (⟨⟨[], 0, none, ['\t']⟩, none, []⟩ : Editor).start? Runner.disabled
        ['$', '{', '1', ':', 'a', '}', '$', '{', '2', ':', 'x', '$', '1', '}'] {} = some (none, e) ∧
      e.isActive = true ∧
      ∃ e', e.insert? ['b'] = some e' ∧ e'.isActive = true ∧ e'.buffer.text = ['b', 'x', 'b'] :=
    ⟨_, rfl, rfl, _, rfl, rfl, rfl⟩
  have run : Running Runner.disabled [] [] e' := .insert (.start rfl rfl started active) inserted active'
  obtain ⟨s, stop, l, old, r, filling, synced, -⟩ := synced_of_running.2 run
  exact ⟨e', text, run, s, stop, l, old, r, filling, synced⟩

/-- No tab stop goes into its own text here, but once the first one is typed over, the mirror of the second
one, which shows the first one, still reads what the second one has read before. -/
theorem stale_mirror : ∃ (e e' : Editor) (s s' : Session),
    (⟨⟨[], 0, none, ['\t']⟩, none, []⟩ : Editor).start? Runner.disabled
      ['$', '{', '1', ':', 'a', '}', '$', '{', '2', ':', 'x', '$', '1', '}', '$', '2'] {} = some (none, e) ∧
    e.session = some s ∧ (∀ number, ¬ Relation.TransGen s.Feeds number number) ∧
    e.insert? ['b'] = some e' ∧ e'.session = some s' ∧ s'.Over e'.buffer [] e'.buffer.text [] ∧
    ¬ s'.Synced e'.buffer.text 2 := by
  obtain ⟨e, s, e', s', started, session, intervals, stops, bindings, active, inserted, session', active', stops', stop',
      mirror'⟩ : ∃ (e : Editor) (s : Session) (e' : Editor) (s' : Session),
      (⟨⟨[], 0, none, ['\t']⟩, none, []⟩ : Editor).start? Runner.disabled
        ['$', '{', '1', ':', 'a', '}', '$', '{', '2', ':', 'x', '$', '1', '}', '$', '2'] {} = some (none, e) ∧
      e.session = some s ∧ s.intervals = [⟨0, 1, none⟩, ⟨1, 3, none⟩, ⟨2, 3, some 1⟩, ⟨3, 5, none⟩] ∧
      s.stops = [(1, ⟨0, none, [2]⟩), (2, ⟨1, none, [3]⟩)] ∧ s.bindings = [] ∧ e.isActive = true ∧
      e.insert? ['b'] = some e' ∧ e'.session = some s' ∧ e'.isActive = true ∧ s'.stops = s.stops ∧
      s'.textIn? e'.buffer.text 1 = some ['x', 'b'] ∧ s'.textIn? e'.buffer.text 3 = some ['x', 'a'] :=
    ⟨_, _, _, _, rfl, rfl, rfl, rfl, rfl, rfl, rfl, rfl, rfl, rfl, rfl, rfl⟩
  refine ⟨e, e', s, s', started, session, ?_, inserted, session', ?_, ?_⟩
  · -- only the first tab stop goes into another, the second one
    have lower (number holder : Nat) (feeds : s.Feeds number holder) : number < holder := by
      obtain ⟨stop, found, i, shown, below⟩ := feeds
      have parent (i p : Nat) (found : (s.interval i).parent = some p) : i = 2 ∧ p = 1 := by
        rcases i with _ | _ | _ | _ | i
        · simp [interval, intervals] at found
        · simp [interval, intervals] at found
        · simpa [interval, intervals, eq_comm] using found
        · simp [interval, intervals] at found
        · simp [interval, intervals] at found
      obtain ⟨inside, around⟩ : i = 2 ∧ stop.interval = 1 := by
        cases below with
        | parent found => exact parent _ _ found
        | step found above =>
          obtain ⟨rfl, rfl⟩ := parent _ _ found
          cases above with
          | parent found => exact absurd (parent _ _ found).1 (by decide)
          | step found _ => exact absurd (parent _ _ found).1 (by decide)
      subst inside
      have holds : holder = 2 := by
        rcases holder with _ | _ | _ | holder
        · simp [stops, Stops.get?, Entries.get?] at found
        · simp [stops, Stops.get?, Entries.get?] at found
          simp [← found] at around
        · rfl
        · simp [stops, Stops.get?, Entries.get?] at found
      have shows : number = 1 := by
        rcases number with _ | _ | _ | number
        · simp [stops, bindings, Session.shown, mirrorsOf, bindingsOf, Stops.get?, Entries.get?] at shown
        · rfl
        · simp [stops, bindings, Session.shown, mirrorsOf, bindingsOf, Stops.get?, Entries.get?] at shown
        · simp [stops, bindings, Session.shown, mirrorsOf, bindingsOf, Stops.get?, Entries.get?] at shown
      omega
    exact not_transGen_feeds lower
  · have run : Running Runner.disabled [] [] e' := .insert (.start rfl rfl started active) inserted active'
    obtain ⟨t, stop, l, old, r, filling⟩ := run.inSession
    obtain rfl := Option.some.inj (session'.symm.trans filling.session)
    rw [show e'.buffer.text = l ++ old ++ r by simp [filling.lies.text]]
    exact filling.lies
  · intro synced
    obtain ⟨content, reads, inSync⟩ := synced ⟨1, none, [3]⟩ (by rw [stops', stops]; rfl)
    obtain rfl := Option.some.inj (reads.symm.trans stop')
    have shown := inSync.mirrors 3 (by rw [mirrorsOf, stops', stops]; exact List.mem_singleton_self 3)
    exact absurd (mirror'.symm.trans shown) (by decide)

end Editor

end EditorBundles.Snippet
