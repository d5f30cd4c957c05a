import EditorBundles.Proofs.Snippet.Editing

/-!
# Sessions as trees of intervals

Over every run of commands a session is a tree of intervals on the text of its snippet, and an edit
inside the current tab stop changes that tree as one would expect: the text of the tab stop is the edited
one, nothing is left inside it, what shows the tab stop shows the new text, and the text of every tab stop
that is not around any of these stays what it was.
-/

namespace EditorBundles.Snippet.Editor
set_option autoImplicit false
open Text (byteLength IsBoundary)

/-- The states of an editor while a snippet is being filled in between two texts: it is started where the
cursor is, and goes on as long as the session does. In between the cursor moves to other places and the
selection changes. -/
inductive Running (runner : Runner) (before after : List Char) : Editor → Prop where
  | start {e e' : Editor} {template : List Char} {env : Environment} (text : e.buffer.text = before ++ after)
      (cursor : e.buffer.cursor = byteLength before) (started : e.start? runner template env = some (none, e'))
      (active : e'.isActive = true) : Running runner before after e'
  | next {e e' : Editor} (run : Running runner before after e) (moved : e.next? runner = some e')
      (active : e'.isActive = true) : Running runner before after e'
  | previous {e : Editor} (run : Running runner before after e) : Running runner before after e.previous
  | insert {e e' : Editor} {text : List Char} (run : Running runner before after e)
      (inserted : e.insert? text = some e') (active : e'.isActive = true) : Running runner before after e'
  | delete {e e' : Editor} {start stop : Nat} (run : Running runner before after e)
      (deleted : e.delete? start stop = some e') (active : e'.isActive = true) : Running runner before after e'
  | move {e : Editor} {position : Nat} (run : Running runner before after e)
      (place : IsBoundary e.buffer.text position) :
      Running runner before after { e with buffer := e.buffer.setCursor position }
  | select {e : Editor} (start stop : Nat) (run : Running runner before after e) :
      Running runner before after { e with buffer := e.buffer.select start stop }
  | deselect {e : Editor} (run : Running runner before after e) :
      Running runner before after { e with buffer := e.buffer.deselect }

variable {runner : Runner} {before after : List Char} {e : Editor}

/-- A run keeps what sessions start with and edits keep. -/
theorem Running.upholds {P : Session → List Char → Prop} (lasting : Lasting P)
    (run : Running runner before after e) : e.Upholds P before after := by
  induction run with
  | start text cursor started active => exact upholds_start? lasting.toInitial text cursor started active
  | next _ moved active ih => exact ih.next? lasting.enduring moved active
  | previous _ ih =>
    obtain ⟨s, stop, l, old, r, filling, holding⟩ := ih
    exact filling.upholds_previous holding lasting.toMovable
  | insert _ inserted active ih =>
    obtain ⟨s, stop, l, old, r, filling, holding⟩ := ih
    exact filling.upholds_insert? holding lasting.enduring inserted active
  | delete _ deleted active ih =>
    obtain ⟨s, stop, l, old, r, filling, holding⟩ := ih
    exact filling.upholds_delete? holding lasting.enduring deleted active
  | @move e position _ place ih =>
    obtain ⟨s, stop, l, old, r, filling, holding⟩ := ih
    have cursor := Buffer.isBoundary_setCursor place
    exact (filling.withBuffer (b := e.buffer.setCursor position) rfl cursor e.calls).upholds holding
  | @select e start last _ ih =>
    obtain ⟨s, stop, l, old, r, filling, holding⟩ := ih
    exact (filling.withBuffer (b := e.buffer.select start last) rfl filling.lies.cursor e.calls).upholds holding
  | @deselect e _ ih =>
    obtain ⟨s, stop, l, old, r, filling, holding⟩ := ih
    exact (filling.withBuffer (b := e.buffer.deselect) rfl filling.lies.cursor e.calls).upholds holding

/-- A run keeps the intervals nested between the two texts. -/
theorem Running.inSession (run : Running runner before after e) : e.InSession before after := by
  have lasting : Lasting fun _ _ => True :=
    { enter := fun _ _ => trivial, start := fun _ _ _ _ => trivial, edited := fun _ _ _ _ _ => trivial }
  obtain ⟨s, stop, l, old, r, filling, -⟩ := run.upholds lasting
  exact ⟨s, stop, l, old, r, filling⟩

/-- In a run the buffer is the text before, the text of the snippet and the text after, with the live
intervals nested on the text of the snippet. Typing inside the current tab stop, and deleting some of it,
rewrite the tab stop, drop what lies inside it, and bring what shows it up to date; of the other tab stops
only those around any of these change. -/
theorem tree_of_running (run : Running runner before after e) :
    ∃ s stop l old r, e.Filling s stop before l old r after ∧
      (∀ text, holds (s.range stop.interval) e.buffer.cursor = true → ∃ e' content, e.insert? text = some e' ∧
        Typed e.buffer (before ++ l) old (r ++ after) text content ∧
        Follows e' s stop before (l ++ old ++ r) after content) ∧
      ∀ first last, first < last → (s.range stop.interval).1 ≤ first → last ≤ (s.range stop.interval).2 →
        IsBoundary e.buffer.text first → IsBoundary e.buffer.text last →
        ∃ left gone right e', old = left ++ gone ++ right ∧ first = byteLength (before ++ l ++ left) ∧
          last = byteLength (before ++ l ++ left) + byteLength gone ∧ e.delete? first last = some e' ∧
          Follows e' s stop before (l ++ old ++ r) after (left ++ right) := by
  obtain ⟨s, stop, l, old, r, filling⟩ := run.inSession
  refine ⟨s, stop, l, old, r, filling, fun text inside => filling.insert? inside text, ?_⟩
  intro first last order lower upper firstBound lastBound
  exact filling.delete? order lower upper firstBound lastBound

/-- Typing over the placeholder of a tab stop that has a mirror. -/
theorem tree_of_running_mirror : ∃ e : Editor, e.buffer.text = ['(', 'b', 'b', ')'] ∧
    Running Runner.disabled ['('] [')'] e ∧ ∃ s stop l old r, e.Filling s stop ['('] l old r [')'] := by
  obtain ⟨e, started, active, e', inserted, active', text⟩ : ∃ e : Editor,
      (⟨⟨['(', ')'], 1, none, ['\t']⟩, none, []⟩ : Editor).start? Runner.disabled
        ['$', '{', '1', ':', 'a', '}', '$', '1'] {} = some (none, e) ∧ e.isActive = true ∧
      ∃ e', e.insert? ['b'] = some e' ∧ e'.isActive = true ∧ e'.buffer.text = ['(', 'b', 'b', ')'] :=
    ⟨_, rfl, rfl, _, rfl, rfl, rfl⟩
  have run : Running Runner.disabled ['('] [')'] e' := .insert (.start rfl rfl started active) inserted active'
  obtain ⟨s, stop, l, old, r, filling, -⟩ := tree_of_running run
  exact ⟨e', text, run, s, stop, l, old, r, filling⟩

end EditorBundles.Snippet.Editor
