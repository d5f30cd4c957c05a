import EditorBundles.Proofs.Snippet.CommandEnvironment
import EditorBundles.Proofs.Snippet.Running

/-!
# Piping tab stops through commands

When the session moves on from a tab stop with a command, the command is run once, on the text of the tab stop. What it
prints stands for the text of the tab stop from then on, and what shows the tab stop follows; if it prints nothing, all
stays as it is. Tab stop 0 is piped when the session ends on it. The text of the snippet that a command is given ends
at the end marker, wherever that is.
-/

namespace EditorBundles.Snippet.Editor
set_option autoImplicit false
open Text (byteLength IsBoundary)

/-- `e'` is `e` after the text `old` of the current tab stop was piped through a command: the command was run once, in
the environment `env`, and what it printed was typed over the tab stop, if that was anything. -/
structure Piped (runner : Runner) (e : Editor) (s : Session) (stop : Stop)
    (command before l old r after front : List Char) (env : Environment) (e' : Editor) : Prop where
  given : s.Gives (l ++ old ++ r) front env
  calls : e'.calls = e.calls ++ [⟨command, old, env⟩]
  printed : ∀ output, runner ⟨command, old, env⟩ = some output → output ≠ [] →
    Follows e' s stop before (l ++ old ++ r) after (typedAt (before ++ l) (r ++ after) (chomp output))
  silent : runner ⟨command, old, env⟩ = none ∨ runner ⟨command, old, env⟩ = some [] →
    e'.buffer = e.buffer ∧ e'.session = e.session

/-- `e'` is `e` after the current tab stop was left: it is piped through its command, if it has one. -/
inductive Leaves (runner : Runner) (e : Editor) (s : Session) (stop : Stop) (before l old r after front : List Char)
    (e' : Editor) : Prop where
  | plain (none_ : stop.pipe = none) (same : e' = e)
  | piped {command : List Char} {env : Environment} (some_ : stop.pipe = some command)
      (piped : Piped runner e s stop command before l old r after front env e')

/-- `e'` is `e` after moving on from the tab stop that was left: no other command is run, unless the session ends on tab
stop 0 and that has one. -/
inductive MovesOn (runner : Runner) (e : Editor) (t : Session) (current : Nat) (before region after front : List Char)
    (e' : Editor) : Prop where
  | quiet (none_ : (t.stops.next? ((current + 1) % Node.numberLimit)).isSome = true ∨
      ∀ stop, t.stops.get? 0 = some stop → stop.pipe = none)
      (calls : e'.calls = e.calls) (text : e'.buffer.text = e.buffer.text)
  | last {stop : Stop} {command l old r : List Char} {env : Environment} {q : Editor}
      (past : t.stops.next? ((current + 1) % Node.numberLimit) = none) (found : t.stops.get? 0 = some stop)
      (some_ : stop.pipe = some command) (split : region = l ++ old ++ r)
      (piped : Piped runner { e with buffer := e.buffer.deselect, session := some { t with current := 0 } }
        { t with current := 0 } stop command before l old r after front env q) (ended : e' = q.clear)

variable {e e' p : Editor} {s t : Session} {stop : Stop} {before l old r after region front back command : List Char}
  {runner : Runner}

/-- Moving back runs no command. -/
theorem silent_previous (e : Editor) : e.previous.calls = e.calls ∧ e.previous.buffer.text = e.buffer.text := by
  rw [previous]
  split
  · exact ⟨rfl, rfl⟩
  · split <;> exact ⟨rfl, rfl⟩

/-- A command is run once. -/
theorem Filling.piped (h : e.Filling s stop before l old r after) (some_ : stop.pipe = some command)
    (split : l ++ old ++ r = front ++ back) (finish : s.finish = byteLength front) (runner : Runner) :
    ∃ env e', e.pipe? runner s.current = some e' ∧
      Piped runner e s stop command before l old r after front env e' := by
  obtain ⟨env, environment, gives⟩ := h.lies.exists_pipeEnvironment? split finish
  have read : e.buffer.textOf? (s.range stop.interval).1 (s.range stop.interval).2 = some old := by
    rw [h.range, Buffer.textOf?, h.text]
    exact Text.slice?_append _ old _
  rw [Editor.pipe?, h.session]
  simp only [h.current, some_, environment, Option.bind_eq_bind, Option.bind_some, read]
  cases printed : (runner ⟨command, old, env⟩).filter (· ≠ []) with
  | none =>
    simp only [Option.pure_def]
    refine ⟨env, _, rfl, gives, rfl, fun output told present => ?_, fun _ => ⟨rfl, h.session.symm⟩⟩
    rw [told, Option.filter_some, if_pos (by simpa using present)] at printed
    cases printed
  | some output =>
    obtain ⟨told, present⟩ := Option.filter_eq_some_iff.1 printed
    have present : output ≠ [] := by simpa using present
    obtain ⟨e₁, b, e', rfl, selected, inserted, retyped, refreshes⟩ :=
      h.typesOver (e.calls ++ [⟨command, old, env⟩]) (chomp output)
    rw [h.session] at inserted
    refine ⟨env, e', inserted, gives, ?_, fun output' told' _ => ?_, fun nothing => ?_⟩
    · obtain ⟨s', b', -, rfl⟩ := refreshes
      rfl
    · obtain rfl := Option.some.inj (told.symm.trans told')
      exact selected.follows (refreshes.rewrites retyped)
    · rcases nothing with failed | empty
      · rw [told] at failed
        cases failed
      · exact absurd (Option.some.inj (told.symm.trans empty)) present

/-- After a tab stop was left, no command but that of tab stop 0 is run. -/
theorem exists_movesOn (session : e.session = some t) (lies : t.Over e.buffer before region after)
    (split : region = front ++ back) (finish : t.finish = byteLength front) (runner : Runner) (current : Nat) :
    ∃ e', e.advance? runner current = some e' ∧ MovesOn runner e t current before region after front e' := by
  rw [advance?, session]
  cases next : t.stops.next? ((current + 1) % Node.numberLimit) with
  | some entry =>
    simp only [next]
    refine ⟨_, rfl, .quiet (.inl (by rw [next]; rfl)) ?_ ?_⟩
    · split <;> rfl
    · split <;> rfl
  | none =>
    simp only [next]
    rw [conclude?]
    cases zero : t.stops.get? 0 with
    | none => exact ⟨_, rfl, .quiet (.inr fun stop found => by cases zero.symm.trans found) rfl rfl⟩
    | some stop =>
      cases command : stop.pipe with
      | none =>
        simp only [command, Option.isSome_none, Bool.false_eq_true, if_false]
        refine ⟨_, rfl, .quiet (.inr fun stop' found => ?_) rfl ?_⟩
        · obtain rfl := Option.some.inj (zero.symm.trans found)
          exact command
        · simp only [clear, Buffer.setCursor]
          split <;> rfl
      | some command' =>
        have deselected : t.Over e.buffer.deselect before region after :=
          ⟨lies.text, lies.offset, lies.cursor, lies.tree⟩
        obtain ⟨l, old, r, rfl, filling⟩ := filling_of_over
          (e := { e with buffer := e.buffer.deselect, session := some { t with current := 0 } }) rfl
          (over_enter deselected 0) zero
        obtain ⟨env, q, piped, said⟩ := filling.piped command split finish runner
        refine ⟨q.clear, ?_, .last next zero command rfl said rfl⟩
        simp only [command, Option.isSome_some, if_true, Option.bind_eq_bind]
        rw [piped]
        rfl

/-- In a run, moving on from a tab stop with a command runs the command once, on the text of the tab stop and in the
environment of the session with the text of the snippet up to its end marker and the texts of all tab stops. What it
prints stands for the text of the tab stop, without one line feed at its end; a lone line feed takes the indent of the
line with it. If it prints nothing, the buffer and the session stay as they are. Where the session ends on tab stop 0,
the command of that is run in the same way; no other command is. All this asks that the end marker is at a place in the
snippet. Moving back runs no command. -/
theorem pipes_of_running (run : Running runner before after e) :
    ∃ s stop l old r, e.Filling s stop before l old r after ∧
      (e.previous.calls = e.calls ∧ e.previous.buffer.text = e.buffer.text) ∧
      (s.current ≠ 0 → ∀ front back, l ++ old ++ r = front ++ back → s.finish = byteLength front →
        ∃ p t region, Leaves runner e s stop before l old r after front p ∧ p.session = some t ∧
          t.Over p.buffer before region after ∧ e.next? runner = p.advance? runner s.current ∧
          ∀ front' back', region = front' ++ back' → t.finish = byteLength front' →
            ∃ e', e.next? runner = some e' ∧ MovesOn runner p t s.current before region after front' e') := by
  obtain ⟨s, stop, l, old, r, filling⟩ := run.inSession
  refine ⟨s, stop, l, old, r, filling, e.silent_previous, fun numbered front back split finish => ?_⟩
  obtain ⟨p, piped, leaves⟩ : ∃ p, e.pipe? runner s.current = some p ∧
      Leaves runner e s stop before l old r after front p := by
    cases command : stop.pipe with
    | none =>
      refine ⟨e, ?_, .plain command rfl⟩
      rw [pipe?, filling.session]
      simp only [filling.current, command, Option.pure_def]
    | some command' =>
      obtain ⟨env, p, piped, said⟩ := filling.piped command split finish runner
      exact ⟨p, piped, .piped command said⟩
  obtain ⟨t, region, session, lies⟩ : ∃ t region, p.session = some t ∧ t.Over p.buffer before region after := by
    rcases filling.rewrites_of_pipe? piped with ⟨calls, rfl⟩ | ⟨e₁, content, filling₁, rewrites⟩
    · exact ⟨s, _, filling.session, filling.lies⟩
    · obtain ⟨t, region, session, lies, -⟩ := filling₁.follows rewrites
      exact ⟨t, region, session, lies⟩
  have moves : e.next? runner = p.advance? runner s.current := by
    rw [next?_eq runner filling.session, if_neg numbered, piped, Option.bind_some]
  refine ⟨p, t, region, leaves, session, lies, moves, fun front' back' split' finish' => ?_⟩
  obtain ⟨e', advanced, movesOn⟩ := exists_movesOn session lies split' finish' runner s.current
  exact ⟨e', moves.trans advanced, movesOn⟩

/-- Prints what a command is given twice, and a line feed. -/
def doubling : Runner := fun call => some (call.input ++ call.input ++ ['\n'])

/-- Moving on from a tab stop that has a command and a mirror, and ending on tab stop 0, which has a command too. -/
theorem pipes_of_running_twice : ∃ e e' : Editor,
    (⟨⟨['(', ')'], 1, none, ['\t']⟩, none, []⟩ : Editor).start? doubling
      ['$', '{', '1', ':', 'a', '|', 'c', '}', '$', '1', '$', '{', '0', ':', 'b', '|', 'd', '}'] {} = some (none, e) ∧
    Running doubling ['('] [')'] e ∧ e.next? doubling = some e' ∧
    e'.buffer.text = ['(', 'a', 'a', 'a', 'a', 'b', 'b', ')'] ∧ e'.calls.map (·.input) = [['a'], ['b']] ∧
    ∃ s stop l old r p t region, e.Filling s stop ['('] l old r [')'] ∧ s.current ≠ 0 ∧
      Leaves doubling e s stop ['('] l old r [')'] (l ++ old ++ r) p ∧ p.session = some t ∧
      t.Over p.buffer ['('] region [')'] ∧ e.next? doubling = p.advance? doubling s.current := by
  obtain ⟨e, e', started, active, text, current, moved, text', inputs⟩ : ∃ e e' : Editor,
      (⟨⟨['(', ')'], 1, none, ['\t']⟩, none, []⟩ : Editor).start? doubling
        ['$', '{', '1', ':', 'a', '|', 'c', '}', '$', '1', '$', '{', '0', ':', 'b', '|', 'd', '}'] {} = some (none, e) ∧
      e.isActive = true ∧ e.buffer.text = ['('] ++ ['a', 'a', 'b'] ++ [')'] ∧
      e.session.map (fun s => (s.current, s.finish)) = some (1, 3) ∧ e.next? doubling = some e' ∧
      e'.buffer.text = ['(', 'a', 'a', 'a', 'a', 'b', 'b', ')'] ∧ e'.calls.map (·.input) = [['a'], ['b']] :=
    ⟨_, _, rfl, rfl, rfl, rfl, rfl, rfl, rfl⟩
  have split : (⟨⟨['(', ')'], 1, none, ['\t']⟩, none, []⟩ : Editor).buffer.text = ['('] ++ [')'] := rfl
  have run : Running doubling ['('] [')'] e := .start split rfl started active
  obtain ⟨s, stop, l, old, r, filling, -, leaving⟩ := pipes_of_running run
  rw [filling.session, Option.map_some, Option.some.injEq, Prod.mk.injEq] at current
  obtain ⟨current, finish⟩ := current
  have region : l ++ old ++ r = ['a', 'a', 'b'] :=
    List.append_cancel_left (List.append_cancel_right (filling.lies.text.symm.trans text))
  have numbered : s.current ≠ 0 := by omega
  obtain ⟨p, t, region', leaves, session, lies, moves, -⟩ :=
    leaving numbered (l ++ old ++ r) [] (by simp) (by rw [region, finish]; rfl)
  exact ⟨e, e', started, run, moved, text', inputs, s, stop, l, old, r, p, t, region', filling, numbered, leaves,
    session, lies, moves⟩

/-- The snippet goes on behind its end marker here, but the command is only given the text in front of it. -/
theorem shortened_snippet : ∃ (e e' : Editor) (call : Call),
    (⟨⟨[], 0, none, ['\t']⟩, none, []⟩ : Editor).start? Runner.disabled
      ['$', '{', '1', ':', 'a', '|', 'c', '}', '$', '0', 'b'] {} = some (none, e) ∧ e.buffer.text = ['a', 'b'] ∧
    e.next? Runner.disabled = some e' ∧ e'.calls = [call] ∧ call.env.get? snippetName = some ['a'] := by
  obtain ⟨e, e', started, text, moved⟩ : ∃ e e' : Editor,
      (⟨⟨[], 0, none, ['\t']⟩, none, []⟩ : Editor).start? Runner.disabled
        ['$', '{', '1', ':', 'a', '|', 'c', '}', '$', '0', 'b'] {} = some (none, e) ∧ e.buffer.text = ['a', 'b'] ∧
      e.next? Runner.disabled = some e' := ⟨_, _, rfl, rfl, rfl⟩
  have given : (((⟨⟨[], 0, none, ['\t']⟩, none, []⟩ : Editor).start? Runner.disabled
      ['$', '{', '1', ':', 'a', '|', 'c', '}', '$', '0', 'b'] {}).bind fun started =>
        (started.2.next? Runner.disabled).map fun moved => moved.calls.map fun call => call.env.get? snippetName) =
      some [some ['a']] := by decide +kernel
  rw [started, Option.bind_some, moved, Option.map_some, Option.some.injEq, List.map_eq_singleton_iff] at given
  obtain ⟨call, calls, snippet⟩ := given
  exact ⟨e, e', call, started, text, moved, calls, snippet⟩

end EditorBundles.Snippet.Editor
