import EditorBundles.Proofs.Snippet.Following
import EditorBundles.Proofs.Snippet.MarkerPlace
import EditorBundles.Proofs.Snippet.Placeholders

/-!
# Transforms that change nothing

A transform that finds nothing gives back the text of its tab stop. Where it is shown, the indent of the line is put
behind each line feed of it, and so once more behind those of a text that was indented when it was inserted. Such a
transform shows what a mirror shows if the line has no indent, and if the text is a single line.
-/

namespace EditorBundles.Snippet
set_option autoImplicit false
open Text (byteLength IsBoundary)

/-! ## Transforms -/

/-- A transform whose pattern is none, or matches nowhere in a text. -/
def Transform.Idle (t : Transform) (s : List Char) : Prop :=
  ∀ program, t.program? = some program → Regex.find? program s.toArray 0 = none

theorem substitute_of_find_eq_none {find : Nat → Option Regex.Match} (none_ : find 0 = none)
    (render : Regex.Match → List Char) (text : Array Char) (everywhere : Bool) :
    substitute find render text everywhere = text.toList := by
  rw [substitute, substituteFrom, none_]
  simp

/-- A transform that finds nothing leaves its input as it is. -/
theorem Transform.Idle.apply {t : Transform} {s : List Char} (idle : t.Idle s) (indentUnit : List Char) :
    t.apply s indentUnit = s := by
  rw [Transform.apply]
  cases found : t.program? with
  | none => rfl
  | some program =>
    simp only
    rw [substitute_of_find_eq_none (idle program found)]

namespace Session

variable {s t : Session} {region content : List Char}

theorem length_indentText (s : Session) (content : List Char) :
    (s.indentText content).length = content.length + content.count '\n' * s.indent.length := by
  induction content with
  | nil => simp [indentText]
  | cons c content ih =>
    rw [indentText] at ih
    rw [indentText, List.flatMap_cons, List.length_append, ih]
    by_cases feed : c = '\n'
    · subst feed
      simp only [if_true, List.length_cons, List.count_cons_self, Nat.add_mul]
      omega
    · simp only [feed, if_false, List.length_cons, List.length_nil, List.count_cons_of_ne feed]
      omega

/-- Indenting leaves a text as it is if there is no indent, or no line feed. -/
theorem indentText_eq_self_iff : s.indentText content = content ↔ s.indent = [] ∨ '\n' ∉ content := by
  constructor
  · intro same
    have length := length_indentText s content
    rw [same] at length
    have nothing : content.count '\n' * s.indent.length = 0 := by omega
    rcases Nat.mul_eq_zero.1 nothing with none_ | none_
    · exact .inr (List.count_eq_zero.1 none_)
    · exact .inl (List.length_eq_zero_iff.1 none_)
  · intro plain
    have each : ∀ c ∈ content, (if c = '\n' then c :: s.indent else [c]) = [c] := by
      intro c member
      split
      · next feed =>
        have noIndent := plain.resolve_right fun absent => absent (feed ▸ member)
        rw [noIndent]
      · rfl
    rw [indentText, List.flatMap_congr each, List.flatMap_singleton']

/-- No interval lies in a tab stop, if there is one with that number. -/
def HoldsNone (s : Session) (number : Nat) : Prop :=
  ∀ stop, s.stops.get? number = some stop → ∀ i, (s.interval i).parent ≠ some stop.interval

theorem HoldsNone.not_below {number : Nat} (h : s.HoldsNone number) {stop : Stop}
    (found : s.stops.get? number = some stop) (i : Nat) : ¬ Below s.interval i stop.interval := by
  intro below
  generalize target : stop.interval = id at below
  induction below with
  | parent inside => exact h stop found _ (target ▸ inside)
  | step _ _ ih => exact ih target

end Session

namespace Editor
open Session

variable {runner : Runner} {before after : List Char} {e e₀ e₁ : Editor} {number : Nat}

/-- Nothing comes to lie in a tab stop, and the indent stays the same. -/
theorem enduring_holdsNone (number : Nat) (indent : List Char) :
    Enduring fun s _ => s.HoldsNone number ∧ s.indent = indent where
  enter _ holding := holding
  rewrites {e e' s stop before l old r after content} h rewrites holding := by
    obtain ⟨bare, rfl⟩ := holding
    obtain ⟨t, stop', l', old', r', filling, edited⟩ := h.refill (h.follows rewrites)
    refine filling.upholds ⟨fun there found i => ?_, edited.dropped.indent⟩
    obtain ⟨parent, -⟩ := interval_dropNested s stop.interval
    obtain ⟨here, found', same, -⟩ := h.lies.tree.get?_of_dropNested (edited.dropped.stops ▸ found)
    rw [edited.dropped.parent i, parent i, same]
    exact bare here found' i

/-- A snippet starts with the indent of its line, and with nothing in the tab stops that have plain text for a
placeholder. -/
theorem holdsNone_start? {template : List Char} {env : Environment} {placeholder : List Node}
    (text : e₀.buffer.text = before ++ after) (cursor : e₀.buffer.cursor = byteLength before)
    (started : e₀.start? runner template env = some (none, e₁)) (active : e₁.isActive = true)
    (defined : (number, placeholder) ∈ Node.definitions env (parseTemplate template))
    (plain : Node.IsPlain placeholder) : ∃ indent, e₀.buffer.lineIndent? e₀.buffer.cursor = some indent ∧
      e₁.Upholds (fun s _ => s.HoldsNone number ∧ s.indent = indent) before after := by
  obtain ⟨indent, t, b, calls, region, line, alike, lies, advanced⟩ := exists_started text cursor started active
  obtain ⟨growing, closed⟩ := Expansion.growing_ofNodes runner env e₀.buffer.indentUnit (parseTemplate template)
  have defines := Expansion.defines_ofNodes runner env e₀.buffer.indentUnit (parseTemplate template)
  obtain ⟨-, -, parent⟩ := growing.nested_indentLines closed indent
  have bare : t.HoldsNone number := by
    intro stop found i
    rw [alike.stops] at found
    rw [alike.parent i]
    exact fun inside => (defines.bare defined plain found).2 i ((parent i).symm.trans inside)
  have starts := upholds_advance? (enduring_holdsNone number indent).toMovable rfl lies ⟨bare, alike.indent⟩ advanced active
  exact ⟨indent, line, starts⟩

/-- From its start on, a tab stop that the template defines with plain text is shown by its mirrors, and by a transform
that finds nothing in its text, which puts the indent of the line behind each line feed. So such a transform shows the
text itself if and only if the line has no indent or the text is a single line. -/
theorem shown_of_onward {template : List Char} {env : Environment} {placeholder : List Node}
    (text : e₀.buffer.text = before ++ after) (cursor : e₀.buffer.cursor = byteLength before)
    (started : e₀.start? runner template env = some (none, e₁)) (active : e₁.isActive = true)
    (defined : (number, placeholder) ∈ Node.definitions env (parseTemplate template))
    (plain : Node.IsPlain placeholder) (run : Onward runner e₁ e) :
    ∃ s region, e.session = some s ∧ s.Over e.buffer before region after ∧
      e₀.buffer.lineIndent? e₀.buffer.cursor = some s.indent ∧
      ∀ stop, s.stops.get? number = some stop → ∃ content, s.textIn? region stop.interval = some content ∧
        (∀ i ∈ stop.mirrors, s.textIn? region i = some content) ∧
        ∀ binding ∈ s.bindings, binding.source = number → binding.transform.Idle content →
          s.textIn? region binding.interval = some (s.indentText content) ∧
            (s.textIn? region binding.interval = some content ↔ s.indent = [] ∨ '\n' ∉ content) := by
  obtain ⟨indent, line, starts⟩ := holdsNone_start? text cursor started active defined plain
  obtain ⟨s, _, l, old, r, filling, leaves⟩ := run.upholds lasting_syncedLeaves.enduring
    (upholds_start? lasting_syncedLeaves.toInitial text cursor started active)
  obtain ⟨t, _, _, _, _, filling', holdsNone, rfl⟩ := run.upholds (enduring_holdsNone number indent) starts
  obtain rfl := Option.some.inj (filling.session.symm.trans filling'.session)
  refine ⟨s, l ++ old ++ r, filling.session, filling.lies, line, fun stop found => ?_⟩
  have empty : ∀ stop, s.stops.get? number = some stop → ∀ i, ¬ Below s.interval i stop.interval :=
    fun stop found => holdsNone.not_below found
  obtain ⟨content, reads, inSync⟩ := leaves number empty stop found
  refine ⟨content, reads, fun i member => ?_, fun binding member source idle => ?_⟩
  · refine inSync.mirrors i ?_
    rw [mirrorsOf, found]
    exact member
  · have shows := inSync.substitutions binding (List.mem_filter.2 ⟨member, decide_eq_true source⟩)
    rw [idle.apply] at shows
    refine ⟨shows, ?_⟩
    rw [shows, Option.some.injEq, indentText_eq_self_iff]

/-- What is typed over a placeholder, and shown by a transform whose pattern is none, on a line with an indent. -/
theorem shown_of_onward_typed : ∃ (e₁ e : Editor) (s : Session) (region : List Char),
    (⟨⟨[' ', ' '], 2, none, ['\t']⟩, none, []⟩ : Editor).start? Runner.disabled
      ['$', '{', '1', ':', 'a', '}', '-', '$', '{', '1', '/', '(', '/', 'x', '/', '}'] {} =
        some (none, e₁) ∧
    Onward Runner.disabled e₁ e ∧ e.session = some s ∧ s.Over e.buffer [' ', ' '] region [] ∧ s.indent = [' ', ' '] ∧
    s.textIn? region 0 = some ['c', 'd'] ∧ s.textIn? region 1 = some ['c', 'd'] := by
  obtain ⟨e₁, started, active, e, s, typed, active', session, text, stops, bindings, indent, reads⟩ :
      ∃ e₁ : Editor, (⟨⟨[' ', ' '], 2, none, ['\t']⟩, none, []⟩ : Editor).start? Runner.disabled
        ['$', '{', '1', ':', 'a', '}', '-', '$', '{', '1', '/', '(', '/', 'x', '/', '}'] {} =
          some (none, e₁) ∧ e₁.isActive = true ∧
      ∃ (e : Editor) (s : Session), (Action.insert ['c', 'd']).run? Runner.disabled e₁ = some e ∧ e.isActive = true ∧
        e.session = some s ∧ e.buffer.text = [' ', ' '] ++ ['c', 'd', '-', 'c', 'd'] ++ [] ∧
        s.stops = [(1, ⟨0, none, []⟩)] ∧ s.bindings = [⟨1, 1, ['('], ['x'], []⟩] ∧ s.indent = [' ', ' '] ∧
        s.textIn? ['c', 'd', '-', 'c', 'd'] 0 = some ['c', 'd'] :=
    ⟨_, rfl, rfl, _, _, rfl, rfl, rfl, rfl, rfl, rfl, rfl, rfl⟩
  have split : (⟨⟨[' ', ' '], 2, none, ['\t']⟩, none, []⟩ : Editor).buffer.text = [' ', ' '] ++ [] := rfl
  have run : Onward Runner.disabled e₁ e := .call .here (by simp) typed active'
  have defined : (1, [.text ['a']]) ∈ Node.definitions {} (parseTemplate
      ['$', '{', '1', ':', 'a', '}', '-', '$', '{', '1', '/', '(', '/', 'x', '/', '}']) :=
    List.mem_singleton_self _
  have plain : Node.IsPlain [.text ['a']] := fun n member => ⟨_, List.mem_singleton.1 member⟩
  obtain ⟨t, region, session', lies, -, shown⟩ := shown_of_onward split rfl started active defined plain run
  obtain rfl := Option.some.inj (session'.symm.trans session)
  obtain rfl : region = ['c', 'd', '-', 'c', 'd'] :=
    List.append_cancel_left (List.append_cancel_right (lies.text.symm.trans text))
  obtain ⟨content, reads', -, transforms⟩ := shown ⟨0, none, []⟩ (by rw [stops]; rfl)
  obtain rfl := Option.some.inj (reads'.symm.trans reads)
  have idle : Transform.Idle ⟨['('], ['x'], []⟩ ['c', 'd'] := by
    have none_ : (Transform.program? ⟨['('], ['x'], []⟩).isNone = true := by decide +kernel
    intro program found
    simp [found] at none_
  have same := (transforms ⟨1, 1, ['('], ['x'], []⟩ (by rw [bindings]; exact List.mem_singleton_self _) rfl idle).2
  exact ⟨e₁, e, t, _, started, run, session, lies, indent, reads, same.2 (.inr (by decide))⟩

/-- Two lines on a line with an indent. The transform has no pattern, and yet shows the second line further in. -/
theorem indented_twice : ∃ (e : Editor) (s : Session),
    (⟨⟨[' ', ' '], 2, none, ['\t']⟩, none, []⟩ : Editor).start? Runner.disabled
      ['$', '{', '1', ':', 'a', '\n', 'b', '}', '-', '$', '{', '1', '/', '(', '/', 'x', '/', '}'] {} =
        some (none, e) ∧
    e.session = some s ∧ s.stops = [(1, ⟨0, none, []⟩)] ∧ s.bindings = [⟨1, 1, ['('], ['x'], []⟩] ∧
    Transform.program? ⟨['('], ['x'], []⟩ = none ∧
    e.buffer.textOf? (s.range 0).1 (s.range 0).2 = some ['a', '\n', ' ', ' ', 'b'] ∧
    e.buffer.textOf? (s.range 1).1 (s.range 1).2 = some ['a', '\n', ' ', ' ', ' ', ' ', 'b'] := by
  have none_ : (Transform.program? ⟨['('], ['x'], []⟩).isNone = true := by decide +kernel
  exact ⟨_, _, rfl, rfl, rfl, rfl, Option.isNone_iff_eq_none.1 none_, rfl, rfl⟩

end Editor

end EditorBundles.Snippet
