import EditorBundles.Proofs.Snippet.EngineCalls
import EditorBundles.Proofs.Snippet.TemplateOutline

/-!
# The place of the end marker

The last bare stop 0 of a template divides the outline of the snippet. As long as the session goes on, the text of
the snippet is that of the parts in front of the end marker and, behind it, that of the others, whatever is
edited, mirrored and transformed in between. This asks for some text between the end marker and the interval
behind it. A tab stop or a mirror that starts at the end marker carries it along.
-/

namespace EditorBundles.Snippet
set_option autoImplicit false
open Text (byteLength IsBoundary)
open Snippet.Part (ids Gapped)

variable {f g : Nat → Interval} {live : Nat → Prop} {parts front back : List Part}
  {region region' l old r new : List Char} {id finish : Nat}

theorem Outer.indented (h : Outer f live (front ++ back)) (indent : List Char) :
    Outer f live (front.map (Part.indented indent) ++ back.map (Part.indented indent)) := by
  rw [← List.map_append]
  exact ⟨by simpa using h.ascending, by simpa using h.top, by simpa using h.all⟩

theorem Parted.congr (h : Parted f front back region finish) (same : ∀ i ∈ ids (front ++ back), g i = f i) :
    Parted g front back region finish := by
  rw [Part.ids_append] at same
  obtain ⟨fore, aft, text, marker, first, second⟩ := h
  refine ⟨fore, aft, text, marker, first.congr fun i member => ?_, second.congr fun i member => ?_⟩
  · rw [same i (List.mem_append_left _ member)]
    exact ⟨rfl, rfl⟩
  · rw [same i (List.mem_append_right _ member)]
    exact ⟨rfl, rfl⟩

namespace Session

variable {s t : Session}

/-- The end marker of a session stands between two parts of its snippet, which is indented as its line is. -/
structure Between (indent : List Char) (front back : List Part) (s : Session) (region : List Char) : Prop where
  indent_eq : s.indent = indent
  parted : Parted s.interval (front.map (Part.indented indent)) (back.map (Part.indented indent)) region s.finish
  outer : Outer s.interval (· ∈ s.liveIds) (front ++ back)
  within : ∀ i ∈ ids (front ++ back), i < s.intervals.length

namespace Between

variable {indent : List Char}

/-- Replacing the text of an interval and resizing the session leaves the end marker where it stands. -/
theorem splice (h : Between indent front back s (l ++ old ++ r)) (gap : Gapped back)
    (sub : ∀ i, live i → i ∈ s.liveIds) (within : ∀ i, live i → i < s.intervals.length)
    (spliced : Splice s.interval (s.resize id ((byteLength new : Int) - byteLength old)).interval live id l old new r) :
    Parted (s.resize id ((byteLength new : Int) - byteLength old)).interval (front.map (Part.indented indent))
      (back.map (Part.indented indent)) (l ++ new ++ r)
      (s.resize id ((byteLength new : Int) - byteLength old)).finish := by
  have outer : Outer s.interval live (front.map (Part.indented indent) ++ back.map (Part.indented indent)) :=
    Outer.indented ⟨h.outer.ascending, h.outer.top, fun i alive => h.outer.all i (sub i alive)⟩ indent
  have nested := outer.nested spliced.nested spliced.numbered h.parted.laid
  -- an interval of the outline moves with the text even if it is live no longer
  have within' : ∀ i, live i ∨ i ∈ ids (front.map (Part.indented indent) ++ back.map (Part.indented indent)) →
      i < s.intervals.length := by
    rintro i (alive | member)
    · exact within i alive
    · exact h.within i (by simpa using member)
  have leaf : ∀ i, live i ∨ i ∈ ids (front.map (Part.indented indent) ++ back.map (Part.indented indent)) →
      ¬ Below s.interval i id := by
    rintro i (alive | member)
    · exact spliced.leaf i alive
    · exact not_below_of_top (outer.top i member)
  have stop : (s.interval id).stop = (s.interval id).start + byteLength old := by
    rw [spliced.start, spliced.stop]
  have moves := moves_resize spliced.numbered nested within' (.inl spliced.alive) leaf stop (byteLength new)
  have wider : Splice s.interval (s.resize id ((byteLength new : Int) - byteLength old)).interval _ id l old new r :=
    ⟨spliced.numbered, nested, .inl spliced.alive, leaf, spliced.start, spliced.stop, moves⟩
  rw [finish_resize]
  refine h.parted.splice wider ⟨outer.ascending, outer.top, ?_⟩ (fun i member => .inr member) (gap.indented indent)
  rintro i (alive | member) top
  · exact outer.all i alive top
  · exact member

/-- A session with its intervals elsewhere has them in the same outline. -/
theorem alike (h : Between indent front back s region) (alike : s.Alike t)
    (parted : Parted t.interval (front.map (Part.indented indent)) (back.map (Part.indented indent)) region' t.finish) :
    Between indent front back t region' where
  indent_eq := alike.indent.trans h.indent_eq
  parted := parted
  outer :=
    { ascending := h.outer.ascending
      top := fun i member => (alike.parent i).trans (h.outer.top i member)
      all := fun i alive top => h.outer.all i (alike.liveIds ▸ alive) ((alike.parent i).symm.trans top) }
  within i member := Nat.lt_of_lt_of_eq (h.within i member) alike.length.symm

/-- Replacing texts one after the other leaves the end marker where it stands. -/
theorem reshaped (gap : Gapped back) (h : Reshaped s region t region')
    (between : Between indent front back s region) : Between indent front back t region' := by
  induction h with
  | refl => exact between
  | write tree alive leaf start stop _ ih =>
    obtain ⟨alike, spliced⟩ := tree.splice alive leaf start stop _
    exact ih (between.alike alike (between.splice gap (fun i alive => alive) tree.within spliced))

/-- Rewriting a tab stop and dropping what lies inside it leaves the end marker where it stands. -/
theorem rewritten (h : Between indent front back s (l ++ old ++ r)) (gap : Gapped back) (tree : s.Tree (l ++ old ++ r))
    (stopId : id ∈ s.stopIds) (start : (s.interval id).start = byteLength l)
    (stop : (s.interval id).stop = byteLength l + byteLength old) (new : List Char) :
    Between indent front back (s.rewritten id (byteLength old) (byteLength new)) (l ++ new ++ r) := by
  obtain ⟨alike, -, spliced⟩ := tree.splice_rewritten stopId start stop new
  have sub (i : Nat) (alive : i ∈ (s.dropNested id).liveIds) : i ∈ s.liveIds := (mem_liveIds_dropNested alive).1
  have parted := h.splice gap sub (fun i alive => tree.within i (sub i alive)) spliced
  have numbered := tree.numbered.congr spliced.moves.parent
  obtain ⟨parent, -⟩ := interval_dropNested s id
  obtain ⟨-, same⟩ := interval_dropNested (s.resize id ((byteLength new : Int) - byteLength old)) id
  have dropped : Between indent front back (s.dropNested id) (l ++ old ++ r) := by
    refine ⟨h.indent_eq, h.parted.congr fun i member => (interval_dropNested s id).2 i fun inside => ?_, ?_, ?_⟩
    · have top := h.outer.top i (by simpa using member)
      exact not_below_of_top top ((mem_nested tree.numbered).1 inside).2
    · exact ⟨h.outer.ascending, fun i member => (parent i).trans (h.outer.top i member),
        fun i alive top => h.outer.all i (sub i alive) ((parent i).symm.trans top)⟩
    · rw [length_dropNested]
      exact h.within
  refine dropped.alike alike (parted.congr fun i member => same i fun inside => ?_)
  have top : (s.interval i).parent = none := h.outer.top i (by simpa using member)
  exact not_below_of_top ((spliced.moves.parent i).trans top) ((mem_nested numbered).1 inside).2

/-- An end marker between two parts lies in no live interval. -/
theorem endMarked (h : Between indent front back s region) (gap : Gapped back) (tree : s.Tree region) :
    s.EndMarked region :=
  h.parted.marked tree.nested tree.numbered (h.outer.indented indent) (gap.indented indent)

end Between

end Session

namespace Editor

variable {e e' e₀ e₁ : Editor} {s : Session} {before after indent fore aft template : List Char} {env : Environment}
  {runner : Runner}

/-! ## Runs -/

theorem enduring_between (gap : Gapped back) : Enduring (Session.Between indent front back) where
  enter number between := ⟨between.indent_eq, between.parted, between.outer, between.within⟩
  rewrites h rewrites between := by
    obtain ⟨t, stop', l', old', r', filling, -⟩ := h.refill (h.follows rewrites)
    obtain ⟨b, s', b', retyped, refreshed, rfl⟩ := rewrites
    obtain rfl : s' = t := Option.some.inj filling.session
    obtain ⟨region', lies, reshaped, -⟩ := h.lies.tree.reshaped_refresh? h.lies.offset h.current h.first h.last
      retyped.text retyped.cursor refreshed
    obtain rfl := lies.region_unique filling.lies
    have stopId := Session.mem_stopIds_of_get? h.current
    exact filling.upholds ((between.rewritten gap h.lies.tree stopId h.first h.last _).reshaped gap reshaped)

/-- The session over an expansion starts with its end marker where the template has the last bare stop 0. -/
theorem between_opened {indentUnit : List Char}
    (divides : Expansion.Divides runner env indentUnit (parseTemplate template) front back) (indent : List Char) :
    let expansion := Expansion.ofNodes runner env indentUnit (parseTemplate template)
    Session.Between indent front back (e.opened expansion indent env) (expansion.indentLines indent).text := by
  obtain ⟨parted, ascending, roots⟩ := divides.expansion
  obtain ⟨growing, closed⟩ := Expansion.growing_ofNodes runner env indentUnit (parseTemplate template)
  generalize Expansion.ofNodes runner env indentUnit (parseTemplate template) = expansion at *
  obtain ⟨-, length, parent⟩ := growing.nested_indentLines closed indent
  refine ⟨rfl, Expansion.parted_indentLines indent parted, ⟨ascending, fun i member => ?_, fun i alive top => ?_⟩,
    fun i member => ?_⟩
  · exact (parent i).trans ((roots i).1 member).2
  · exact (roots i).2 ⟨growing.within i alive, (parent i).symm.trans top⟩
  · exact Nat.lt_of_lt_of_eq ((roots i).1 member).1 length.symm

/-- A session starts with its end marker between the parts of the template. -/
theorem between_start? (text : e₀.buffer.text = before ++ after) (cursor : e₀.buffer.cursor = byteLength before)
    (divides : Expansion.Divides runner env e₀.buffer.indentUnit (parseTemplate template) front back)
    (gap : Gapped back) (started : e₀.start? runner template env = some (none, e₁)) (active : e₁.isActive = true) :
    ∃ indent, e₁.Upholds (Session.Between indent front back) before after := by
  obtain ⟨indent, b, b', t, calls, lies, refreshed, -, advanced, -⟩ := exists_opened text cursor started active
  obtain ⟨region, lies', reshaped, -⟩ := lies.reshaped_refreshAll? refreshed
  have between := (between_opened divides indent).reshaped gap reshaped
  exact ⟨indent, upholds_advance? (enduring_between gap).toMovable rfl lies' between advanced active⟩

/-- The editors that the calls on a running session lead to while it goes on. In between the cursor moves to other
places and the selection changes. -/
inductive Onward (runner : Runner) (e₁ : Editor) : Editor → Prop where
  | here : Onward runner e₁ e₁
  | call {e e' : Editor} {action : Action} (run : Onward runner e₁ e)
      (goesOn : ∀ template env, action ≠ .start template env) (called : action.run? runner e = some e')
      (active : e'.isActive = true) : Onward runner e₁ e'
  | move {e : Editor} {position : Nat} (run : Onward runner e₁ e) (place : IsBoundary e.buffer.text position) :
      Onward runner e₁ { e with buffer := e.buffer.setCursor position }
  | select {e : Editor} (start stop : Nat) (run : Onward runner e₁ e) :
      Onward runner e₁ { e with buffer := e.buffer.select start stop }
  | deselect {e : Editor} (run : Onward runner e₁ e) : Onward runner e₁ { e with buffer := e.buffer.deselect }

variable {P : Session → List Char → Prop}

/-- A call that the session outlasts keeps what endures. -/
theorem Upholds.run? (enduring : Enduring P) (h : e.Upholds P before after) {action : Action}
    (goesOn : ∀ template env, action ≠ .start template env) (called : action.run? runner e = some e')
    (active : e'.isActive = true) : e'.Upholds P before after := by
  obtain ⟨s, stop, l, old, r, filling, holds⟩ := h
  cases action with
  | start template env => exact absurd rfl (goesOn template env)
  | next => exact Upholds.next? enduring (filling.upholds holds) called active
  | previous =>
    obtain rfl := Option.some.inj called
    exact filling.upholds_previous holds enduring.toMovable
  | insert text => exact filling.upholds_insert? holds enduring called active
  | delete first last => exact filling.upholds_delete? holds enduring called active
  | validate =>
    obtain rfl := Option.some.inj called
    rw [validate, filling.session] at active ⊢
    simp only at active ⊢
    split at active
    · rename_i inside
      rw [if_pos inside]
      exact filling.upholds holds
    · cases active
  | goToFinish =>
    obtain rfl := Option.some.inj called
    rw [goToFinish, filling.session] at active
    cases active
  | clear =>
    obtain rfl := Option.some.inj called
    cases active

/-- What endures lasts as long as the session. -/
theorem Onward.upholds (run : Onward runner e₁ e) (enduring : Enduring P) (h : e₁.Upholds P before after) :
    e.Upholds P before after := by
  induction run with
  | here => exact h
  | call _ goesOn called active ih => exact ih.run? enduring goesOn called active
  | @move e position _ place ih =>
    obtain ⟨s, stop, l, old, r, filling, holds⟩ := ih
    have cursor := Buffer.isBoundary_setCursor place
    exact (filling.withBuffer (b := e.buffer.setCursor position) rfl cursor e.calls).upholds holds
  | @select e start last _ ih =>
    obtain ⟨s, stop, l, old, r, filling, holds⟩ := ih
    exact (filling.withBuffer (b := e.buffer.select start last) rfl filling.lies.cursor e.calls).upholds holds
  | @deselect e _ ih =>
    obtain ⟨s, stop, l, old, r, filling, holds⟩ := ih
    exact (filling.withBuffer (b := e.buffer.deselect) rfl filling.lies.cursor e.calls).upholds holds

/-- The text of the snippet is that of the parts `front`, then the end marker, and then that of the parts `back`, and
each live interval lies in one of these parts. -/
structure EndsBetween (e : Editor) (s : Session) (before fore aft after : List Char) (front back : List Part) :
    Prop where
  session : e.session = some s
  text : e.buffer.text = before ++ (fore ++ aft) ++ after
  finish : e.finishPosition? = some (byteLength (before ++ fore))
  first : Laid s.interval (front.map (Part.indented s.indent)) 0 fore
  second : Laid s.interval (back.map (Part.indented s.indent)) (byteLength fore) aft
  sides : ∀ i ∈ s.liveIds,
    (∃ root ∈ ids front, (root = i ∨ Below s.interval i root) ∧ (s.interval i).stop ≤ byteLength fore) ∨
      ∃ root ∈ ids back, (root = i ∨ Below s.interval i root) ∧ byteLength fore < (s.interval i).start

theorem Upholds.endsBetween (gap : Gapped back) (h : e.Upholds (Session.Between indent front back) before after) :
    ∃ s fore aft, e.EndsBetween s before fore aft after front back ∧ s.indent = indent := by
  obtain ⟨s, stop, l, old, r, filling, rfl, parted, outer, -⟩ := h
  obtain ⟨fore, aft, text, finish, first, second⟩ := parted
  refine ⟨s, fore, aft, ⟨filling.session, text ▸ filling.lies.text, ?_, first, second, fun i alive => ?_⟩, rfl⟩
  · rw [finishPosition?, filling.session, Option.map_some, Session.finishPosition, filling.lies.offset, finish,
      Text.byteLength_append]
  · obtain ⟨root, member, around, lower, upper⟩ :=
      outer.exists_root filling.lies.tree.nested filling.lies.tree.numbered (.inl alive)
    rw [Part.ids_append] at member
    rcases List.mem_append.1 member with early | late
    · have bound := (first.within root (by simpa using early)).2
      exact .inl ⟨root, early, around, by omega⟩
    · have bound := second.lt_start (gap.indented s.indent) root (by simpa using late)
      exact .inr ⟨root, late, around, by omega⟩

/-- From its start on, a snippet has its end marker between the parts of the template that come before the last bare
stop 0 and those that come after it, if some text separates the marker from the interval behind it. It moves only
when a part in front of it changes its length, and the calls that are made all give a result. -/
theorem endsBetween_of_onward (text : e₀.buffer.text = before ++ after) (cursor : e₀.buffer.cursor = byteLength before)
    (divides : Expansion.Divides runner env e₀.buffer.indentUnit (parseTemplate template) front back)
    (gap : Gapped back) (started : e₀.start? runner template env = some (none, e₁)) (active : e₁.isActive = true)
    (run : Onward runner e₁ e) :
    ∃ s fore aft, e.EndsBetween s before fore aft after front back ∧
      (∀ e' s', Onward runner e e' → e'.session = some s' →
        (∀ i ∈ ids front, (s'.interval i).stop - (s'.interval i).start = (s.interval i).stop - (s.interval i).start) →
          e'.finishPosition? = e.finishPosition?) ∧
      ∀ action : Action, (∀ template env, action ≠ .start template env) → action.Fits runner e →
        ∃ e', action.run? runner e = some e' := by
  obtain ⟨indent, starts⟩ := between_start? text cursor divides gap started active
  have holds := run.upholds (enduring_between gap) starts
  obtain ⟨s, fore, aft, ends, indented⟩ := holds.endsBetween gap
  refine ⟨s, fore, aft, ends, fun e' s' more session lengths => ?_, fun action goesOn fits => ?_⟩
  · obtain ⟨t, fore', aft', ends', indented'⟩ := (more.upholds (enduring_between gap) holds).endsBetween gap
    obtain rfl : t = s' := Option.some.inj (ends'.session.symm.trans session)
    have same := ends.first.length_eq (indented'.trans indented.symm ▸ ends'.first) (by simpa using lengths)
    rw [ends.finish, ends'.finish, Text.byteLength_append, Text.byteLength_append, same]
  · obtain ⟨s, stop, l, old, r, filling, between⟩ := holds
    have steady := filling.steady (between.endMarked gap filling.lies.tree)
    obtain ⟨e', called, -⟩ := steady.run? action fits
    exact ⟨e', called⟩

/-- Typing two characters of two octets before the end marker, and then one character after it. -/
theorem endsBetween_of_onward_typed : ∃ e₁ e : Editor,
    (⟨⟨['(', ')'], 1, none, ['\t']⟩, none, []⟩ : Editor).start? Runner.disabled
      ['$', '{', '1', ':', 'a', '}', '-', '$', '0', '-', '$', '{', '2', ':', 'b', '}'] {} = some (none, e₁) ∧
    Onward Runner.disabled e₁ e ∧ e.buffer.text = ['(', 'é', 'é', '-', '-', 'c', ')'] ∧
    e.finishPosition? = some 6 ∧ ∃ s fore aft, e.EndsBetween s ['('] fore aft [')']
      [.interval 0, .text ['-']] [.text ['-'], .interval 1] := by
  obtain ⟨e₁, started, active, e₂, typed, active₂, e₃, moved, active₃, e, typed', active', text, finish⟩ :
      ∃ e₁ : Editor, (⟨⟨['(', ')'], 1, none, ['\t']⟩, none, []⟩ : Editor).start? Runner.disabled
          ['$', '{', '1', ':', 'a', '}', '-', '$', '0', '-', '$', '{', '2', ':', 'b', '}'] {} = some (none, e₁) ∧
        e₁.isActive = true ∧
        ∃ e₂, (Action.insert ['é', 'é']).run? Runner.disabled e₁ = some e₂ ∧ e₂.isActive = true ∧
        ∃ e₃, Action.next.run? Runner.disabled e₂ = some e₃ ∧ e₃.isActive = true ∧
        ∃ e, (Action.insert ['c']).run? Runner.disabled e₃ = some e ∧ e.isActive = true ∧
          e.buffer.text = ['(', 'é', 'é', '-', '-', 'c', ')'] ∧ e.finishPosition? = some 6 :=
    ⟨_, rfl, rfl, _, rfl, rfl, _, rfl, rfl, _, rfl, rfl, rfl, rfl⟩
  have divides : Expansion.Divides Runner.disabled {} ['\t']
      (parseTemplate ['$', '{', '1', ':', 'a', '}', '-', '$', '0', '-', '$', '{', '2', ':', 'b', '}'])
      [.interval 0, .text ['-']] [.text ['-'], .interval 1] :=
    @Expansion.Divides.intro _ _ _ _ [.stop 1 [.text ['a']] none, .text ['-']]
      [.text ['-'], .stop 2 [.text ['b']] none] rfl rfl
  have gap : Gapped [.text ['-'], .interval 1] := .inl (List.cons_ne_nil _ _)
  have run : Onward Runner.disabled e₁ e :=
    .call (.call (.call .here (by simp) typed active₂) (by simp) moved active₃) (by simp) typed' active'
  have split : (⟨⟨['(', ')'], 1, none, ['\t']⟩, none, []⟩ : Editor).buffer.text = ['('] ++ [')'] := rfl
  obtain ⟨s, fore, aft, ends, -⟩ := endsBetween_of_onward split rfl divides gap started active run
  exact ⟨e₁, e, started, run, text, finish, s, fore, aft, ends⟩

/-- The end marker stands at the start of a tab stop here, and outside of it. Typing two characters over the
placeholder leaves it between them. -/
theorem drifting_marker : ∃ e₁ e : Editor,
    (⟨⟨[], 0, none, ['\t']⟩, none, []⟩ : Editor).start? Runner.disabled
      ['$', '0', '$', '{', '1', ':', 'b', '}'] {} = some (none, e₁) ∧
    Expansion.Divides Runner.disabled {} ['\t'] (parseTemplate ['$', '0', '$', '{', '1', ':', 'b', '}'])
      [] [.interval 0] ∧
    Onward Runner.disabled e₁ e ∧ e.buffer.text = ['x', 'y'] ∧ e.finishPosition? = some 1 ∧
    ∀ s fore aft, ¬ e.EndsBetween s [] fore aft [] [] [.interval 0] := by
  obtain ⟨e₁, e, started, typed, active, text, finish⟩ : ∃ e₁ e : Editor,
      (⟨⟨[], 0, none, ['\t']⟩, none, []⟩ : Editor).start? Runner.disabled
        ['$', '0', '$', '{', '1', ':', 'b', '}'] {} = some (none, e₁) ∧
      (Action.insert ['x', 'y']).run? Runner.disabled e₁ = some e ∧ e.isActive = true ∧
      e.buffer.text = ['x', 'y'] ∧ e.finishPosition? = some 1 := ⟨_, _, rfl, rfl, rfl, rfl, rfl⟩
  have divides : Expansion.Divides Runner.disabled {} ['\t'] (parseTemplate ['$', '0', '$', '{', '1', ':', 'b', '}'])
      [] [.interval 0] := @Expansion.Divides.intro _ _ _ _ [] [.stop 1 [.text ['b']] none] rfl rfl
  refine ⟨e₁, e, started, divides, .call .here (by simp) typed active, text, finish, ?_⟩
  rintro s fore aft ends
  have first := ends.first
  cases first with
  | nil => cases ends.finish.symm.trans finish

end Editor

end EditorBundles.Snippet
