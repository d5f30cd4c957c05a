import EditorBundles.Proofs.Snippet.Outline
import Mathlib.Data.List.Infix

/-!
# Outlines of templates

What a template expands to outside of its tab stops is an outline of the expansion. The last bare stop 0, if it
stands outside of all tab stops, divides the outline into the parts in front of the end marker and those behind
it. The expansion has the end marker there, and so has the indented expansion.
-/

namespace EditorBundles.Snippet
set_option autoImplicit false
open Text (byteLength IsBoundary)
open Snippet.Part (ids Gapped)

variable {front back : List Part}

namespace Node

mutual

/-- A part of a template, with a variable that has no text replaced by what stands for it. -/
def resolve (env : Environment) : Node → List Node
  | .varOr name fallback =>
    match Expansion.valueOf? env name with
    | some _ => [.var name]
    | none => resolveAll env fallback
  | .text s => [.text s]
  | .stop number placeholder pipe => [.stop number placeholder pipe]
  | .stopTransform number t => [.stopTransform number t]
  | .var name => [.var name]
  | .varTransform name t => [.varTransform name t]
  | .shell command => [.shell command]

/-- A template outside of its tab stops, with what stands for variables that have no text. -/
def resolveAll (env : Environment) : List Node → List Node
  | [] => []
  | n :: rest => resolve env n ++ resolveAll env rest

end

mutual

/-- Is there a bare stop 0 in what a part of a template expands to? -/
def marks (env : Environment) : Node → Bool
  | .stop number placeholder pipe =>
    (number == 0 && placeholder.isEmpty && pipe.isNone) || marksAny env placeholder
  | .varOr name fallback => (Expansion.valueOf? env name).isNone && marksAny env fallback
  | .text _ => false
  | .stopTransform _ _ => false
  | .var _ => false
  | .varTransform _ _ => false
  | .shell _ => false

/-- Is there a bare stop 0 in what a template expands to? -/
def marksAny (env : Environment) : List Node → Bool
  | [] => false
  | n :: rest => marks env n || marksAny env rest

end

/-- A part of a template that stands for itself. -/
def Resolved (n : Node) : Prop := ∀ name fallback, n ≠ .varOr name fallback

mutual

theorem resolved_resolve (env : Environment) : ∀ n : Node, ∀ part ∈ resolve env n, part.Resolved
  | .varOr name fallback => by
    rw [resolve]
    split
    · simp [Resolved]
    · exact resolved_resolveAll env fallback
  | .text _ => by simp [resolve, Resolved]
  | .stop _ _ _ => by simp [resolve, Resolved]
  | .stopTransform _ _ => by simp [resolve, Resolved]
  | .var _ => by simp [resolve, Resolved]
  | .varTransform _ _ => by simp [resolve, Resolved]
  | .shell _ => by simp [resolve, Resolved]

theorem resolved_resolveAll (env : Environment) :
    ∀ template : List Node, ∀ part ∈ resolveAll env template, part.Resolved
  | [] => by simp [resolveAll]
  | n :: rest => by
    rw [resolveAll]
    intro part member
    rcases List.mem_append.1 member with first | later
    · exact resolved_resolve env n part first
    · exact resolved_resolveAll env rest part later

end

end Node

namespace Expansion

variable {e e' e'' : Expansion}

theorem nodes_append (runner : Runner) (env : Environment) (indentUnit : List Char) (first second : List Node) :
    nodes runner env indentUnit e (first ++ second) =
      nodes runner env indentUnit (nodes runner env indentUnit e first) second := by
  induction first generalizing e with
  | nil => rw [nodes, List.nil_append]
  | cons n first ih => rw [List.cons_append, nodes, nodes, ih]

mutual

/-- What stands for a part of a template has its expansion. -/
theorem nodes_resolve (runner : Runner) (env : Environment) (indentUnit : List Char) :
    ∀ (n : Node) (e : Expansion), nodes runner env indentUnit e (n.resolve env) = node runner env indentUnit e n
  | .varOr name fallback, e => by
    rw [Node.resolve, node]
    cases value : valueOf? env name with
    | some s => simp only [nodes, node, value, Option.getD_some]
    | none => exact nodes_resolveAll runner env indentUnit fallback e
  | .text _, e => by simp only [Node.resolve, nodes]
  | .stop _ _ _, e => by simp only [Node.resolve, nodes]
  | .stopTransform _ _, e => by simp only [Node.resolve, nodes]
  | .var _, e => by simp only [Node.resolve, nodes]
  | .varTransform _ _, e => by simp only [Node.resolve, nodes]
  | .shell _, e => by simp only [Node.resolve, nodes]

theorem nodes_resolveAll (runner : Runner) (env : Environment) (indentUnit : List Char) :
    ∀ (template : List Node) (e : Expansion),
      nodes runner env indentUnit e (Node.resolveAll env template) = nodes runner env indentUnit e template
  | [], e => by rw [Node.resolveAll]
  | n :: rest, e => by
    rw [Node.resolveAll, nodes_append, nodes_resolve, nodes_resolveAll, nodes]

end

mutual

/-- A part of a template without a bare stop 0 leaves the end marker alone. -/
theorem finish_node (runner : Runner) (env : Environment) (indentUnit : List Char) :
    ∀ (n : Node) (e : Expansion), n.marks env = false → (node runner env indentUnit e n).finish = e.finish
  | .stop number placeholder pipe, e, unmarked => by
    simp only [Node.marks, Bool.or_eq_false_iff] at unmarked
    rw [node]
    split
    · rename_i bare
      simp [bare] at unmarked
    cases found : e.openInterval.stops.get? number with
    | some stop =>
      simp only [found]
      rfl
    | none =>
      simp only [found]
      exact finish_nodes runner env indentUnit placeholder _ unmarked.2
  | .varOr name fallback, e, unmarked => by
    rw [node]
    cases value : valueOf? env name with
    | some s => rfl
    | none =>
      simp only [Node.marks, value, Option.isNone_none, Bool.true_and] at unmarked
      exact finish_nodes runner env indentUnit fallback e unmarked
  | .text _, e, _ => by simp only [node, append]
  | .stopTransform _ _, e, _ => by simp only [node, closeInterval, openInterval]
  | .var _, e, _ => by simp only [node, append]
  | .varTransform _ _, e, _ => by simp only [node, append]
  | .shell _, e, _ => by simp only [node, runCommand]

theorem finish_nodes (runner : Runner) (env : Environment) (indentUnit : List Char) :
    ∀ (template : List Node) (e : Expansion), Node.marksAny env template = false →
      (nodes runner env indentUnit e template).finish = e.finish
  | [], e, _ => by rw [nodes]
  | n :: rest, e, unmarked => by
    simp only [Node.marksAny, Bool.or_eq_false_iff] at unmarked
    rw [nodes, finish_nodes runner env indentUnit rest _ unmarked.2,
      finish_node runner env indentUnit n e unmarked.1]

end

mutual

/-- What a part of a template expands to goes behind the text. -/
theorem prefix_node (runner : Runner) (env : Environment) (indentUnit : List Char) :
    ∀ (n : Node) (e : Expansion), e.text <+: (node runner env indentUnit e n).text
  | .text s, e => by
    rw [node]
    exact List.prefix_append _ _
  | .stop number placeholder pipe, e => by
    rw [node]
    split
    · exact List.prefix_rfl
    cases found : e.openInterval.stops.get? number with
    | some stop =>
      simp only [found]
      exact List.prefix_rfl
    | none =>
      simp only [found]
      exact prefix_nodes runner env indentUnit placeholder
        { e.openInterval with stops := e.stops.insert number ⟨e.intervals.length, pipe, []⟩ }
  | .stopTransform number t, e => by
    rw [node]
    exact List.prefix_rfl
  | .var name, e => by
    rw [node]
    exact List.prefix_append _ _
  | .varOr name fallback, e => by
    rw [node]
    split
    · exact List.prefix_append _ _
    · exact prefix_nodes runner env indentUnit fallback e
  | .varTransform name t, e => by
    rw [node]
    exact List.prefix_append _ _
  | .shell command, e => by
    rw [node]
    exact List.prefix_append _ _

theorem prefix_nodes (runner : Runner) (env : Environment) (indentUnit : List Char) :
    ∀ (template : List Node) (e : Expansion), e.text <+: (nodes runner env indentUnit e template).text
  | [], e => by rw [nodes]
  | n :: rest, e => by
    rw [nodes]
    exact (prefix_node runner env indentUnit n e).trans (prefix_nodes runner env indentUnit rest _)

end

/-! ## Outlines of expansions -/

/-- What a part of a template has added to an expansion: an interval, or text. -/
def part (e e' : Expansion) : Part :=
  if e.intervals.length < e'.intervals.length then .interval e.intervals.length
  else .text (e'.text.drop e.text.length)

/-- What the parts of a template add to an expansion, one after the other. -/
def outline (runner : Runner) (env : Environment) (indentUnit : List Char) (e : Expansion) :
    List Node → List Part
  | [] => []
  | n :: rest =>
    part e (node runner env indentUnit e n) ::
      outline runner env indentUnit (node runner env indentUnit e n) rest

/-- The parts lie on what `e'` has behind the text of `e`, and the new intervals that lie in no other are among
them, in their order. -/
structure Outlines (e e' : Expansion) (parts : List Part) : Prop where
  laid : ∃ more, e'.text = e.text ++ more ∧ Laid e'.interval parts (byteLength e.text) more
  ascending : (ids parts).Pairwise (· < ·)
  roots : ∀ i, i ∈ ids parts ↔
    e.intervals.length ≤ i ∧ i < e'.intervals.length ∧ (e'.interval i).parent = none

/-- What parts lie on stays where it is while an expansion goes on. -/
theorem Outlines.still (first : Outlines e e' front) (more : e'.Extends e'') :
    ∃ added, e'.text = e.text ++ added ∧ Laid e''.interval front (byteLength e.text) added := by
  obtain ⟨added, text, laid⟩ := first.laid
  refine ⟨added, text, laid.congr fun i member => ?_⟩
  rw [more.kept i ((first.roots i).1 member).2.1]
  exact ⟨rfl, rfl⟩

/-- What is added later comes behind, in text and in number. -/
theorem Outlines.append (first : Outlines e e' front) (second : Outlines e' e'' back)
    (longer : e.intervals.length ≤ e'.intervals.length) (more : e'.Extends e'') : Outlines e e'' (front ++ back) := by
  obtain ⟨added, text, laid⟩ := first.still more
  obtain ⟨added', text', laid'⟩ := second.laid
  rw [text, Text.byteLength_append] at laid'
  refine ⟨⟨added ++ added', by rw [text', text, List.append_assoc], laid.append laid'⟩, ?_, fun i => ?_⟩
  · rw [Part.ids_append]
    refine List.pairwise_append.2 ⟨first.ascending, second.ascending, fun i member j later => ?_⟩
    exact Nat.lt_of_lt_of_le ((first.roots i).1 member).2.1 ((second.roots j).1 later).1
  · rw [Part.ids_append, List.mem_append, first.roots i, second.roots i]
    have behind := more.length
    by_cases early : i < e'.intervals.length
    · rw [more.kept i early]
      constructor
      · rintro (⟨lower, -, root⟩ | ⟨lower, -, -⟩)
        · exact ⟨lower, by omega, root⟩
        · omega
      · rintro ⟨lower, -, root⟩
        exact .inl ⟨lower, early, root⟩
    · constructor
      · rintro (⟨-, upper, -⟩ | ⟨lower, upper, root⟩)
        · omega
        · exact ⟨by omega, upper, root⟩
      · rintro ⟨-, upper, root⟩
        exact .inr ⟨by omega, upper, root⟩

/-- A part of a template that adds text has added it. -/
theorem outlines_of_text {more : List Char} (text : e'.text = e.text ++ more) (intervals : e'.intervals = e.intervals) :
    Outlines e e' [part e e'] := by
  have same : part e e' = .text more := by
    rw [part, intervals, if_neg (Nat.lt_irrefl _), text, List.drop_left]
  rw [same]
  refine ⟨⟨more, text, ?_⟩, List.Pairwise.nil, fun i => ?_⟩
  · simpa using Laid.text (.nil (byteLength e.text + byteLength more))
  · rw [intervals]
    simp only [Part.ids_text, Part.ids_nil, List.not_mem_nil, false_iff]
    omega

/-- A part of a template that opens an interval has closed it behind all that was added. -/
theorem outlines_of_interval {more : List Char} (text : e'.text = e.text ++ more)
    (length : e.intervals.length < e'.intervals.length)
    (place : e'.interval e.intervals.length = ⟨byteLength e.text, byteLength e'.text, none⟩)
    (inside : ∀ i, e.intervals.length < i → i < e'.intervals.length → Below e'.interval i e.intervals.length) :
    Outlines e e' [part e e'] := by
  rw [part, if_pos length]
  refine ⟨⟨more, text, ?_⟩, List.pairwise_singleton _ _, fun i => ?_⟩
  · have stop : (e'.interval e.intervals.length).stop = byteLength e.text + byteLength more := by
      rw [place, text, Text.byteLength_append]
    simpa using Laid.interval (congrArg Interval.start place) stop (.nil _)
  · simp only [Part.ids_interval, Part.ids_nil, List.mem_singleton]
    constructor
    · rintro rfl
      exact ⟨Nat.le_refl _, length, by rw [place]⟩
    · rintro ⟨lower, upper, root⟩
      by_contra other
      have below := inside i (by omega) upper
      cases below with
      | parent found => simp [root] at found
      | step found _ => simp [root] at found

/-- What was closed last holds all that came after it was opened. -/
theorem below_closeInterval (h : e.Growing) {id i : Nat} (place : e.parent = some id) (behind : id < i)
    (bound : i < e.intervals.length) : Below (e.closeInterval id).interval i id := by
  obtain ⟨same, new⟩ := interval_closeInterval e (h.spans.place_lt id place)
  have parent (i : Nat) : ((e.closeInterval id).interval i).parent = (e.interval i).parent := by
    by_cases here : i = id
    · rw [here, new]
    · rw [same i here]
  have holder : Around e.interval e.parent id := ⟨id, place, .inl rfl⟩
  exact ((h.spans.apart id i behind bound).resolve_right fun closed => closed.1 holder).congr parent

/-- An interval with nothing in it, for a mirror or a substitution. -/
theorem outlines_leaf (top : e.parent = none) (text : e'.text = e.text)
    (length : e'.intervals.length = e.intervals.length + 1)
    (opened : e'.interval = (e.openInterval.closeInterval e.intervals.length).interval) :
    Outlines e e' [part e e'] := by
  have bound := e.lt_length_openInterval
  have same : e'.text = e.text ++ [] := by simpa using text
  refine outlines_of_interval same (by omega) ?_ fun i lower upper => by omega
  rw [opened, (interval_closeInterval e.openInterval bound).2, (interval_openInterval e).2, top, text]
  rfl

/-- A tab stop, closed behind what it holds. -/
theorem outlines_enclose (h : e'.Growing) (top : e.parent = none) {number : Nat} {stop : Stop}
    (more : ({ e.openInterval with stops := e.stops.insert number stop } : Expansion).Extends e')
    (text : e.text <+: e'.text) :
    Outlines e (e'.closeInterval e.intervals.length) [part e (e'.closeInterval e.intervals.length)] := by
  obtain ⟨parent, -, kept⟩ := more
  obtain ⟨added, text⟩ := text
  have place : e'.parent = some e.intervals.length := parent
  have bound := h.spans.place_lt _ place
  have opened := e.lt_length_openInterval
  have still : e'.interval e.intervals.length = ⟨byteLength e.text, byteLength e.text, none⟩ := by
    rw [kept _ opened, ← top]
    exact (interval_openInterval e).2
  refine outlines_of_interval text.symm ?_ ?_ fun i lower upper => ?_
  · rw [length_closeInterval]
    exact bound
  · rw [(interval_closeInterval e' bound).2, still]
    rfl
  · rw [length_closeInterval] at upper
    exact below_closeInterval h place lower upper

/-- A part of a template outside of all tab stops adds what its outline says. -/
theorem outlines_node (runner : Runner) (env : Environment) (indentUnit : List Char) (h : e.Growing)
    (top : e.parent = none) {n : Node} (resolved : n.Resolved) :
    Outlines e (node runner env indentUnit e n) [part e (node runner env indentUnit e n)] := by
  have leaf : (e.openInterval.closeInterval e.intervals.length).intervals.length = e.intervals.length + 1 := by
    rw [length_closeInterval, length_openInterval]
  cases n with
  | text s =>
    rw [node]
    exact outlines_of_text rfl rfl
  | stop number placeholder pipe =>
    rw [node]
    split
    · exact outlines_of_text (List.append_nil _).symm rfl
    cases found : e.openInterval.stops.get? number with
    | some stop =>
      simp only [found]
      exact outlines_leaf top rfl leaf rfl
    | none =>
      simp only [found]
      have defined := h.define found pipe
      obtain ⟨inner, more⟩ := growing_nodes runner env indentUnit placeholder defined
      exact outlines_enclose inner top more (prefix_nodes runner env indentUnit placeholder
        { e.openInterval with stops := e.stops.insert number ⟨e.intervals.length, pipe, []⟩ })
  | stopTransform number t =>
    rw [node]
    exact outlines_leaf top rfl leaf rfl
  | var name =>
    rw [node]
    exact outlines_of_text rfl rfl
  | varOr name fallback => exact absurd rfl (resolved name fallback)
  | varTransform name t =>
    rw [node]
    exact outlines_of_text rfl rfl
  | shell command =>
    rw [node]
    exact outlines_of_text rfl rfl

/-- A template without what stands for variables adds what its outline says. -/
theorem outlines_nodes (runner : Runner) (env : Environment) (indentUnit : List Char) (template : List Node)
    (resolved : ∀ n ∈ template, n.Resolved) (h : e.Growing) (top : e.parent = none) :
    Outlines e (nodes runner env indentUnit e template) (outline runner env indentUnit e template) := by
  induction template generalizing e with
  | nil =>
    rw [nodes, outline]
    refine ⟨⟨[], (List.append_nil _).symm, .nil _⟩, List.Pairwise.nil, fun i => ?_⟩
    simp only [Part.ids_nil, List.not_mem_nil, false_iff]
    omega
  | cons n rest ih =>
    rw [nodes, outline]
    obtain ⟨grows, extends_⟩ := growing_node runner env indentUnit n h
    have first := outlines_node runner env indentUnit h top (resolved n List.mem_cons_self)
    have others := ih (fun n member => resolved n (List.mem_cons_of_mem _ member)) grows (extends_.parent.trans top)
    exact first.append others extends_.length (growing_nodes runner env indentUnit rest grows).2

/-- The last bare stop 0 that a template expands to stands outside of all tab stops, behind the parts `front` and
in front of the parts `back`. -/
inductive Divides (runner : Runner) (env : Environment) (indentUnit : List Char) (template : List Node) :
    List Part → List Part → Prop where
  | intro {before behind : List Node} (split : Node.resolveAll env template = before ++ .stop 0 [] none :: behind)
      (last : Node.marksAny env behind = false) :
      Divides runner env indentUnit template (outline runner env indentUnit {} before)
        (outline runner env indentUnit (nodes runner env indentUnit {} (before ++ [.stop 0 [] none])) behind)

/-- The end marker of an expansion stands where its template has the last bare stop 0. -/
theorem Divides.expansion {runner : Runner} {env : Environment} {indentUnit : List Char} {template : List Node}
    (h : Divides runner env indentUnit template front back) :
    let e := ofNodes runner env indentUnit template
    Parted e.interval front back e.text e.finishPosition ∧ (ids (front ++ back)).Pairwise (· < ·) ∧
      ∀ i, i ∈ ids (front ++ back) ↔ i < e.intervals.length ∧ (e.interval i).parent = none := by
  obtain @⟨before, behind, split, last⟩ := h
  have resolved := Node.resolved_resolveAll env template
  rw [split] at resolved
  have whole : ofNodes runner env indentUnit template = nodes runner env indentUnit
      (nodes runner env indentUnit {} (before ++ [.stop 0 [] none])) behind := by
    rw [ofNodes, ← nodes_resolveAll, split, ← nodes_append, List.append_assoc, List.singleton_append]
  obtain ⟨grows, extends_⟩ := growing_nodes runner env indentUnit (before ++ [.stop 0 [] none]) growing_empty
  obtain ⟨first, set⟩ :
      Outlines {} (nodes runner env indentUnit {} (before ++ [.stop 0 [] none])) (outline runner env indentUnit {} before) ∧
        (nodes runner env indentUnit {} (before ++ [.stop 0 [] none])).finish =
          some (byteLength (nodes runner env indentUnit {} (before ++ [.stop 0 [] none])).text) := by
    have first := outlines_nodes runner env indentUnit before
      (fun n member => resolved n (List.mem_append_left _ member)) growing_empty rfl
    rw [nodes_append, nodes, nodes, node]
    exact ⟨⟨first.laid, first.ascending, first.roots⟩, rfl⟩
  generalize nodes runner env indentUnit {} (before ++ [.stop 0 [] none]) = marked at *
  have second := outlines_nodes runner env indentUnit behind
    (fun n member => resolved n (List.mem_append_right _ (List.mem_cons_of_mem _ member))) grows extends_.parent
  have more := (growing_nodes runner env indentUnit behind grows).2
  have finish := finish_nodes runner env indentUnit behind marked last
  rw [← whole] at second more finish
  generalize ofNodes runner env indentUnit template = e at *
  have both := first.append second (Nat.zero_le _) more
  obtain ⟨fore, text, laid⟩ := first.still more
  obtain ⟨aft, text', laid'⟩ := second.laid
  have text : marked.text = fore := text
  rw [text] at text' laid'
  refine ⟨⟨fore, aft, text', ?_, laid, laid'⟩, both.ascending, fun i => ?_⟩
  · rw [finishPosition, finish, set, text, Option.getD_some]
  · exact (both.roots i).trans (and_iff_right (Nat.zero_le i))

/-! ## Indentation -/

/-- `place` keeps the positions in `before`, and takes the end of what `rest` begins with to the end of what
indenting makes of it. -/
structure Placement (indent before rest : List Char) (place : Nat → Nat) : Prop where
  still : ∀ n ≤ byteLength before, place n = n
  ends : ∀ x y, rest = x ++ y → place (byteLength before + byteLength x) =
    byteLength before + byteLength (Part.indentText indent x)

namespace Placement

variable {indent rest before : List Char} {place : Nat → Nat}

/-- What stands behind a line feed goes behind the indent, and from there to its place. -/
theorem feed (h : Placement indent (before ++ '\n' :: indent) rest place) :
    Placement indent before ('\n' :: rest) (place ∘ placed (byteLength before) (byteLength indent)) := by
  have one : Char.utf8Size '\n' = 1 := rfl
  have longer : byteLength (before ++ '\n' :: indent) = byteLength before + (1 + byteLength indent) := by
    simp [one]
  have ahead {n : Nat} (early : n ≤ byteLength before) : placed (byteLength before) (byteLength indent) n = n :=
    if_neg (by omega)
  have behind {n : Nat} (late : byteLength before < n) :
      placed (byteLength before) (byteLength indent) n = n + byteLength indent := if_pos late
  refine ⟨fun n early => ?_, fun x y same => ?_⟩
  · rw [Function.comp_apply, ahead early, h.still n (by omega)]
  · rw [Function.comp_apply]
    cases x with
    | nil => exact (congrArg place (ahead (Nat.le_refl _))).trans (h.still _ (by omega))
    | cons d x =>
      obtain ⟨rfl, others⟩ := List.cons.inj same
      have here := h.ends x y others
      rw [longer] at here
      have there : byteLength (Part.indentText indent ('\n' :: x)) =
          1 + byteLength indent + byteLength (Part.indentText indent x) := by
        simp [Part.indentText, one, Nat.add_assoc]
      rw [Text.byteLength_cons, one, behind (by omega), there,
        show byteLength before + (1 + byteLength x) + byteLength indent =
          byteLength before + (1 + byteLength indent) + byteLength x by omega, here]
      omega

/-- Another character stays where it is. -/
theorem plain {c : Char} (h : Placement indent (before ++ [c]) rest place) (other : c ≠ '\n') :
    Placement indent before (c :: rest) place := by
  have longer : byteLength (before ++ [c]) = byteLength before + c.utf8Size := by simp
  refine ⟨fun n early => h.still n (by omega), fun x y same => ?_⟩
  cases x with
  | nil => exact h.still _ (by rw [Text.byteLength_nil]; omega)
  | cons d x =>
    obtain ⟨rfl, others⟩ := List.cons.inj same
    have here := h.ends x y others
    simp only [Part.indentText, List.flatMap_cons, if_neg other, List.singleton_append,
      Text.byteLength_cons] at here ⊢
    rw [longer, Nat.add_assoc] at here
    rw [here]
    omega

end Placement

/-- Indenting puts an indent behind every line feed that is still to come, and takes the end marker and the bounds of
all intervals to their places. -/
theorem exists_placement (indent rest before : List Char) (intervals : List Interval) (finish : Nat) :
    ∃ place, Placement indent before rest place ∧
      let indented := indentFrom indent before intervals finish rest
      indented.1 = before ++ Part.indentText indent rest ∧ indented.2.2 = place finish ∧
        ∀ i, (intervalIn intervals i).start ≤ (intervalIn intervals i).stop →
          (intervalIn indented.2.1 i).start = place (intervalIn intervals i).start ∧
            (intervalIn indented.2.1 i).stop = place (intervalIn intervals i).stop := by
  induction rest generalizing before intervals finish with
  | nil =>
    refine ⟨id, ⟨fun _ _ => rfl, fun x y split => ?_⟩, by simp [indentFrom]⟩
    obtain ⟨rfl, rfl⟩ := List.append_eq_nil_iff.1 split.symm
    rfl
  | cons c rest ih =>
    rw [indentFrom]
    split
    · rename_i feed
      subst feed
      obtain ⟨place, places, text, finish', moved⟩ := ih (before ++ '\n' :: indent)
        (intervals.map (·.shiftFrom (byteLength before) (byteLength indent : Int)))
        (if byteLength before < finish then shifted finish (byteLength indent : Int) else finish)
      refine ⟨_, places.feed, ?_, finish', fun i order => ?_⟩
      · rw [text]
        simp [Part.indentText]
      · obtain ⟨first, last⟩ := shiftFrom_eq order (byteLength before) (byteLength indent)
        have ordered : placed (byteLength before) (byteLength indent) (intervalIn intervals i).start ≤
            placed (byteLength before) (byteLength indent) (intervalIn intervals i).stop := placed_le_placed order
        rw [← intervalIn_shiftFrom] at first last
        have here := moved i (by omega)
        rwa [first, last] at here
    · rename_i other
      obtain ⟨place, places, text, moved⟩ := ih (before ++ [c]) intervals finish
      refine ⟨place, places.plain other, ?_, moved⟩
      rw [text]
      simp [Part.indentText, other]

/-- Indenting an expansion keeps its end marker between its parts. -/
theorem parted_indentLines {finish : Nat} (indent : List Char) (h : Parted e.interval front back e.text finish) :
    let indented := indentFrom indent [] e.intervals finish e.text
    Parted (intervalIn indented.2.1) (front.map (Part.indented indent)) (back.map (Part.indented indent))
      indented.1 indented.2.2 := by
  obtain ⟨fore, aft, text, marker, first, second⟩ := h
  obtain ⟨place, places, text', finish', moved⟩ := exists_placement indent e.text [] e.intervals finish
  have goes : ∀ x y, e.text = x ++ y → place (byteLength x) = byteLength (Part.indentText indent x) := by
    intro x y split
    simpa using places.ends x y split
  have first := first.indent goes moved [] aft (by simpa using text) rfl
  have second := second.indent goes moved fore [] (by simpa using text) rfl
  refine ⟨Part.indentText indent fore, Part.indentText indent aft, ?_, ?_, first, second⟩
  · rw [text', text, Part.indentText_append]
    rfl
  · rw [finish', marker, goes fore aft text]

end Expansion

end EditorBundles.Snippet
