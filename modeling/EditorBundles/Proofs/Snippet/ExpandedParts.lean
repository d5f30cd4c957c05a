import EditorBundles.Proofs.Snippet.Expansion

/-!
# The parts that are expanded

Not all parts of a template are expanded. What stands for a variable is if the variable has no text, and a placeholder is
where its tab stop comes for the first time, so what is expanded depends on what was expanded before. A template has a fault
if a transform among these parts is over a tab stop that none of them defines, and the first such transform names it.
-/

namespace EditorBundles.Snippet
set_option autoImplicit false

namespace Node

/-- The tab stop that a part defines or mirrors. A bare stop 0 is the end marker and defines nothing. -/
def stop? : Node → Option Nat
  | .stop number placeholder pipe => if number = 0 ∧ placeholder.isEmpty ∧ pipe = none then none else some number
  | _ => none

/-- The tab stop that a part transforms. -/
def source? : Node → Option Nat
  | .stopTransform number _ => some number
  | _ => none

/-- The tab stops that parts define. -/
def stopsOf (parts : List Node) : List Nat := parts.filterMap stop?

/-- The tab stops that parts transform, in the order of the parts. -/
def sourcesOf (parts : List Node) : List Nat := parts.filterMap source?

@[simp] theorem stopsOf_append (front back : List Node) : stopsOf (front ++ back) = stopsOf front ++ stopsOf back :=
  List.filterMap_append

@[simp] theorem sourcesOf_append (front back : List Node) :
    sourcesOf (front ++ back) = sourcesOf front ++ sourcesOf back := List.filterMap_append

mutual

/-- A part with the parts inside it that are expanded, once the tab stops `seen` are defined. -/
def expanded (env : Environment) (seen : List Nat) : Node → List Node
  | .stop number placeholder pipe =>
    .stop number placeholder pipe ::
      if (number = 0 ∧ placeholder.isEmpty ∧ pipe = none) ∨ number ∈ seen then []
      else expandedAll env (seen ++ [number]) placeholder
  | .varOr name fallback =>
    .varOr name fallback ::
      match Expansion.valueOf? env name with
      | some _ => []
      | none => expandedAll env seen fallback
  | .text s => [.text s]
  | .stopTransform number t => [.stopTransform number t]
  | .var name => [.var name]
  | .varTransform name t => [.varTransform name t]
  | .shell command => [.shell command]

/-- The parts that are expanded, in their order, once the tab stops `seen` are defined. -/
def expandedAll (env : Environment) (seen : List Nat) : List Node → List Node
  | [] => []
  | n :: rest => expanded env seen n ++ expandedAll env (seen ++ stopsOf (expanded env seen n)) rest

end

end Node

namespace Expansion
open Node (stopsOf sourcesOf expanded expandedAll)

/-- An expansion has the tab stops `seen`, and transforms of the tab stops `sources` in their order. -/
structure Records (e : Expansion) (seen sources : List Nat) : Prop where
  keys : ∀ n, n ∈ Entries.keys e.stops ↔ n ∈ seen
  sources : e.bindings.map (·.source) = sources

variable {e e' : Expansion} {seen sources : List Nat}

/-- What defines nothing and transforms nothing leaves the records as they are. -/
theorem Records.congr (h : e.Records seen sources) (keys : Entries.keys e'.stops = Entries.keys e.stops)
    (bindings : e'.bindings = e.bindings) : e'.Records seen sources :=
  ⟨keys ▸ h.keys, bindings ▸ h.sources⟩

/-- So does a part that does nothing else. -/
theorem Records.plain (h : e.Records seen sources) {n : Node} (stop : n.stop? = none) (source : n.source? = none)
    (keys : Entries.keys e'.stops = Entries.keys e.stops) (bindings : e'.bindings = e.bindings) :
    e'.Records (seen ++ stopsOf [n]) (sources ++ sourcesOf [n]) := by
  rw [stopsOf, sourcesOf, List.filterMap_cons_none stop, List.filterMap_cons_none source, List.filterMap_nil,
    List.filterMap_nil, List.append_nil, List.append_nil]
  exact h.congr keys bindings

/-- Defining a tab stop. -/
theorem Records.define (h : e.Records seen sources) (number : Nat) (stop : Stop) :
    Records { e.openInterval with stops := e.stops.insert number stop } (seen ++ [number]) sources := by
  refine ⟨fun n => ?_, h.sources⟩
  have keys : (Entries.keys (e.stops.insert number stop)).Perm (number :: Entries.keys e.stops) :=
    (Stops.insert_perm number stop e.stops).map _
  rw [List.mem_append, List.mem_singleton, ← h.keys n, or_comm]
  exact keys.mem_iff.trans List.mem_cons

mutual

/-- Expanding a part records the tab stops and the transforms of what is expanded of it. -/
theorem records_node (runner : Runner) (env : Environment) (indentUnit : List Char) :
    ∀ (n : Node) {e : Expansion} {seen sources : List Nat}, e.Records seen sources →
      (node runner env indentUnit e n).Records (seen ++ stopsOf (expanded env seen n))
        (sources ++ sourcesOf (expanded env seen n))
  | .text s, e, seen, sources, h => by
    rw [node, expanded]
    exact h.plain rfl rfl rfl rfl
  | .stop number placeholder pipe, e, seen, sources, h => by
    rw [node, expanded]
    by_cases bare : number = 0 ∧ placeholder.isEmpty ∧ pipe = none
    · rw [if_pos bare, if_pos (.inl bare)]
      exact h.plain (if_pos bare) rfl rfl rfl
    have stop : (Node.stop number placeholder pipe).stop? = some number := if_neg bare
    have source : (Node.stop number placeholder pipe).source? = none := rfl
    rw [if_neg bare, stopsOf, sourcesOf, List.filterMap_cons_some stop, List.filterMap_cons_none source]
    cases found : e.openInterval.stops.get? number with
    | some old =>
      have known : number ∈ seen := (h.keys number).1 (Entries.mem_keys_of_get? found)
      simp only [found]
      rw [if_pos (.inr known), List.filterMap_nil, List.filterMap_nil, List.append_nil]
      refine ⟨fun n => ?_, h.sources⟩
      have same : n ∈ seen ++ [number] ↔ n ∈ seen := by
        rw [List.mem_append, List.mem_singleton]
        exact or_iff_left_of_imp (· ▸ known)
      rw [closeInterval, Stops.keys_modify, same]
      exact h.keys n
    | none =>
      have unknown : number ∉ seen := fun member => Entries.get?_eq_none_iff.1 found ((h.keys number).2 member)
      simp only [found]
      rw [if_neg (not_or.2 ⟨bare, unknown⟩), List.append_cons]
      have inner := records_nodes runner env indentUnit placeholder (h.define number ⟨e.intervals.length, pipe, []⟩)
      exact inner.congr rfl rfl
  | .stopTransform number t, e, seen, sources, h => by
    rw [node, expanded]
    refine ⟨fun n => ?_, ?_⟩
    · rw [stopsOf, List.filterMap_cons_none rfl, List.filterMap_nil, List.append_nil]
      exact h.keys n
    · rw [List.map_append, ← h.sources]
      rfl
  | .var name, e, seen, sources, h => by
    rw [node, expanded]
    exact h.plain rfl rfl rfl rfl
  | .varOr name fallback, e, seen, sources, h => by
    rw [node, expanded]
    cases value : valueOf? env name with
    | some s => exact h.plain rfl rfl rfl rfl
    | none => exact records_nodes runner env indentUnit fallback h
  | .varTransform name t, e, seen, sources, h => by
    rw [node, expanded]
    exact h.plain rfl rfl rfl rfl
  | .shell command, e, seen, sources, h => by
    rw [node, expanded]
    exact h.plain rfl rfl rfl rfl

theorem records_nodes (runner : Runner) (env : Environment) (indentUnit : List Char) :
    ∀ (template : List Node) {e : Expansion} {seen sources : List Nat}, e.Records seen sources →
      (nodes runner env indentUnit e template).Records (seen ++ stopsOf (expandedAll env seen template))
        (sources ++ sourcesOf (expandedAll env seen template))
  | [], e, seen, sources, h => by
    simpa [nodes, expandedAll, stopsOf, sourcesOf] using h
  | n :: rest, e, seen, sources, h => by
    rw [nodes, expandedAll, Node.stopsOf_append, Node.sourcesOf_append, ← List.append_assoc, ← List.append_assoc]
    exact records_nodes runner env indentUnit rest (records_node runner env indentUnit n h)

end

end Expansion

end EditorBundles.Snippet
