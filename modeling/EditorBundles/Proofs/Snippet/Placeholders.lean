import EditorBundles.Proofs.Snippet.Expansion

/-!
# What tab stops are defined with

The first tab stop with a number defines it, and its placeholder is expanded inside it; those with the same number that
come later are mirrors, and what they say is not expanded. A tab stop that is defined with plain text holds no interval.
-/

namespace EditorBundles.Snippet
set_option autoImplicit false

namespace Node

/-- Parts that are text only. -/
def IsPlain (parts : List Node) : Prop := ∀ n ∈ parts, ∃ s, n = .text s

mutual

/-- The tab stops with their placeholders, once those that a part defines come behind those that are defined. -/
def define (env : Environment) (found : List (Nat × List Node)) : Node → List (Nat × List Node)
  | .stop number placeholder pipe =>
    if number = 0 ∧ placeholder.isEmpty ∧ pipe = none then found
    else if number ∈ Entries.keys found then found
    else defineAll env (found ++ [(number, placeholder)]) placeholder
  | .varOr name fallback =>
    match Expansion.valueOf? env name with
    | some _ => found
    | none => defineAll env found fallback
  | .text _ | .stopTransform _ _ | .var _ | .varTransform _ _ | .shell _ => found

/-- The tab stops with their placeholders, once those that parts define come behind those that are defined. -/
def defineAll (env : Environment) (found : List (Nat × List Node)) : List Node → List (Nat × List Node)
  | [] => found
  | n :: rest => defineAll env (define env found n) rest

end

/-- The tab stops of a template with the placeholders that they are defined with. -/
def definitions (env : Environment) (template : List Node) : List (Nat × List Node) := defineAll env [] template

theorem defineAll_of_isPlain (env : Environment) (found : List (Nat × List Node)) {parts : List Node}
    (plain : IsPlain parts) : defineAll env found parts = found := by
  induction parts with
  | nil => rfl
  | cons n rest ih =>
    obtain ⟨s, rfl⟩ := plain n List.mem_cons_self
    exact ih fun n member => plain n (List.mem_cons_of_mem _ member)

end Node

namespace Stops

theorem get?_insert {number : Nat} {stops : Stops} (undefined : number ∉ Entries.keys stops) (stop : Stop) (n : Nat) :
    (insert number stop stops).get? n = if n = number then some stop else stops.get? n := by
  induction stops with
  | nil => simp [insert, get?, Entries.get?, eq_comm]
  | cons entry stops ih =>
    obtain ⟨m, other⟩ := entry
    rw [Entries.keys_cons, List.mem_cons, not_or] at undefined
    rw [insert]
    split
    · simp [get?, Entries.get?, eq_comm]
    · have behind := ih undefined.2
      simp only [get?, Entries.get?] at behind ⊢
      rw [behind]
      by_cases here : n = number
      · have apart : m ≠ number := fun same => undefined.1 same.symm
        simp [here, apart]
      · simp [here]

theorem get?_modify (stops : Stops) (number : Nat) (change : Stop → Stop) (n : Nat) :
    (stops.modify number change).get? n = (stops.get? n).map fun stop => if n = number then change stop else stop := by
  induction stops with
  | nil => rfl
  | cons entry stops ih =>
    obtain ⟨m, other⟩ := entry
    rw [get?, get?, modify, List.map_cons, ← modify]
    by_cases changed : m = number <;> by_cases here : m = n <;> simp_all [get?, Entries.get?]

end Stops

namespace Expansion

/-- No interval lies in interval `id`, and none that is still to come will. -/
def Bare (e : Expansion) (id : Nat) : Prop := e.parent ≠ some id ∧ ∀ i, (e.interval i).parent ≠ some id

/-- The tab stops of an expansion are those of a list, and those that it has with plain text for a placeholder hold no
interval. -/
structure Defines (e : Expansion) (found : List (Nat × List Node)) : Prop where
  keys : ∀ n, n ∈ Entries.keys e.stops ↔ n ∈ Entries.keys found
  bare : ∀ {number placeholder stop}, (number, placeholder) ∈ found → Node.IsPlain placeholder →
    e.stops.get? number = some stop → e.Bare stop.interval

variable {e e' : Expansion} {found : List (Nat × List Node)}

/-- Plain text behind an expansion. -/
theorem nodes_of_isPlain (runner : Runner) (env : Environment) (indentUnit : List Char) {parts : List Node}
    (plain : Node.IsPlain parts) (e : Expansion) : ∃ more, nodes runner env indentUnit e parts = e.append more := by
  induction parts generalizing e with
  | nil => exact ⟨[], by simp [nodes, append]⟩
  | cons n rest ih =>
    obtain ⟨s, rfl⟩ := plain n List.mem_cons_self
    obtain ⟨more, same⟩ := ih (fun n member => plain n (List.mem_cons_of_mem _ member))
      (e.append (indentTabs indentUnit s))
    exact ⟨indentTabs indentUnit s ++ more, by rw [nodes, node, same]; simp [append]⟩

/-- What brings no intervals defines no tab stops. -/
theorem Defines.congr (h : e.Defines found) (intervals : e'.intervals = e.intervals) (parent : e'.parent = e.parent)
    (stops : e'.stops = e.stops) : e'.Defines found := by
  have same : e'.interval = e.interval := by
    funext i
    rw [interval, intervals, interval]
  refine ⟨stops ▸ h.keys, fun member plain here => ?_⟩
  rw [Bare, parent, same]
  exact h.bare member plain (stops ▸ here)

theorem parent_interval_closeInterval (e : Expansion) {id : Nat} (bound : id < e.intervals.length) (i : Nat) :
    ((e.closeInterval id).interval i).parent = (e.interval i).parent := by
  obtain ⟨same, new⟩ := interval_closeInterval e bound
  by_cases here : i = id
  · rw [here, new]
  · rw [same i here]

/-- An interval that is opened and closed again lies in the one that was open. -/
theorem Bare.leaf {id : Nat} (bare : e.Bare id) (parent : e'.parent = e.parent)
    (parents : ∀ i, (e'.interval i).parent = (e.openInterval.interval i).parent) : e'.Bare id := by
  refine ⟨parent ▸ bare.1, fun i => ?_⟩
  rw [parents]
  obtain ⟨same, new⟩ := interval_openInterval e
  by_cases last : i = e.intervals.length
  · rw [last, new]
    exact bare.1
  · rw [same i last]
    exact bare.2 i

/-- A mirror or a substitution behind an expansion. -/
theorem Defines.leaf (h : e.Defines found) (parent : e'.parent = e.parent)
    (parents : ∀ i, (e'.interval i).parent = (e.openInterval.interval i).parent)
    (keys : Entries.keys e'.stops = Entries.keys e.stops)
    (kept : ∀ {number stop'}, e'.stops.get? number = some stop' →
      ∃ stop, e.stops.get? number = some stop ∧ stop'.interval = stop.interval) : e'.Defines found := by
  refine ⟨keys ▸ h.keys, fun member plain here => ?_⟩
  obtain ⟨stop, there, same⟩ := kept here
  exact same ▸ (h.bare member plain there).leaf parent parents

/-- Closing an interval defines no tab stops. -/
theorem Defines.close (h : e.Defines found) {id : Nat} (bound : id < e.intervals.length) :
    (e.closeInterval id).Defines found := by
  refine ⟨h.keys, fun member plain here => ?_⟩
  obtain ⟨-, parents⟩ := h.bare member plain here
  refine ⟨?_, fun i => ?_⟩
  · rw [parent_closeInterval e bound]
    exact parents id
  · rw [parent_interval_closeInterval e bound]
    exact parents i

theorem Growing.lt_of_mem_stopIds (h : e.Growing) {id : Nat} (member : id ∈ e.stopIds) : id < e.intervals.length := by
  obtain ⟨stop, here, rfl⟩ := List.mem_map.1 member
  exact h.within _ (List.mem_append_left _ (List.mem_flatMap.2 ⟨stop, here, List.mem_cons_self⟩))

theorem Growing.lt_of_get? (h : e.Growing) {number : Nat} {stop : Stop} (found : e.stops.get? number = some stop) :
    stop.interval < e.intervals.length :=
  h.lt_of_mem_stopIds (List.mem_map_of_mem (Entries.mem_of_get? found))

section Stop

variable {number : Nat} {placeholder : List Node}

/-- A tab stop that is already there, or the new one. -/
theorem Defines.cases_insert (h : e.Defines found) (undefined : e.stops.get? number = none) {new stop : Stop} {n : Nat}
    {parts : List Node} (member : (n, parts) ∈ found ++ [(number, placeholder)])
    (here : (e.stops.insert number new).get? n = some stop) :
    (n, parts) ∈ found ∧ e.stops.get? n = some stop ∨ parts = placeholder ∧ stop = new := by
  have fresh := Entries.get?_eq_none_iff.1 undefined
  rw [Stops.get?_insert fresh] at here
  rcases List.mem_append.1 member with old | last
  · have other : n ≠ number := by
      rintro rfl
      exact fresh ((h.keys n).2 (List.mem_map_of_mem old))
    rw [if_neg other] at here
    exact .inl ⟨old, here⟩
  · obtain ⟨rfl, rfl⟩ := Prod.mk.inj (List.mem_singleton.1 last)
    rw [if_pos rfl] at here
    exact .inr ⟨rfl, (Option.some.inj here).symm⟩

theorem Defines.keys_insert (h : e.Defines found) (stop : Stop) (n : Nat) :
    n ∈ Entries.keys (e.stops.insert number stop) ↔ n ∈ Entries.keys (found ++ [(number, placeholder)]) := by
  have keys : (Entries.keys (Stops.insert number stop e.stops)).Perm (number :: Entries.keys e.stops) :=
    (Stops.insert_perm number stop e.stops).map _
  rw [keys.mem_iff, List.mem_cons, h.keys, Entries.keys_append]
  simp [or_comm]

variable (growing : e.Growing) (h : e.Defines found) (undefined : e.stops.get? number = none)
  (pipe : Option (List Char))
include growing h undefined

/-- A tab stop that may hold intervals, with these still to come. -/
theorem Defines.opens (rich : ¬ Node.IsPlain placeholder) :
    Defines { e.openInterval with stops := e.stops.insert number ⟨e.intervals.length, pipe, []⟩ }
      (found ++ [(number, placeholder)]) := by
  refine ⟨h.keys_insert _, fun member plain here => ?_⟩
  rcases h.cases_insert undefined member here with ⟨old, there⟩ | ⟨rfl, -⟩
  · have still : Bare { e.openInterval with parent := e.parent } _ := (h.bare old plain there).leaf rfl fun _ => rfl
    refine ⟨fun same => ?_, still.2⟩
    -- the interval that is open is a new one
    have before := growing.lt_of_get? there
    rw [← Option.some.inj same] at before
    exact Nat.lt_irrefl _ before
  · exact absurd plain rich

/-- A tab stop with plain text for its placeholder. -/
theorem Defines.plain (more : List Char) :
    Defines ((append { e.openInterval with stops := e.stops.insert number ⟨e.intervals.length, pipe, []⟩ }
      more).closeInterval e.intervals.length) (found ++ [(number, placeholder)]) := by
  generalize inside : append { e.openInterval with stops := e.stops.insert number ⟨e.intervals.length, pipe, []⟩ }
    more = e'
  have stops : e'.stops = e.stops.insert number ⟨e.intervals.length, pipe, []⟩ := by rw [← inside]; rfl
  have extends_ : e.openInterval.Extends e' := by
    subst inside
    exact ⟨rfl, Nat.le_refl _, fun _ _ => rfl⟩
  have parents (i : Nat) : ((e'.closeInterval e.intervals.length).interval i).parent =
      (e.openInterval.interval i).parent := by
    have bound : e.intervals.length < e'.intervals.length :=
      Nat.lt_of_lt_of_le e.lt_length_openInterval extends_.length
    rw [parent_interval_closeInterval e' bound, ← inside]
    rfl
  refine ⟨fun n => ?_, fun member plain here => ?_⟩
  · rw [closeInterval, stops]
    exact h.keys_insert _ n
  · rw [closeInterval, stops] at here
    rcases h.cases_insert undefined member here with ⟨old, there⟩ | ⟨-, rfl⟩
    · exact (h.bare old plain there).leaf extends_.leaf parents
    · -- nothing lies in the new interval
      have fresh (p : Nat) (holds : p ∈ e.stopIds) : p ≠ e.intervals.length :=
        Nat.ne_of_lt (growing.lt_of_mem_stopIds holds)
      refine ⟨fun same => ?_, fun i same => ?_⟩
      · rw [extends_.leaf] at same
        exact fresh _ (growing.place_stop _ same) rfl
      · rw [parents] at same
        exact fresh _ (growing.parent_openInterval same) rfl

end Stop

/-! ## Templates -/

mutual

/-- Expanding a part of a template defines its tab stops. -/
theorem defines_node (runner : Runner) (env : Environment) (indentUnit : List Char) :
    ∀ (n : Node) {e : Expansion} {found : List (Nat × List Node)}, e.Growing → e.Defines found →
      (node runner env indentUnit e n).Defines (Node.define env found n)
  | .text s, e, found, growing, h => by
    rw [node, Node.define]
    exact h.congr rfl rfl rfl
  | .stop number placeholder pipe, e, found, growing, h => by
    rw [node, Node.define]
    split
    · exact h.congr rfl rfl rfl
    have bound := e.lt_length_openInterval
    cases there : e.openInterval.stops.get? number with
    | some stop =>
      have known : number ∈ Entries.keys found := (h.keys number).1 (Entries.mem_keys_of_get? there)
      simp only [there, if_pos known]
      refine h.leaf ?_ (fun i => parent_interval_closeInterval _ bound i) ?_ fun {number' stop'} here => ?_
      · exact Extends.leaf ⟨rfl, Nat.le_refl _, fun _ _ => rfl⟩
      · rw [closeInterval, Stops.keys_modify]
        rfl
      · rw [closeInterval, Stops.get?_modify] at here
        obtain ⟨stop, there, rfl⟩ := Option.map_eq_some_iff.1 here
        refine ⟨stop, there, ?_⟩
        split <;> rfl
    | none =>
      have unknown : number ∉ Entries.keys found := fun member =>
        Entries.get?_eq_none_iff.1 there ((h.keys number).2 member)
      simp only [there, if_neg unknown]
      by_cases plain : Node.IsPlain placeholder
      · obtain ⟨more, same⟩ := nodes_of_isPlain runner env indentUnit plain
          { e.openInterval with stops := e.openInterval.stops.insert number ⟨e.intervals.length, pipe, []⟩ }
        rw [same, Node.defineAll_of_isPlain env _ plain]
        exact h.plain growing there pipe more
      · -- the tab stop is open while its placeholder is expanded
        have defined := growing.define there pipe
        obtain ⟨-, more⟩ := growing_nodes runner env indentUnit placeholder defined
        exact (defines_nodes runner env indentUnit placeholder defined (h.opens growing there pipe plain)).close
          (Nat.lt_of_lt_of_le bound more.length)
  | .stopTransform number t, e, found, growing, h => by
    have bound := e.lt_length_openInterval
    rw [node, Node.define]
    exact h.leaf (Extends.leaf (.refl e.openInterval)) (fun i => parent_interval_closeInterval _ bound i) rfl
      fun here => ⟨_, here, rfl⟩
  | .var name, e, found, growing, h => by
    rw [node, Node.define]
    exact h.congr rfl rfl rfl
  | .varOr name fallback, e, found, growing, h => by
    rw [node, Node.define]
    cases valueOf? env name with
    | some value => exact h.congr rfl rfl rfl
    | none => exact defines_nodes runner env indentUnit fallback growing h
  | .varTransform name t, e, found, growing, h => by
    rw [node, Node.define]
    exact h.congr rfl rfl rfl
  | .shell command, e, found, growing, h => by
    rw [node, Node.define]
    exact h.congr rfl rfl rfl

theorem defines_nodes (runner : Runner) (env : Environment) (indentUnit : List Char) :
    ∀ (template : List Node) {e : Expansion} {found : List (Nat × List Node)}, e.Growing → e.Defines found →
      (nodes runner env indentUnit e template).Defines (Node.defineAll env found template)
  | [], e, found, growing, h => by
    rw [nodes, Node.defineAll]
    exact h
  | n :: rest, e, found, growing, h => by
    rw [nodes, Node.defineAll]
    exact defines_nodes runner env indentUnit rest (growing_node runner env indentUnit n growing).1
      (defines_node runner env indentUnit n growing h)

end

/-- The tab stops of a template are those that it defines, and those with plain text for a placeholder hold nothing. -/
theorem defines_ofNodes (runner : Runner) (env : Environment) (indentUnit : List Char) (template : List Node) :
    (ofNodes runner env indentUnit template).Defines (Node.definitions env template) :=
  defines_nodes runner env indentUnit template growing_empty ⟨fun _ => .rfl, nofun⟩

end Expansion

end EditorBundles.Snippet
