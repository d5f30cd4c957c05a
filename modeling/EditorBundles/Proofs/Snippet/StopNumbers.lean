import EditorBundles.Proofs.Snippet.Expansion
import EditorBundles.Snippet.TemplateReader

/-!
# The numbers of tab stops

Whatever a template says, the numbers of its tab stops are words, and its expansion defines no tab stop with any other
number.
-/

namespace EditorBundles.Snippet
set_option autoImplicit false

mutual

/-- The numbers of the tab stops that a part can define. -/
def Node.stopNumbers : Node → List Nat
  | .stop number placeholder _ => number :: stopNumbersAll placeholder
  | .varOr _ fallback => stopNumbersAll fallback
  | _ => []

/-- The numbers of the tab stops that parts can define. -/
def Node.stopNumbersAll : List Node → List Nat
  | [] => []
  | n :: rest => n.stopNumbers ++ stopNumbersAll rest

end

namespace TemplateReader

theorem stopNumber_lt {cs behind : List Char} {number : Nat} (read : stopNumber cs = some (number, behind)) :
    number < Node.numberLimit := by
  rw [stopNumber] at read
  obtain ⟨⟨-, small⟩, same⟩ := Option.ite_none_right_eq_some.1 read
  exact (Prod.mk.inj (Option.some.inj same)).1 ▸ small

theorem stopNumbersAll_consChar (c : Char) (parts : List Node) :
    Node.stopNumbersAll (Node.consChar c parts) = Node.stopNumbersAll parts := by
  rw [Node.consChar.eq_def]
  split <;> simp [Node.stopNumbersAll, Node.stopNumbers]

/-- Numbers that are words. -/
def AllWords (numbers : List Nat) : Prop := ∀ number ∈ numbers, number < Node.numberLimit

theorem allWords_nil : AllWords [] := nofun

/-- What is read with some fuel has only words for the numbers of its tab stops. -/
structure ReadsWords (fuel : Nat) : Prop where
  parts : ∀ context cs, AllWords (Node.stopNumbersAll (nodes fuel context cs).1)
  hole : ∀ {cs part behind}, hole fuel cs = some (part, behind) → AllWords part.stopNumbers
  bracedStop : ∀ {cs part behind}, bracedStop fuel cs = some (part, behind) → AllWords part.stopNumbers
  bracedVariable : ∀ {cs part behind}, bracedVariable fuel cs = some (part, behind) → AllWords part.stopNumbers

variable {fuel : Nat}

theorem ReadsWords.parts_succ (h : ReadsWords fuel) (context : Context) (cs : List Char) :
    AllWords (Node.stopNumbersAll (nodes (fuel + 1) context cs).1) := by
  have literal (c : Char) (rest : List Char) :
      AllWords (Node.stopNumbersAll (Node.consChar c (nodes fuel context rest).1)) := by
    rw [stopNumbersAll_consChar]
    exact h.parts context rest
  have node {n : Node} (words : AllWords n.stopNumbers) (rest : List Char) :
      AllWords (Node.stopNumbersAll (n :: (nodes fuel context rest).1)) := by
    rw [Node.stopNumbersAll]
    exact List.forall_mem_append.2 ⟨words, h.parts context rest⟩
  rw [nodes.eq_def]
  simp only
  split
  · exact allWords_nil
  · split
    · split
      · split
        · exact literal _ _
        · exact literal _ _
      · exact literal _ _
    · split
      · split
        · rename_i found
          exact node (h.hole found) _
        · exact literal _ _
      · split
        · split
          · exact node (n := .shell _) allWords_nil _
          · exact literal _ _
        · split
          · exact allWords_nil
          · split
            · exact allWords_nil
            · exact literal _ _

theorem ReadsWords.hole_succ (h : ReadsWords fuel) {cs behind : List Char} {part : Node}
    (read : TemplateReader.hole (fuel + 1) cs = some (part, behind)) : AllWords part.stopNumbers := by
  rw [TemplateReader.hole.eq_def] at read
  simp only at read
  split at read
  · cases read
  · split at read
    · split at read
      · cases read
      · split at read
        · exact h.bracedStop read
        · split at read
          · exact h.bracedVariable read
          · cases read
    · split at read
      · obtain ⟨⟨number, rest⟩, found, same⟩ := Option.map_eq_some_iff.1 read
        obtain ⟨rfl, -⟩ := Prod.mk.inj same
        exact List.forall_mem_singleton.2 (stopNumber_lt found)
      · split at read
        · obtain ⟨rfl, -⟩ := Prod.mk.inj (Option.some.inj read)
          exact allWords_nil
        · cases read

theorem ReadsWords.bracedStop_succ (h : ReadsWords fuel) {cs behind : List Char} {part : Node}
    (read : TemplateReader.bracedStop (fuel + 1) cs = some (part, behind)) : AllWords part.stopNumbers := by
  have stop {number : Nat} {rest : List Char} (found : stopNumber cs = some (number, rest)) (placeholder : List Node)
      (words : AllWords (Node.stopNumbersAll placeholder)) (pipe : Option (List Char)) :
      AllWords (Node.stop number placeholder pipe).stopNumbers :=
    List.forall_mem_cons.2 ⟨stopNumber_lt found, words⟩
  rw [TemplateReader.bracedStop.eq_def] at read
  simp only at read
  split at read
  · rename_i found
    obtain ⟨rfl, -⟩ := Prod.mk.inj (Option.some.inj read)
    exact stop found [] allWords_nil _
  · rename_i rest found
    have words := h.parts .placeholder rest
    split at read
    · rename_i closed
      obtain ⟨rfl, -⟩ := Prod.mk.inj (Option.some.inj read)
      rw [closed] at words
      exact stop found _ words _
    · rename_i closed
      obtain ⟨parts, -, same⟩ := Option.map_eq_some_iff.1 read
      obtain ⟨rfl, -⟩ := Prod.mk.inj same
      rw [closed] at words
      exact stop found _ words _
    · cases read
  · rename_i found
    obtain ⟨parts, -, same⟩ := Option.map_eq_some_iff.1 read
    obtain ⟨rfl, -⟩ := Prod.mk.inj same
    exact stop found [] allWords_nil _
  · obtain ⟨parts, -, same⟩ := Option.map_eq_some_iff.1 read
    obtain ⟨rfl, -⟩ := Prod.mk.inj same
    exact allWords_nil
  · cases read

theorem ReadsWords.bracedVariable_succ (h : ReadsWords fuel) {cs behind : List Char} {part : Node}
    (read : TemplateReader.bracedVariable (fuel + 1) cs = some (part, behind)) : AllWords part.stopNumbers := by
  rw [TemplateReader.bracedVariable.eq_def] at read
  simp only at read
  split at read
  · obtain ⟨rfl, -⟩ := Prod.mk.inj (Option.some.inj read)
    exact allWords_nil
  · rename_i rest found
    have words := h.parts .fallback rest
    split at read
    · rename_i closed
      obtain ⟨rfl, -⟩ := Prod.mk.inj (Option.some.inj read)
      rw [closed] at words
      exact words
    · cases read
  · obtain ⟨parts, -, same⟩ := Option.map_eq_some_iff.1 read
    obtain ⟨rfl, -⟩ := Prod.mk.inj same
    exact allWords_nil
  · cases read

theorem readsWords (fuel : Nat) : ReadsWords fuel := by
  induction fuel with
  | zero => exact ⟨fun _ _ => allWords_nil, nofun, nofun, nofun⟩
  | succ fuel ih => exact ⟨ih.parts_succ, ih.hole_succ, ih.bracedStop_succ, ih.bracedVariable_succ⟩

/-- The numbers of the tab stops of a template are words. -/
theorem allWords_parseTemplate (template : List Char) : AllWords (Node.stopNumbersAll (parseTemplate template)) :=
  (readsWords _).parts .top template

end TemplateReader

namespace Expansion

mutual

/-- Expanding a part only defines tab stops with the numbers in it. -/
theorem keys_node (runner : Runner) (env : Environment) (indentUnit : List Char) :
    ∀ (n : Node) {e : Expansion},
      Entries.keys (node runner env indentUnit e n).stops ⊆ Entries.keys e.stops ++ n.stopNumbers
  | .text s, e => by
    rw [node]
    exact List.subset_append_left _ _
  | .stop number placeholder pipe, e => by
    rw [node]
    split
    · exact List.subset_append_left _ _
    cases found : e.openInterval.stops.get? number with
    | some stop =>
      simp only [found]
      rw [closeInterval, Stops.keys_modify]
      exact List.subset_append_left _ _
    | none =>
      simp only [found]
      refine List.Subset.trans (keys_nodes runner env indentUnit placeholder) ?_
      have keys : (Entries.keys (e.stops.insert number ⟨e.intervals.length, pipe, []⟩)).Perm
          (number :: Entries.keys e.stops) := (Stops.insert_perm number _ e.stops).map _
      rw [Node.stopNumbers]
      intro m member
      rcases List.mem_append.1 member with early | inside
      · rcases List.mem_cons.1 (keys.mem_iff.1 early) with rfl | earlier
        · simp
        · simp [earlier]
      · simp [inside]
  | .stopTransform number t, e => by
    rw [node]
    exact List.subset_append_left _ _
  | .var name, e => by
    rw [node]
    exact List.subset_append_left _ _
  | .varOr name fallback, e => by
    rw [node]
    split
    · exact List.subset_append_left _ _
    · exact keys_nodes runner env indentUnit fallback
  | .varTransform name t, e => by
    rw [node]
    exact List.subset_append_left _ _
  | .shell command, e => by
    rw [node]
    exact List.subset_append_left _ _

theorem keys_nodes (runner : Runner) (env : Environment) (indentUnit : List Char) :
    ∀ (template : List Node) {e : Expansion}, Entries.keys (nodes runner env indentUnit e template).stops ⊆
      Entries.keys e.stops ++ Node.stopNumbersAll template
  | [], e => by
    rw [nodes]
    exact List.subset_append_left _ _
  | n :: rest, e => by
    rw [nodes, Node.stopNumbersAll, ← List.append_assoc]
    exact List.Subset.trans (keys_nodes runner env indentUnit rest)
      (List.append_subset.2 ⟨List.Subset.trans (keys_node runner env indentUnit n) (List.subset_append_left _ _),
        List.subset_append_right _ _⟩)

end

/-- The tab stops of an expansion are numbered by words. -/
theorem allWords_ofNodes (runner : Runner) (env : Environment) (indentUnit template : List Char) :
    TemplateReader.AllWords (Entries.keys (ofNodes runner env indentUnit (parseTemplate template)).stops) :=
  fun number member => TemplateReader.allWords_parseTemplate template number
    (keys_nodes runner env indentUnit (parseTemplate template) member)

end Expansion

end EditorBundles.Snippet
