import EditorBundles.Proofs.PropertyList.Edits

/-!
# Documents refine nested values

In a well-formed document the root and the cells that were handed out have trees of their own, and
nothing else is in use. An editing operation on a container somewhere below the root then does to the
value of the document what the corresponding operation on ordered maps and lists does at that place.
-/

namespace EditorBundles.PropertyList
set_option autoImplicit false
open Document (Agrees Uses)

namespace Document

/-- The root and the handed-out cells have trees of their own, and what these take is all that is in
use. -/
def WellFormed (d : Document) (handed : List Cell) : Prop :=
  ∃ values places, Forest d (.dict rootSlot :: handed) values places ∧ d.Uses places

/-- A tree of a forest has its value, whatever else the forest takes. -/
theorem map_value {d : Document} {cells : List Cell} {values : List Value} {ps rest : List Place}
    (h : Forest d cells values ps) (uses : d.Uses (ps ++ rest)) : cells.map d.value = values := by
  have deep := uses.countP_isContainer_lt_levels
  rw [List.countP_append] at deep
  exact h.map_valueWithin _ (by omega)

/-- The entries of a dictionary are those of its value. -/
theorem value_dict {d : Document} {slot : Nat} {v : Value} {ps rest : List Place}
    (h : Forest d [.dict slot] [v] ps)
    (uses : d.Uses (ps ++ rest)) : .dict (d.entries slot) = v := by
  obtain ⟨es, entries, inner, same, rfl, read, distinct, keys, below⟩ := h.dict_inv
  cases same
  have inside : d.Uses (inner ++ (.dict slot :: rest)) := uses.of_perm (by grind)
  have values := map_value below inside
  rw [Document.entries, content?_dict read]
  refine congrArg Value.dict (Entries.ext ?_ ?_)
  · rw [keys]
    simp [Entries.keys]
  · rw [← values]
    simp

theorem wellFormed_new : new.WellFormed [] := by
  have root : new.content? (.dict rootSlot) = some (.entries []) := rfl
  have tree : Forest new [.dict rootSlot] [.dict []] [.dict rootSlot] := .of_dict root (by simp) rfl .nil
  exact ⟨_, _, tree, by decide, by decide⟩

namespace WellFormed

variable {d : Document} {handed : List Cell}

/-- The tree of the root, the forest of the cells handed out, and what they mean. -/
theorem parts (h : d.WellFormed handed) :
    ∃ values here behind, Forest d [.dict rootSlot] [.dict d.root] here ∧ Forest d handed values behind ∧
      d.Uses (here ++ behind) ∧ handed.map d.value = values := by
  obtain ⟨values, places, forest, uses⟩ := h
  obtain ⟨v, values, here, behind, rfl, rfl, tree, others⟩ := forest.uncons
  have root : .dict d.root = v := value_dict tree uses
  exact ⟨values, here, behind, root ▸ tree, others, uses, map_value others (uses.of_perm List.perm_append_comm)⟩

end WellFormed

/-- An edit of a container below the root edits the value of the document at the same place, and
changes nothing else: neither the rest of that value nor the values of cells that were handed out. The
container that the edit gives out stands in its place and holds what it should. -/
theorem edit_refines_value {d : Document} {handed : List Cell} (wellFormed : d.WellFormed handed)
    {path : List Step}
    {container : Cell} (reached : d.follow? (.dict rootSlot) path = some container) :
    ∃ v, (Value.dict d.root).follow? path = some v ∧ d.value container = v ∧
      ∀ (edit : Edit) (w : Value), edit.onValue? v = some w →
        ∃ e handle, edit.run? d container = some (e, handle) ∧ e.WellFormed handed ∧
          Value.dict e.root = (Value.dict d.root).setAt w path ∧
          (∀ cell ∈ handed, e.value cell = d.value cell) ∧
          (edit.handle? v = none → handle = none) ∧
          ∀ step x, edit.handle? v = some (step, x) →
            ∃ c, handle = some c ∧ e.follow? (.dict rootSlot) (path ++ [step]) = some c ∧ e.value c = x := by
  obtain ⟨values, here, behind, tree, others, uses, meant⟩ := wellFormed.parts
  obtain ⟨v, inside, outside, found, below, perm, refill⟩ := tree.follow reached
  have used : d.Uses (inside ++ (outside ++ behind)) := uses.of_perm (by grind)
  refine ⟨v, found, below.value used, fun edit w fits => ?_⟩
  obtain ⟨e, handle, run, turns⟩ := turnsHanding_edit below fits
  obtain ⟨inside', below', used', agrees, hands⟩ := turns _ used
  obtain ⟨reached', here', tree', perm'⟩ := refill e w inside' (agrees.mono (by simp)) below'
  have others' := others.frame (agrees.mono (by simp))
  have uses' : e.Uses (here' ++ behind) := used'.of_perm (by grind)
  have meant' := map_value others' (uses'.of_perm List.perm_append_comm)
  refine ⟨e, handle, run, ⟨_, _, tree'.append others', uses'⟩, value_dict tree' uses', ?_, ?_, ?_⟩
  · intro cell member
    exact List.map_inj_left.1 (meant'.trans meant.symm) cell member
  · intro silent
    rw [silent] at hands
    cases handle with
    | none => rfl
    | some c => exact hands.elim
  · intro step x given
    rw [given] at hands
    cases handle with
    | none => exact hands.elim
    | some c =>
      obtain ⟨x', given', around, child, subtree, perm, -⟩ := below'.child hands
      have placed : e.Uses (given' ++ (around ++ (outside ++ behind))) := used'.of_perm (by grind)
      have : x' = x := Option.some.inj (child.symm.trans (Edit.child?_of_handle? fits given))
      refine ⟨c, rfl, ?_, ?_⟩
      · rw [follow?_append_singleton, reached']
        exact hands
      · rw [← this]
        exact subtree.value placed

/-- A new list in a dictionary inside the root. -/
theorem edit_refines_value_nested :
    ∃ d : Document, d.WellFormed [] ∧ d.follow? (.dict rootSlot) [.key "a"] = some (.dict 1) ∧
      ∃ e c, (Edit.dict (.newArray "b")).run? d (.dict 1) = some (e, some c) ∧
        Value.dict e.root = .dict [("a", .dict [("b", .array [])])] ∧ e.value c = .array [] := by
  have root : (new.newDict rootSlot "a").1.content? (.dict 0) = some (.entries [("a", .dict 1)]) := rfl
  have below : (new.newDict rootSlot "a").1.content? (.dict 1) = some (.entries []) := rfl
  have inner : Forest (new.newDict rootSlot "a").1 [.dict 1] [.dict []] [.dict 1] :=
    .of_dict below (by simp) rfl .nil
  have outer : Forest (new.newDict rootSlot "a").1 [.dict 0] [.dict [("a", .dict [])]] [.dict 0, .dict 1] :=
    .of_dict root (by simp) rfl inner
  have wellFormed : (new.newDict rootSlot "a").1.WellFormed [] := ⟨_, _, outer, by decide, by decide⟩
  have reached : (new.newDict rootSlot "a").1.follow? (.dict rootSlot) [.key "a"] = some (.dict 1) := rfl
  obtain ⟨v, found, -, edits⟩ := edit_refines_value wellFormed reached
  obtain rfl : .dict [] = v := Option.some.inj found
  obtain ⟨e, handle, run, -, value, -, -, handed⟩ := edits (.dict (.newArray "b")) _ rfl
  obtain ⟨c, rfl, -, meant⟩ := handed _ _ rfl
  exact ⟨_, wellFormed, reached, e, c, run, value, meant⟩

end Document

end EditorBundles.PropertyList
