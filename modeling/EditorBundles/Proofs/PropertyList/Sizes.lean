import EditorBundles.PropertyList.Editing

/-!
# Sizes of documents

Editing a document never takes a slot away, so a document that has a root keeps it.
-/

namespace EditorBundles.PropertyList.Document
set_option autoImplicit false

variable {d e : Document}

/-- A document with at least as many slots as one that has a root has a root. -/
theorem isVacant_of_le (h : d.isVacant = false) (le : d.dicts.size ≤ e.dicts.size) : e.isVacant = false := by
  simp only [isVacant, Array.isEmpty, decide_eq_false_iff_not] at h ⊢
  omega

/-- Freeing a cell empties slots but takes none away. -/
theorem size_releaseWithin (levels : Nat) (d : Document) (cell : Cell) :
    (releaseWithin levels d cell).dicts.size = d.dicts.size := by
  induction levels generalizing d cell with
  | zero => cases cell <;> rfl
  | succ levels ih =>
    have all (cells : List Cell) (d : Document) :
        (cells.foldl (releaseWithin levels) d).dicts.size = d.dicts.size := by
      induction cells generalizing d with
      | nil => rfl
      | cons cell cells ih' => exact (ih' _).trans (ih d cell)
    cases cell with
    | dict slot => exact (all _ _).trans Array.size_setIfInBounds
    | array slot => exact all _ _
    | _ => rfl

theorem size_replace (d : Document) (slot : Nat) (key : String) (cell : Cell) :
    (d.replace slot key cell).dicts.size = d.dicts.size := by
  rw [replace]
  split
  · exact (size_releaseWithin _ _ _).trans Array.size_setIfInBounds
  · exact Array.size_setIfInBounds

theorem size_addString (d : Document) (text : String) : (d.addString text).1.dicts.size = d.dicts.size := by
  rw [addString]
  split <;> rfl

theorem size_addArray (d : Document) : d.addArray.1.dicts.size = d.dicts.size := by
  rw [addArray]
  split <;> rfl

theorem size_le_addDict (d : Document) : d.dicts.size ≤ d.addDict.1.dicts.size := by
  rw [addDict]
  split <;> simp

theorem size_setString (d : Document) (slot : Nat) (key text : String) :
    (d.setString slot key text).dicts.size = d.dicts.size := by
  rw [setString]
  split
  · rfl
  · exact (size_replace _ _ _ _).trans (d.size_addString text)

theorem size_newArray (d : Document) (slot : Nat) (key : String) :
    (d.newArray slot key).1.dicts.size = d.dicts.size := by
  rw [newArray]
  split
  · rfl
  · exact (size_replace _ _ _ _).trans d.size_addArray

theorem size_le_newDict (d : Document) (slot : Nat) (key : String) :
    d.dicts.size ≤ (d.newDict slot key).1.dicts.size := by
  rw [newDict]
  split
  · exact Nat.le_refl _
  · rw [size_replace]
    exact d.size_le_addDict

theorem size_le_pushDict (d : Document) (slot : Nat) : d.dicts.size ≤ (d.pushDict slot).1.dicts.size :=
  d.size_le_addDict

end EditorBundles.PropertyList.Document
