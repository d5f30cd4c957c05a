import EditorBundles.Proofs.Catalog.OwnVersions

/-!
# Entries of rows that are not gone

Operations on a table change the entry of one row. What stands in the place of an entry that is gone may be cut off
with it: of the other rows just those that are not gone stay.
-/

namespace EditorBundles.Catalog
set_option autoImplicit false
open PropertyList

namespace TableView

variable {ν : Type} [RowView ν] {t : TableView ν} {id other : Nat} {e : EntryView} {loc : Locality} {d : Document}

/-- The entry of a row that is not gone. -/
def live? (t : TableView ν) (id : Nat) : Option EntryView := (t.entryAt? id).filter fun e => !e.isTombstone

theorem live?_eq_some : t.live? id = some e ↔
    ∃ row, t.row? id = some row ∧ RowView.entry row = e ∧ e.locality.deleted = false := by
  rw [live?, Option.filter_eq_some_iff, entryAt?, Option.map_eq_some_iff]
  constructor
  · rintro ⟨⟨row, found, same⟩, here⟩
    exact ⟨row, found, same, by simpa [EntryView.isTombstone] using here⟩
  · rintro ⟨row, found, same, here⟩
    exact ⟨⟨row, found, same⟩, by simpa [EntryView.isTombstone] using here⟩

theorem entryAt?_of_live? (live : t.live? id = some e) : t.entryAt? id = some e := (Option.filter_eq_some_iff.1 live).1

theorem lt_of_live? (live : t.live? id = some e) : id < t.size := by
  obtain ⟨row, found, -⟩ := live?_eq_some.1 live
  exact (List.getElem?_eq_some_iff.1 found).1

/-- Rows that are gone have no version. -/
def Tidy (t : TableView ν) : Prop := ∀ id e, t.entryAt? id = some e → e.locality.deleted = true → e.locality.hasSource = false

theorem tidy_empty : Tidy ({} : TableView ν) := by
  intro id e found
  cases found

/-- A row with a version is not gone. -/
theorem Tidy.live?_of_hasSource (h : t.Tidy) (found : t.entryAt? id = some e) (source : e.locality.hasSource = true) :
    t.live? id = some e := by
  refine Option.filter_eq_some_iff.2 ⟨found, ?_⟩
  cases gone : e.locality.deleted with
  | true =>
    rw [h id e found gone] at source
    cases source
  | false => simp [EntryView.isTombstone, gone]

/-! ## Rows that are found -/

theorem live?_of_findUuid? {uuid : String} (found : t.findUuid? uuid = some id) : ∃ e, t.live? id = some e ∧ e.uuid = uuid := by
  obtain ⟨bound, chosen, -⟩ := List.findIdx?_eq_some_iff_getElem.1 found
  rw [Bool.and_eq_true, Bool.not_eq_true', decide_eq_true_eq] at chosen
  exact ⟨_, live?_eq_some.2 ⟨_, List.getElem?_eq_getElem bound, rfl, chosen.1⟩, chosen.2⟩

theorem ne_of_findUuid? {uuid : String} (missing : t.findUuid? uuid = none) (live : t.live? id = some e) : e.uuid ≠ uuid := by
  obtain ⟨row, found, rfl, here⟩ := live?_eq_some.1 live
  have nothing := List.findIdx?_eq_none_iff.1 missing row (List.mem_of_getElem? found)
  rintro rfl
  simp [EntryView.isTombstone, here] at nothing

variable [LawfulRowView ν]

/-! ## Registering and adding -/

theorem live?_register (source : loc.IsSource) (t : TableView ν) (id : Nat) (d : Document) (other : Nat) :
    (t.register id d loc).live? other = if id = other then (t.live? other).map (·.register d loc) else t.live? other := by
  unfold live? entryAt?
  rw [row?_register]
  split
  · cases t.row? other with
    | none => rfl
    | some row =>
      simp only [Option.map_some, LawfulRowView.entry_withEntry, Option.filter_some]
      rw [EntryView.isTombstone, EntryView.deleted_register_eq source, EntryView.isTombstone]
      split <;> rfl
  · rfl

theorem live?_insert (source : loc.IsSource) (t : TableView ν) (d : Document) (other : Nat) :
    (t.insert d loc).1.live? other =
      if (t.insert d loc).2 = other then some ((EntryView.new loc d).identify d) else t.live? other := by
  have here : ((EntryView.new loc d).identify d).isTombstone = false := by cases source <;> rfl
  unfold live? entryAt?
  rw [(t.row?_insert d loc).1]
  split
  · rw [Option.map_some, LawfulRowView.entry_ofEntry, Option.filter_some, here]
    rfl
  · rfl

omit [LawfulRowView ν] in
/-- A new row is put where none was that is not gone. -/
theorem live?_insert_new (t : TableView ν) (d : Document) (loc : Locality) : t.live? (t.insert d loc).2 = none := by
  refine Option.eq_none_iff_forall_ne_some.2 fun e live => ?_
  obtain ⟨row, found, rfl, here⟩ := live?_eq_some.1 live
  have gone := (t.row?_insert d loc).2 row found
  rw [EntryView.isTombstone, here] at gone
  cases gone

/-! ## Dropping -/

omit [LawfulRowView ν] in
theorem live?_drop_of_ne (different : other ≠ id) (t : TableView ν) (loc : Locality) :
    (t.drop other loc).live? id = t.live? id := by
  refine Option.ext fun e => ?_
  rw [live?_eq_some, live?_eq_some]
  constructor
  · rintro ⟨row, found, same, here⟩
    obtain ⟨-, before⟩ | ⟨same', -⟩ := row?_of_row?_drop found
    · exact ⟨row, before, same, here⟩
    · exact absurd same'.symm different
  · rintro ⟨row, found, rfl, here⟩
    exact ⟨row, row?_drop_of_ne different found here loc, rfl, here⟩

theorem entry_dropRow (row : ν) (loc : Locality) :
    RowView.entry (dropRow row loc) = ((RowView.entry row).dropVersions loc).1 := by
  rw [dropRow, LawfulRowView.entry_release, LawfulRowView.entry_withEntry]

/-- A row that has no version left is gone. -/
theorem live?_drop_self (t : TableView ν) (live : t.live? id = some e) (loc : Locality) :
    (t.drop id loc).live? id = if (e.dropVersions loc).1.locality.hasSource then some (e.dropVersions loc).1 else none := by
  obtain ⟨row, found, rfl, here⟩ := live?_eq_some.1 live
  split
  · next left =>
    exact live?_eq_some.2 ⟨_, row?_drop_self found left, entry_dropRow row loc, EntryView.deleted_dropVersions here loc⟩
  · next nothing =>
    refine Option.eq_none_iff_forall_ne_some.2 fun e live => ?_
    obtain ⟨row', found', rfl, here'⟩ := live?_eq_some.1 live
    rw [drop, found] at found'
    dsimp only at found'
    rw [if_neg nothing] at found'
    obtain ⟨different, -⟩ | ⟨-, rfl⟩ := row?_of_row?_cut found'
    · exact absurd rfl different
    · rw [LawfulRowView.entry_ofEntry] at here'
      cases here'

/-! ## Rows that are gone -/

theorem Tidy.register (h : t.Tidy) (live : t.live? id = some e) (source : loc.IsSource) (d : Document) :
    (t.register id d loc).Tidy := by
  intro other e' found gone
  by_cases same : id = other
  · subst same
    have there : (t.register id d loc).live? id = some (e.register d loc) := by
      rw [live?_register source, if_pos rfl, live]
      rfl
    rw [entryAt?_of_live? there] at found
    cases found
    obtain ⟨row, -, rfl, here⟩ := live?_eq_some.1 live
    rw [EntryView.deleted_register here source d] at gone
    cases gone
  · rw [entryAt?, row?_register, if_neg same] at found
    exact h other e' found gone

theorem Tidy.insert (h : t.Tidy) (source : loc.IsSource) (d : Document) : (t.insert d loc).1.Tidy := by
  intro other e found gone
  rw [entryAt?, (t.row?_insert d loc).1] at found
  split at found
  · rw [Option.map_some, LawfulRowView.entry_ofEntry] at found
    cases found
    cases source <;> cases gone
  · exact h other e found gone

theorem Tidy.drop (h : t.Tidy) (source : loc.IsSource) (id : Nat) : (t.drop id loc).Tidy := by
  intro other e found gone
  obtain ⟨row, there, rfl⟩ := Option.map_eq_some_iff.1 found
  obtain ⟨-, before⟩ | ⟨rfl, row, before, rfl | rfl⟩ := row?_of_row?_drop there
  · exact h other _ (congrArg (Option.map RowView.entry) before) gone
  · rw [entry_dropRow] at gone ⊢
    have gone : (RowView.entry row).locality.deleted = true := by
      cases source <;> simpa [EntryView.dropVersions, Locality.without, apply_ite Locality.deleted] using gone
    have nothing := h other _ (congrArg (Option.map RowView.entry) before) gone
    simp only [Locality.hasSource, Bool.or_eq_false_iff] at nothing ⊢
    simp [EntryView.dropVersions, Locality.without, nothing]
  · rw [LawfulRowView.entry_ofEntry]
    rfl

end TableView

end EditorBundles.Catalog
