import EditorBundles.Proofs.Catalog.OwnVersions

/-!
# Steady rows

A row is steady under a scan of a directory if its version there stays as it is anyway or is in a file that is listed and
has the time of its document. The first two rounds of a scan leave a steady row as it is, and a new file in the directory
can give it another version at most: its flags stay but for the one of the directory.
-/

namespace EditorBundles.Catalog
set_option autoImplicit false
open PropertyList

variable {fs : FileSystem} {dir : String} {loc : Locality} {files : List String}

namespace EntryView

variable {e e' : EntryView} {d : Document}

/-- The version that an entry has at a locality. -/
def tracked? (e : EntryView) (loc : Locality) : Option TrackedView :=
  if e.locality.contains loc then
    (e.version loc).map fun document =>
      let shadowed := loc = { pristine := true } && e.locality.installed
      { document
        filename := if shadowed then e.shadowedFile.getD document.filename else document.filename
        fixed := shadowed || (loc = { own := true } && e.hasUnsavedOwn) }
  else none

theorem meets_dropVersions (e : EntryView) (loc : Locality) : (e.dropVersions loc).1.locality.meets loc = false := by
  cases installed : e.locality.installed <;> cases factory : loc.installed <;>
    simp [dropVersions, Locality.without, Locality.meets, installed, factory]

/-- The version of an entry at a locality stays as it is, or it is in a file of a list that has not changed. -/
def Steady (fs : FileSystem) (dir : String) (loc : Locality) (files : List String) (e : EntryView) : Prop :=
  ∀ v, e.tracked? loc = some v → v.fixed = true ∨
    v.filename ∈ files ∧ EntryTable.hasChanged fs (Path.join dir v.filename) v.document = false

/-- An entry has the flags that another one had, and the flag of a locality perhaps. -/
def Gains (loc : Locality) (e e' : EntryView) : Prop :=
  e'.locality = e.locality ∨ e'.locality = e.locality.union loc

theorem Gains.refl (loc : Locality) (e : EntryView) : e.Gains loc e := .inl rfl

theorem gains_register (e : EntryView) (d : Document) (loc : Locality) : e.Gains loc (e.register d loc) := by
  refine .inr ?_
  unfold register
  split
  · rfl
  · split <;> rfl

theorem Gains.trans {e'' : EntryView} (first : e.Gains loc e') (later : e'.Gains loc e'') : e.Gains loc e'' := by
  have again : (e.locality.union loc).union loc = e.locality.union loc := by
    simp [Locality.union, UInt32.or_assoc]
  rcases first with first | first <;> rcases later with later | later
  · exact .inl (later.trans first)
  · exact .inr (later.trans (first ▸ rfl))
  · exact .inr (later.trans first)
  · refine .inr (later.trans ?_)
    rw [first, again]

theorem Gains.deleted (h : e.Gains loc e') (source : loc.IsSource) : e'.locality.deleted = e.locality.deleted := by
  rcases h with same | same
  · rw [same]
  · rw [same]
    cases source <;> exact Bool.or_false _

end EntryView

namespace TableView

variable {ν : Type} [RowView ν] {t : TableView ν} {id other : Nat} {row : ν}

theorem tracked?_eq (t : TableView ν) (loc : Locality) (id : Nat) :
    t.tracked? loc id = (t.entryAt? id).bind fun e => e.tracked? loc := by
  rw [tracked?]
  cases t.entryAt? id with
  | none => rfl
  | some e =>
    simp only [Option.bind_eq_bind, Option.bind_some, EntryView.tracked?]
    split
    · cases e.version loc <;> rfl
    · rfl

theorem tracked?_of_row? (found : t.row? id = some row) (loc : Locality) :
    t.tracked? loc id = (RowView.entry row).tracked? loc := by
  rw [tracked?_eq, entryAt?, found, Option.map_some, Option.bind_some]

/-- A steady row is there when the versions in missing files have been dropped. -/
theorem row?_dropMissing (found : t.row? id = some row) (here : (RowView.entry row).locality.deleted = false)
    (steady : (RowView.entry row).Steady fs dir loc files) (ids : List Nat) :
    (dropMissing loc files t ids).row? id = some row := by
  induction ids generalizing t with
  | nil => exact found
  | cons other ids ih =>
    rw [dropMissing]
    split
    · next missing =>
      refine ih (row?_drop_of_ne ?_ found here loc)
      rintro rfl
      obtain ⟨v, tracked, gone⟩ := (Option.any_eq_true _ _).1 missing
      rw [tracked?_of_row? found] at tracked
      rw [Bool.and_eq_true, Bool.not_eq_true', Bool.not_eq_true'] at gone
      rcases steady v tracked with fixed | ⟨member, -⟩
      · exact Bool.noConfusion (fixed.symm.trans gone.2)
      · rw [← List.contains_iff_mem, gone.1] at member
        cases member
    · exact ih found

/-- A steady row is there when changed files have been read again. -/
theorem row?_reloadChanged (found : t.row? id = some row) (here : (RowView.entry row).locality.deleted = false)
    (steady : (RowView.entry row).Steady fs dir loc files) (left : List String) (ids : List Nat) :
    (reloadChanged fs dir loc left t ids).1.row? id = some row := by
  induction ids generalizing t left with
  | nil => exact found
  | cons other ids ih =>
    rw [reloadChanged]
    split
    · exact ih found left
    · next v chosen =>
      obtain ⟨tracked, -⟩ := Option.filter_eq_some_iff.1 chosen
      dsimp only
      split
      · next changed =>
        have different : other ≠ id := by
          rintro rfl
          rw [tracked?_of_row? found] at tracked
          rw [Bool.and_eq_true, Bool.not_eq_true'] at changed
          rcases steady v tracked with fixed | ⟨-, same⟩
          · exact Bool.noConfusion (fixed.symm.trans changed.2)
          · exact Bool.noConfusion (same.symm.trans changed.1)
        split
        · refine ih ?_ _
          rw [row?_register, if_neg different, found]
        · exact ih (row?_drop_of_ne different found here loc) _
      · exact ih found _

/-- A row that is there when new files are added is there afterwards. -/
theorem row?_addNew [LawfulRowView ν] (found : t.row? id = some row) (here : (RowView.entry row).locality.deleted = false)
    (source : loc.IsSource) (fs : FileSystem) (dir : String) (files : List String) :
    ∃ row', (addNew fs dir loc t files).row? id = some row' ∧ (RowView.entry row).Gains loc (RowView.entry row') := by
  induction files generalizing t row with
  | nil => exact ⟨row, found, .refl loc _⟩
  | cons name files ih =>
    rw [addNew]
    split
    · exact ih found here
    · next fresh _ =>
      split
      · next other _ =>
        by_cases same : other = id
        · have gains := (RowView.entry row).gains_register fresh loc
          have registered := row?_register t other id fresh loc
          rw [if_pos same, found, Option.map_some] at registered
          rw [← LawfulRowView.entry_withEntry row ((RowView.entry row).register fresh loc)] at gains
          obtain ⟨row', there, later⟩ := ih registered ((gains.deleted source).trans here)
          exact ⟨row', there, gains.trans later⟩
        · refine ih ?_ here
          rw [row?_register, if_neg same, found]
      · exact ih (row?_insert_of_row? found here fresh loc) here

/-- A steady row is there when a table has been brought in line with a directory. -/
theorem row?_sync [LawfulRowView ν] {extension : String} (isDir : fs.isDirectory dir = true) (found : t.row? id = some row)
    (here : (RowView.entry row).locality.deleted = false) (source : loc.IsSource)
    (steady : (RowView.entry row).Steady fs dir loc (versionFiles fs dir extension)) :
    ∃ row', (t.sync fs dir loc extension).row? id = some row' ∧ (RowView.entry row).Gains loc (RowView.entry row') := by
  rw [sync, if_pos isDir]
  have kept := row?_dropMissing found here steady (List.range t.size)
  exact row?_addNew (row?_reloadChanged kept here steady _ _) here source fs dir _

/-- No row is left that versions were to be dropped from, if no entry is one of these without them. -/
theorem eq_false_of_dropWhere [LawfulRowView ν] {p : EntryView → Bool}
    (dropped : ∀ e : EntryView, p (e.dropVersions loc).1 = false) (gone : p EntryView.tombstone = false)
    (found : (dropWhere p loc t (List.range t.size)).row? id = some row) : p (RowView.entry row) = false := by
  have left {t' : TableView ν} {ids : List Nat} (found : (dropWhere p loc t' ids).row? id = some row) :
      p (RowView.entry row) = false ∨ id ∉ ids ∧ t'.row? id = some row := by
    induction ids generalizing t' with
    | nil => exact .inr ⟨List.not_mem_nil, found⟩
    | cons other ids ih =>
      rw [dropWhere] at found
      split at found
      · rcases ih found with none_ | ⟨late, there⟩
        · exact .inl none_
        rcases row?_of_row?_drop there with ⟨different, there⟩ | ⟨rfl, before, -, rfl | rfl⟩
        · exact .inr ⟨fun member => (List.mem_cons.1 member).elim different late, there⟩
        · refine .inl ?_
          rw [dropRow, LawfulRowView.entry_release, LawfulRowView.entry_withEntry]
          exact dropped _
        · refine .inl ?_
          rw [LawfulRowView.entry_ofEntry]
          exact gone
      · next spared =>
        rcases ih found with none_ | ⟨late, there⟩
        · exact .inl none_
        by_cases same : id = other
        · subst same
          rw [entryAt?, there, Option.map_some, Option.any_some] at spared
          exact .inl (Bool.not_eq_true _ ▸ spared)
        · exact .inr ⟨fun member => (List.mem_cons.1 member).elim same late, there⟩
  rcases left found with none_ | ⟨late, there⟩
  · exact none_
  · exact absurd (List.mem_range.2 (List.getElem?_eq_some_iff.1 there).1) late

end TableView

end EditorBundles.Catalog
