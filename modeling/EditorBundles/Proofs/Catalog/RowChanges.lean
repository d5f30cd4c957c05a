import EditorBundles.Proofs.Catalog.Precedence

/-!
# What becomes of rows

Whatever is done to a table, each of its rows afterwards was born by that, as a new row or as the mark of one that is
gone, or it was there before and has become what it is. What the rows that are born have in common, and what becomes of
the others, is looked at operation by operation; a scan of a directory is made of some of them.
-/

namespace EditorBundles.Catalog
set_option autoImplicit false
open PropertyList

/-- The entry with a document as its version at a locality. -/
def Entry.registered (e : Entry) (doc : Nat) (loc : Locality) (d : Document) : Entry :=
  if loc.own then { e with ownDoc := some doc, locality := e.locality.union loc }.identify d
  else if loc = { pristine := true } ∧ e.locality.installed then
    { e with shadowedFile := some d.filename, locality := e.locality.union loc }
  else { e with factoryDoc := some doc, locality := e.locality.union loc }.identify d

theorem Entry.locality_registered (e : Entry) (doc : Nat) (loc : Locality) (d : Document) :
    (e.registered doc loc d).locality = e.locality.union loc := by
  unfold Entry.registered
  split
  · rfl
  · split <;> rfl

namespace EntryTable

variable {ρ : Type} [Row ρ] {born : ρ → Prop} {become : ρ → ρ → Prop} {t t' t'' : EntryTable ρ}
  {docs docs' : DocumentTable} {id doc : Nat} {row row' : ρ} {e : Entry} {loc : Locality}

/-- A row without the versions of some localities, in its entry and in its tables. -/
def dropRow (row : ρ) (loc : Locality) (docs : DocumentTable) : ρ :=
  (Row.release (dropVersions (Row.entry row) loc).2.1 (Row.withEntry row (dropVersions (Row.entry row) loc).1) docs).1

@[simp] theorem entry_dropRow (row : ρ) (loc : Locality) (docs : DocumentTable) :
    Row.entry (dropRow row loc docs) = (dropVersions (Row.entry row) loc).1 := by
  rw [dropRow, Row.entry_release, Row.entry_withEntry]

/-- Each row of a table was born, or it was there before and has become what it is. -/
def Alters (born : ρ → Prop) (become : ρ → ρ → Prop) (t t' : EntryTable ρ) : Prop :=
  ∀ id row', t'.row? id = some row' → born row' ∨ ∃ row, t.row? id = some row ∧ (row' = row ∨ become row row')

/-- What is born and what rows become can be told of many operations as of one. -/
structure Evolves (born : ρ → Prop) (become : ρ → ρ → Prop) : Prop where
  mark : born (Row.ofEntry Entry.tombstone)
  after : ∀ {row row'}, born row → become row row' → born row'
  trans : ∀ {row row' row''}, become row row' → become row' row'' → become row row''

omit [Row ρ] in
theorem Alters.refl (t : EntryTable ρ) : Alters born become t t := fun _ row found => .inr ⟨row, found, .inl rfl⟩

theorem Alters.trans (first : Alters born become t t') (evolves : Evolves born become) (second : Alters born become t' t'') :
    Alters born become t t'' := by
  intro id row'' found
  rcases second id row'' found with new | ⟨row', found, same⟩
  · exact .inl new
  · rcases first id row' found with new | ⟨row, found, same'⟩
    · rcases same with rfl | become
      · exact .inl new
      · exact .inl (evolves.after new become)
    · refine .inr ⟨row, found, ?_⟩
      rcases same with rfl | later
      · exact same'
      · rcases same' with rfl | sooner
        · exact .inr later
        · exact .inr (evolves.trans sooner later)

/-- Rows that have something in common are followed as long as what becomes of them has it, too. -/
theorem evolves_keeps {P : ρ → Prop} (mark : P (Row.ofEntry Entry.tombstone)) :
    Evolves P fun row row' => P row → P row' where
  mark := mark
  after first later := later first
  trans first later := later ∘ first

omit [Row ρ] in
/-- What rows are born with and what they keep, all rows have if they had it before. -/
theorem Alters.all_rows {P : ρ → Prop} (alters : Alters P (fun row row' => P row → P row') t t')
    (h : ∀ row ∈ t.rows, P row) : ∀ row ∈ t'.rows, P row := by
  intro row' member
  obtain ⟨id, found⟩ := List.mem_iff_getElem?.1 member
  rcases alters id row' found with new | ⟨row, before, rfl | stays⟩
  · exact new
  · exact h row' (mem_of_row? before)
  · exact stays (h row (mem_of_row? before))

/-! ## One row -/

omit [Row ρ] in
theorem alters_setRow (found : t.row? id = some row) (changed : become row row') : Alters born become t (t.setRow id row') := by
  intro other row'' found'
  by_cases same : other = id
  · subst same
    rw [row?_setRow_self (lt_of_row? found)] at found'
    exact .inr ⟨row, found, .inr (Option.some.inj found' ▸ changed)⟩
  · rw [row?_setRow_of_ne t same] at found'
    exact .inr ⟨row'', found', .inl rfl⟩

theorem alters_modifyEntry {change : Entry → Entry}
    (changed : ∀ row, t.row? id = some row → become row (Row.withEntry row (change (Row.entry row)))) :
    Alters born become t (t.modifyEntry id change) := by
  cases found : t.row? id with
  | none =>
    have absent : t.rows[id]? = none := found
    have same : t.modifyEntry id change = t := by
      rw [modifyEntry, List.modify_eq_set_getElem?, absent]
      rfl
    rw [same]
    exact .refl t
  | some row =>
    rw [modifyEntry_eq found]
    exact alters_setRow found (changed row found)

theorem alters_cut (mark : born (Row.ofEntry Entry.tombstone)) (t : EntryTable ρ) (id : Nat) :
    Alters born become t (t.cut id) := by
  intro other row found
  rcases row?_cut found with rfl | ⟨-, before⟩
  · exact .inl mark
  · exact .inr ⟨row, before, .inl rfl⟩

/-! ## Operations -/

theorem alters_insert (new : born (Row.ofEntry ((Entry.new loc doc).identify (docs.get doc)))) (t : EntryTable ρ) :
    Alters born become t (t.insert doc loc docs).1 := by
  intro other row found
  rw [row?_insert] at found
  split at found
  · exact .inl (Option.some.inj found ▸ new)
  · exact .inr ⟨row, found, .inl rfl⟩

/-- What becomes of a table when a document is recorded. -/
theorem fst_register (found : t.row? id = some row) (doc : Nat) (loc : Locality) (docs : DocumentTable) :
    (t.register id doc loc docs).1 =
      t.setRow id (Row.withEntry row ((Row.entry row).registered doc loc (docs.get doc))) := by
  rw [register, entryAt?, found]
  dsimp only [Option.map_some]
  unfold Entry.registered
  split
  · dsimp only
    rw [modifyEntry_eq found]
  · split <;> dsimp only <;> rw [modifyEntry_eq found]

theorem alters_register
    (changed : ∀ row, t.row? id = some row →
      become row (Row.withEntry row ((Row.entry row).registered doc loc (docs.get doc)))) :
    Alters born become t (t.register id doc loc docs).1 := by
  cases found : t.row? id with
  | none =>
    rw [register, entryAt?, found]
    exact .refl t
  | some row =>
    rw [fst_register found]
    exact alters_setRow found (changed row found)

theorem alters_editable? {own : Nat} (edited : t.editable? id docs = some (t', docs', own))
    (changed : ∀ row source, t.row? id = some row → (Row.entry row).factoryDoc = some source →
      docs.copy source = (docs', own) → become row (Row.withEntry row
        { Row.entry row with ownDoc := some own, locality := { (Row.entry row).locality with own := true } })) :
    Alters born become t t' := by
  obtain ⟨e, found, ⟨-, -, rfl, -⟩ | ⟨source, named, copied, rfl⟩⟩ := editable?_cases edited
  · exact .refl t'
  · obtain ⟨row, place, rfl⟩ := row?_of_entryAt? found
    refine alters_modifyEntry fun row' place' => ?_
    obtain rfl := Option.some.inj (place.symm.trans place')
    exact changed row source place named copied

theorem alters_drop (mark : born (Row.ofEntry Entry.tombstone))
    (changed : ∀ row docs', t.row? id = some row → (dropVersions (Row.entry row) loc).1.locality.hasSource = true →
      become row (dropRow row loc docs')) : Alters born become t (t.drop id loc docs).1 := by
  rw [drop]
  cases found : t.row? id with
  | none => exact .refl t
  | some row =>
    dsimp only
    split
    · next left => exact alters_setRow found (changed row _ found left)
    · dsimp only
      rw [fst_removeRow (row?_setRow_self (lt_of_row? found) _), cut_setRow]
      exact alters_cut mark t id

theorem alters_dropWhere (evolves : Evolves born become)
    (changed : ∀ row docs', (dropVersions (Row.entry row) loc).1.locality.hasSource = true →
      become row (dropRow row loc docs'))
    (p : Entry → DocumentTable → Bool) (t : EntryTable ρ) (docs : DocumentTable) (ids : List Nat) :
    Alters born become t (dropWhere p loc t docs ids).1 := by
  induction ids generalizing t docs with
  | nil => exact .refl t
  | cons id ids ih =>
    rw [dropWhere]
    split
    · exact (alters_drop evolves.mark fun row docs' _ => changed row docs').trans evolves (ih _ _)
    · exact ih t docs

theorem alters_delete {dir : String} {fs fs' : FileSystem} (mark : born (Row.ofEntry Entry.tombstone))
    (changed : ∀ row, t.row? id = some row → (Row.entry row).disowned.locality.isFactory = true →
      become row (Row.withEntry row { (Row.entry row).disowned with
        locality := { (Row.entry row).disowned.locality with disabled := true } }))
    (deleted : t.delete id dir docs fs = .ok (t', docs', fs')) : Alters born become t t' := by
  cases found : t.row? id with
  | none =>
    rw [delete, entryAt?, found] at deleted
    obtain ⟨rfl, -⟩ := Prod.mk.inj (Except.ok.inj deleted)
    exact .refl t
  | some row =>
    obtain ⟨docs₁, -, ⟨factory, -, rfl⟩ | ⟨-, removed⟩⟩ := delete_cases (congrArg (Option.map Row.entry) found) deleted
    · rw [modifyEntry_eq found]
      exact alters_setRow found (changed row found factory)
    · rw [modifyEntry_eq found] at removed
      have left : t' = _ := congrArg Prod.fst removed
      rw [left, fst_removeRow (row?_setRow_self (lt_of_row? found) _), cut_setRow]
      exact alters_cut mark t id

theorem alters_restore
    (changed : ∀ row, t.row? id = some row → (Row.entry row).locality.isFactory = true →
      become row (Row.withEntry row
        { Row.entry row with locality := { (Row.entry row).locality with disabled := false } })) :
    Alters born become t (t.restore id).1 := by
  rw [restore]
  cases found : t.entryAt? id with
  | none => exact .refl t
  | some e =>
    dsimp only
    split
    · next hidden =>
      refine alters_modifyEntry fun row place => changed row place ?_
      rw [entryAt?, place] at found
      obtain rfl := Option.some.inj found
      exact (Bool.and_eq_true_iff.1 hidden).2
    · exact .refl t

/-! ## Scans of directories -/

/-- A scan of a directory drops versions, records documents and adds rows for new ones, all at one locality. -/
theorem alters_sync (evolves : Evolves born become)
    (new : ∀ doc d, born (Row.ofEntry ((Entry.new loc doc).identify d)))
    (registered : ∀ row doc d, become row (Row.withEntry row ((Row.entry row).registered doc loc d)))
    (dropped : ∀ row docs', (dropVersions (Row.entry row) loc).1.locality.hasSource = true →
      become row (dropRow row loc docs'))
    (t : EntryTable ρ) (docs : DocumentTable) (fs : FileSystem) (dir extension : String) :
    Alters born become t (t.sync docs fs dir loc extension).1 := by
  have drops (t : EntryTable ρ) (docs : DocumentTable) (id : Nat) : Alters born become t (t.drop id loc docs).1 :=
    alters_drop evolves.mark fun row docs' _ => dropped row docs'
  have records (t : EntryTable ρ) (docs : DocumentTable) (id doc : Nat) :
      Alters born become t (t.register id doc loc docs).1 := alters_register fun row _ => registered row doc _
  have missing (files : List String) (t : EntryTable ρ) (docs : DocumentTable) (ids : List Nat) :
      Alters born become t (dropMissing loc files t docs ids).1 := by
    induction ids generalizing t docs with
    | nil => exact .refl t
    | cons id ids ih =>
      rw [dropMissing]
      split
      · exact (drops t docs id).trans evolves (ih _ _)
      · exact ih t docs
  have changed (files : List String) (t : EntryTable ρ) (docs : DocumentTable) (ids : List Nat) :
      Alters born become t (reloadChanged fs dir loc files t docs ids).1 := by
    induction ids generalizing t docs files with
    | nil => exact .refl t
    | cons id ids ih =>
      rw [reloadChanged]
      split
      · exact ih files t docs
      · dsimp only
        split
        · split
          · exact (records t _ id _).trans evolves (ih _ _ _)
          · exact (drops t docs id).trans evolves (ih _ _ _)
        · exact ih _ t docs
  have added (files : List String) (t : EntryTable ρ) (docs : DocumentTable) :
      Alters born become t (addNew fs dir loc t docs files).1 := by
    induction files generalizing t docs with
    | nil => exact .refl t
    | cons filename files ih =>
      rw [addNew]
      split
      · exact ih t docs
      · split
        · exact (records t _ _ _).trans evolves (ih _ _)
        · exact (alters_insert (new _ _) t).trans evolves (ih _ _)
  rw [sync]
  split
  · dsimp only
    exact ((missing _ t docs _).trans evolves (changed _ _ _ _)).trans evolves (added _ _ _)
  · exact alters_dropWhere evolves dropped _ t docs _

end EntryTable

end EditorBundles.Catalog
