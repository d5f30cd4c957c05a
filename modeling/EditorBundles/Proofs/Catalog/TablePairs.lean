import EditorBundles.Proofs.Catalog.OwnVersions

/-!
# Tables side by side

Two tables that have the same entries in their rows, and more in them that differs, are changed alike: a change that
looks at entries alone finds the same row in both, and what holds of each two rows then is known from what held before.
-/

namespace EditorBundles.Catalog
set_option autoImplicit false
open PropertyList

namespace TableView

section
variable {ν : Type} {R R' : Nat → ν → ν → Prop} {t u : TableView ν} {id : Nat} {row row' : ν}

/-- Tables of one size, of which something holds row by row. -/
structure Beside (R : Nat → ν → ν → Prop) (t u : TableView ν) : Prop where
  size : t.size = u.size
  rows : ∀ id row row', t.row? id = some row → u.row? id = some row' → R id row row'

theorem lt_of_row? (found : t.row? id = some row) : id < t.size := (List.getElem?_eq_some_iff.1 found).1

theorem exists_row? (inside : id < t.size) : ∃ row, t.row? id = some row := ⟨_, List.getElem?_eq_getElem inside⟩

theorem beside_refl (same : ∀ id row, t.row? id = some row → R id row row) : Beside R t t := by
  refine ⟨rfl, fun id row row' found found' => ?_⟩
  rw [found] at found'
  cases found'
  exact same id row found

theorem Beside.mono (h : Beside R t u)
    (later : ∀ id row row', u.row? id = some row' → R id row row' → R' id row row') : Beside R' t u :=
  ⟨h.size, fun id row row' found found' => later id row row' found' (h.rows id row row' found found')⟩

theorem Beside.row? (h : Beside R t u) (found : u.row? id = some row') : ∃ row, t.row? id = some row ∧ R id row row' := by
  obtain ⟨row, there⟩ := exists_row? (h.size ▸ lt_of_row? found)
  exact ⟨row, there, h.rows id row row' there found⟩

theorem Beside.row?_eq_none (h : Beside R t u) (missing : u.row? id = none) : t.row? id = none := by
  cases found : t.row? id with
  | none => rfl
  | some row =>
    obtain ⟨row', there⟩ := exists_row? (h.size ▸ lt_of_row? found)
    rw [missing] at there
    cases there

/-- Two tables beside a third one are beside each other. -/
theorem Beside.through {t' : TableView ν} (h : Beside R t u) (h' : Beside R' t' u) :
    Beside (fun id row row' => ∃ between, u.row? id = some between ∧ R id row between ∧ R' id row' between) t t' := by
  refine ⟨h.size.trans h'.size.symm, fun id row row' found found' => ?_⟩
  obtain ⟨between, there⟩ := exists_row? (h.size ▸ lt_of_row? found)
  exact ⟨between, there, h.rows id row between found there, h'.rows id row' between found' there⟩

/-- What is the same in each two rows is the same in the lists of rows. -/
theorem Beside.map_rows {α : Type} {f : ν → α} (h : Beside R t u) (same : ∀ id row row', R id row row' → f row = f row') :
    t.rows.map f = u.rows.map f := by
  refine List.ext_getElem (by rw [List.length_map, List.length_map]; exact h.size) fun id inside inside' => ?_
  rw [List.length_map] at inside inside'
  rw [List.getElem_map, List.getElem_map]
  exact same id _ _ (h.rows id _ _ (List.getElem?_eq_getElem inside) (List.getElem?_eq_getElem inside'))

theorem Beside.eq (h : Beside (fun _ row row' => row = row') t u) : t = u := by
  refine ext_row? fun id => ?_
  cases found : u.row? id with
  | none => exact h.row?_eq_none found
  | some row' =>
    obtain ⟨row, there, rfl⟩ := h.row? found
    exact there

theorem size_modifyRow (t : TableView ν) (id : Nat) (change : ν → ν) : (t.modifyRow id change).size = t.size :=
  List.length_modify change t.rows id

theorem modifyRow_modifyRow (t : TableView ν) (id : Nat) (first second : ν → ν) :
    (t.modifyRow id first).modifyRow id second = t.modifyRow id fun row => second (first row) := by
  refine ext_row? fun other => ?_
  rw [row?_modifyRow, row?_modifyRow, row?_modifyRow]
  split
  · exact Option.map_map _ _ _
  · rfl

theorem modifyRow_id (t : TableView ν) (id : Nat) : t.modifyRow id (fun row => row) = t := by
  refine ext_row? fun other => ?_
  rw [row?_modifyRow]
  split
  · exact Option.map_id'
  · rfl

theorem size_setRow (t : TableView ν) (id : Nat) (row : ν) : (t.setRow id row).size = t.size := List.length_set

/-- A row is changed in both tables. -/
theorem Beside.modifyRow {change change' : ν → ν} (h : Beside R t u)
    (others : ∀ other row row', u.row? other = some row' → other ≠ id → R other row row' → R' other row row')
    (self : ∀ row row', u.row? id = some row' → R id row row' → R' id (change row) (change' row')) :
    Beside R' (t.modifyRow id change) (u.modifyRow id change') := by
  refine ⟨by rw [size_modifyRow, size_modifyRow, h.size], fun other row row' found found' => ?_⟩
  rw [row?_modifyRow] at found found'
  by_cases same : id = other
  · subst same
    rw [if_pos rfl] at found found'
    obtain ⟨row, there, rfl⟩ := Option.map_eq_some_iff.1 found
    obtain ⟨row', there', rfl⟩ := Option.map_eq_some_iff.1 found'
    exact self row row' there' (h.rows id row row' there there')
  · rw [if_neg same] at found found'
    exact others other row row' found' (Ne.symm same) (h.rows other row row' found found')

/-- A row is changed in the first table alone. -/
theorem Beside.modifyLeft {change : ν → ν} (h : Beside R t u)
    (others : ∀ other row row', u.row? other = some row' → other ≠ id → R other row row' → R' other row row')
    (self : ∀ row row', u.row? id = some row' → R id row row' → R' id (change row) row') :
    Beside R' (t.modifyRow id change) u := by
  rw [← modifyRow_id u id]
  exact h.modifyRow others self

/-- A row is put in both tables. -/
theorem Beside.setRow (h : Beside R t u)
    (others : ∀ other row row', u.row? other = some row' → other ≠ id → R other row row' → R' other row row')
    (self : R' id row row') : Beside R' (t.setRow id row) (u.setRow id row') := by
  refine ⟨by rw [size_setRow, size_setRow, h.size], fun other there there' found found' => ?_⟩
  rw [row?_setRow] at found found'
  by_cases same : id = other
  · subst same
    rw [if_pos rfl] at found found'
    obtain ⟨-, -, rfl⟩ := Option.map_eq_some_iff.1 found
    obtain ⟨-, -, rfl⟩ := Option.map_eq_some_iff.1 found'
    exact self
  · rw [if_neg same] at found found'
    exact others other there there' found' (Ne.symm same) (h.rows other there there' found found')

end

section
variable {ν : Type} [RowView ν] {R R' : Nat → ν → ν → Prop} {t u : TableView ν} {id : Nat} {row row' : ν}
  {loc : Locality}

theorem map_trimRows (rows : List ν) : (trimRows rows).map RowView.entry = trimRows (rows.map RowView.entry) := by
  rw [trimRows, trimRows, ← List.map_reverse, List.dropWhile_map, List.map_reverse]
  rfl

/-- How many rows are left when one is taken out depends on the entries alone. -/
theorem size_cut_eq (entries : t.rows.map RowView.entry = u.rows.map RowView.entry) (id : Nat) :
    (t.cut id).size = (u.cut id).size := by
  have size : t.size = u.size := by simpa [TableView.size] using congrArg List.length entries
  rw [cut, cut, size]
  split
  · have trimmed : (trimRows (t.rows.take id)).map RowView.entry = (trimRows (u.rows.take id)).map RowView.entry := by
      rw [map_trimRows, map_trimRows, List.map_take, List.map_take, entries]
    simpa [TableView.size] using congrArg List.length trimmed
  · rw [size_setRow, size_setRow, size]

/-- A row is taken out of both tables. -/
theorem Beside.cut (h : Beside R t u) (same : ∀ id row row', R id row row' → RowView.entry row = RowView.entry row')
    (others : ∀ other row row', u.row? other = some row' → other ≠ id → R other row row' → R' other row row')
    (gone : R' id (RowView.ofEntry EntryView.tombstone) (RowView.ofEntry EntryView.tombstone)) :
    Beside R' (t.cut id) (u.cut id) := by
  refine ⟨size_cut_eq (h.map_rows same) id, fun other row row' found found' => ?_⟩
  rcases row?_of_row?_cut found with ⟨different, there⟩ | ⟨rfl, rfl⟩
  · rcases row?_of_row?_cut found' with ⟨-, there'⟩ | ⟨rfl, -⟩
    · exact others other row row' there' different (h.rows other row row' there there')
    · exact absurd rfl different
  · rcases row?_of_row?_cut found' with ⟨different, -⟩ | ⟨-, rfl⟩
    · exact absurd rfl different
    · exact gone

/-- Versions of a row are dropped from both tables. -/
theorem Beside.drop (h : Beside R t u) (same : ∀ id row row', R id row row' → RowView.entry row = RowView.entry row')
    (others : ∀ other row row', u.row? other = some row' → other ≠ id → R other row row' → R' other row row')
    (self : ∀ row row', u.row? id = some row' → R id row row' → R' id (dropRow row loc) (dropRow row' loc))
    (gone : R' id (RowView.ofEntry EntryView.tombstone) (RowView.ofEntry EntryView.tombstone)) :
    Beside R' (t.drop id loc) (u.drop id loc) := by
  rw [TableView.drop, TableView.drop]
  cases found : u.row? id with
  | none =>
    rw [h.row?_eq_none found]
    refine h.mono fun other row row' there => others other row row' there ?_
    rintro rfl
    rw [found] at there
    cases there
  | some row' =>
    obtain ⟨row, there, related⟩ := h.row? found
    rw [there]
    dsimp only
    rw [same id row row' related]
    split
    · exact h.setRow others (self row row' found related)
    · exact h.cut same others gone

/-- A row is added to both tables. -/
theorem Beside.insert (h : Beside R t u) (same : ∀ id row row', R id row row' → RowView.entry row = RowView.entry row')
    (d : Document) (loc : Locality)
    (others : ∀ other row row', u.row? other = some row' → other ≠ (u.insert d loc).2 → R other row row' → R' other row row')
    (new : R' (u.insert d loc).2 (RowView.ofEntry ((EntryView.new loc d).identify d))
      (RowView.ofEntry ((EntryView.new loc d).identify d))) :
    Beside R' (t.insert d loc).1 (u.insert d loc).1 ∧ (t.insert d loc).2 = (u.insert d loc).2 := by
  have place : t.rows.findIdx? (fun row => (RowView.entry row).isTombstone) =
      u.rows.findIdx? fun row => (RowView.entry row).isTombstone := by
    have entries := congrArg (List.findIdx? EntryView.isTombstone) (h.map_rows same)
    rwa [List.findIdx?_map, List.findIdx?_map] at entries
  have size : (t.insert d loc).1.size = (u.insert d loc).1.size ∧ (t.insert d loc).2 = (u.insert d loc).2 := by
    rw [TableView.insert, TableView.insert, place]
    cases u.rows.findIdx? fun row => (RowView.entry row).isTombstone with
    | some id => exact ⟨by rw [size_setRow, size_setRow, h.size], rfl⟩
    | none =>
      have size : t.rows.length = u.rows.length := h.size
      exact ⟨by simp [TableView.size, size], size⟩
  refine ⟨⟨size.1, fun other row row' found found' => ?_⟩, size.2⟩
  rw [(t.row?_insert d loc).1, size.2] at found
  rw [(u.row?_insert d loc).1] at found'
  split at found
  · next here =>
    rw [if_pos here] at found'
    cases found
    cases found'
    exact here ▸ new
  · next apart =>
    rw [if_neg apart] at found'
    exact others other row row' found' (Ne.symm apart) (h.rows other row row' found found')

end
end TableView
end EditorBundles.Catalog
