import EditorBundles.Proofs.Catalog.Held
import EditorBundles.Proofs.Catalog.Views

/-!
# Own versions through scans of a directory

A scan of a directory with factory versions leaves every version of the user's own as it is. A scan of the user's own
directory leaves those that no file holds yet, unless a new file in it writes their identity: then the document in
the file takes their place.
-/

namespace EditorBundles.Catalog
set_option autoImplicit false
open PropertyList

/-- Rows that give back what was put in them last. -/
class LawfulRowView (ν : Type) [RowView ν] : Prop where
  entry_withEntry : ∀ (row : ν) (e : EntryView), RowView.entry (RowView.withEntry row e) = e
  entry_ofEntry : ∀ e : EntryView, RowView.entry (RowView.ofEntry e : ν) = e
  entry_release : ∀ (loc : Locality) (row : ν), RowView.entry (RowView.release loc row) = RowView.entry row

attribute [simp] LawfulRowView.entry_withEntry LawfulRowView.entry_ofEntry LawfulRowView.entry_release

instance : LawfulRowView EntryView := ⟨fun _ _ => rfl, fun _ => rfl, fun _ _ => rfl⟩

instance : LawfulRowView BundleView := ⟨fun _ _ => rfl, fun _ => rfl, fun _ _ => rfl⟩

/-! ## Entries -/

/-- A source shares a flag just with the sets that it is in. -/
theorem Locality.IsSource.contains_of_meets {loc s : Locality} (source : loc.IsSource) (meets : s.meets loc = true) :
    s.contains loc = true := by
  cases source <;> simpa [Locality.meets, Locality.contains] using meets

namespace EntryView

variable {e : EntryView} {d x : Document} {loc : Locality}

theorem deleted_register_eq (source : loc.IsSource) (e : EntryView) (d : Document) :
    (e.register d loc).locality.deleted = e.locality.deleted := by
  cases source <;> simp [register, identify, Locality.union, apply_ite EntryView.locality]

theorem deleted_register (here : e.locality.deleted = false) (source : loc.IsSource) (d : Document) :
    (e.register d loc).locality.deleted = false := (deleted_register_eq source e d).trans here

theorem deleted_dropVersions (here : e.locality.deleted = false) (loc : Locality) :
    (e.dropVersions loc).1.locality.deleted = false := by
  simp [dropVersions, Locality.without, here]

theorem own_register (source : loc.IsSource) (factory : loc.own = false) (d : Document) :
    (e.register d loc).locality.own = e.locality.own := by
  cases source with
  | own => cases factory
  | _ => simp [register, identify, Locality.union, apply_ite EntryView.locality]

theorem own_dropVersions (factory : loc.own = false) : (e.dropVersions loc).1.locality.own = e.locality.own := by
  simp [dropVersions, Locality.without, apply_ite Locality.own, factory]

/-- The user's own version of an entry is a document. -/
structure Owns (e : EntryView) (d : Document) : Prop where
  here : e.locality.deleted = false
  flag : e.locality.own = true
  version : e.own = some d

/-- An own version that no file holds yet. -/
theorem Owns.hasUnsavedOwn (h : e.Owns d) (unsaved : d.modTime = 0) : e.hasUnsavedOwn = true := by
  simp [EntryView.hasUnsavedOwn, h.flag, h.version, unsaved]

theorem Owns.register_factory (h : e.Owns d) (source : loc.IsSource) (factory : loc.own = false) (x : Document) :
    (e.register x loc).Owns d where
  here := deleted_register h.here source x
  flag := (own_register source factory x).trans h.flag
  version := by
    rw [register, if_neg (Bool.not_eq_true _ ▸ factory)]
    split <;> exact h.version

theorem owns_register (here : e.locality.deleted = false) (d : Document) : (e.register d { own := true }).Owns d := by
  constructor <;> simp [register, identify, Locality.union, here]

theorem Owns.dropVersions (h : e.Owns d) (factory : loc.own = false) : (e.dropVersions loc).1.Owns d where
  here := deleted_dropVersions h.here loc
  flag := (own_dropVersions factory).trans h.flag
  version := by simp [EntryView.dropVersions, h.version, apply_ite Locality.own, factory]

theorem Owns.hasSource (h : e.Owns d) : e.locality.hasSource = true := by simp [Locality.hasSource, h.flag]

end EntryView

/-! ## Rows -/

namespace TableView

section Rows

variable {ν : Type} [RowView ν] {t : TableView ν} {id other : Nat} {row : ν} {loc : Locality}

/-- A row that is not gone is still there when another is cut out. -/
theorem row?_cut_of_ne (different : other ≠ id) (found : t.row? id = some row)
    (here : (RowView.entry row).locality.deleted = false) : (t.cut other).row? id = some row := by
  have bound : id < t.rows.length := (List.getElem?_eq_some_iff.1 found).1
  rw [row?_cut]
  split
  · next last =>
    have before : id < other := by unfold size at last; omega
    have there : row ∈ (t.rows.take other).drop id := by
      refine List.mem_of_getElem? (i := 0) ?_
      rw [List.getElem?_drop, List.getElem?_take_of_lt (by omega)]
      exact found
    rw [if_pos ⟨before, List.any_eq_true.2 ⟨row, there, by simp [EntryView.isTombstone, here]⟩⟩, found]
  · exact found

theorem row?_drop_of_ne (different : other ≠ id) (found : t.row? id = some row)
    (here : (RowView.entry row).locality.deleted = false) (loc : Locality) : (t.drop other loc).row? id = some row := by
  rw [drop]
  split
  · exact found
  · split
    · rw [row?_setRow, if_neg different, found]
    · exact row?_cut_of_ne different found here

theorem row?_drop_self (found : t.row? id = some row)
    (left : ((RowView.entry row).dropVersions loc).1.locality.hasSource = true) :
    (t.drop id loc).row? id = some (dropRow row loc) := by
  rw [drop, found]
  dsimp only
  rw [if_pos left, row?_setRow, if_pos rfl, found, Option.map_some]

theorem row?_register (t : TableView ν) (id other : Nat) (d : Document) (loc : Locality) :
    (t.register id d loc).row? other =
      if id = other then (t.row? other).map fun row => RowView.withEntry row ((RowView.entry row).register d loc)
      else t.row? other := row?_modifyRow t id other _

theorem row?_insert_of_row? (found : t.row? id = some row) (here : (RowView.entry row).locality.deleted = false)
    (d : Document) (loc : Locality) : (t.insert d loc).1.row? id = some row := by
  obtain ⟨rows, gone⟩ := t.row?_insert d loc
  have different : (t.insert d loc).2 ≠ id := by
    rintro same
    have tombstone := gone row (same ▸ found)
    rw [EntryView.isTombstone, here] at tombstone
    cases tombstone
  rw [rows, if_neg different, found]

end Rows

/-! ## Tables -/

variable {ν : Type} [RowView ν] [LawfulRowView ν] {t : TableView ν} {id : Nat} {loc : Locality} {d : Document}
  {fs : FileSystem} {dir : String}

/-- The user's own version of a row is a document. -/
def Owns (t : TableView ν) (id : Nat) (d : Document) : Prop := ∃ row, t.row? id = some row ∧ (RowView.entry row).Owns d

/-- A scan at a locality has to leave an own version as it is: it is one for factory versions, or no file holds the
version yet. -/
def Spares (loc : Locality) (d : Document) : Prop := loc.own = false ∨ loc = { own := true } ∧ d.modTime = 0

theorem Owns.drop (h : t.Owns id d) {other : Nat} (apart : other = id → loc.own = false) : (t.drop other loc).Owns id d := by
  obtain ⟨row, found, owns⟩ := h
  by_cases same : other = id
  · subst same
    have left := owns.dropVersions (apart rfl)
    exact ⟨_, row?_drop_self found left.hasSource, by simpa [dropRow] using left⟩
  · exact ⟨row, row?_drop_of_ne same found owns.here loc, owns⟩

theorem Owns.register (h : t.Owns id d) {other : Nat} (source : loc.IsSource) (apart : other = id → loc.own = false)
    (x : Document) : (t.register other x loc).Owns id d := by
  obtain ⟨row, found, owns⟩ := h
  unfold Owns
  rw [row?_register]
  by_cases same : other = id
  · rw [if_pos same, found]
    exact ⟨_, rfl, by simpa using owns.register_factory source (apart same) x⟩
  · rw [if_neg same]
    exact ⟨row, found, owns⟩

omit [LawfulRowView ν] in
theorem Owns.insert (h : t.Owns id d) (x : Document) (loc : Locality) : (t.insert x loc).1.Owns id d := by
  obtain ⟨row, found, owns⟩ := h
  exact ⟨row, row?_insert_of_row? found owns.here x loc, owns⟩

theorem Owns.dropWhere (h : t.Owns id d) {p : EntryView → Bool}
    (apart : loc.own = false ∨ ∀ e : EntryView, e.Owns d → p e = false) (ids : List Nat) :
    (dropWhere p loc t ids).Owns id d := by
  induction ids generalizing t with
  | nil => exact h
  | cons other ids ih =>
    rw [TableView.dropWhere]
    split
    · next chosen =>
      refine ih (h.drop ?_)
      rintro rfl
      obtain ⟨row, found, owns⟩ := h
      rcases apart with factory | kept
      · exact factory
      · rw [entryAt?, found, Option.map_some, Option.any_some, kept _ owns] at chosen
        cases chosen
    · exact ih h

theorem Owns.dropAll (h : t.Owns id d) (factory : loc.own = false) : (t.dropAll loc).Owns id d :=
  h.dropWhere (.inl factory) _

theorem Owns.dropVanished (h : t.Owns id d) (spared : Spares loc d) : (t.dropVanished loc).Owns id d := by
  refine h.dropWhere (spared.imp_right ?_) _
  rintro ⟨rfl, unsaved⟩ e owns
  simp [owns.hasUnsavedOwn unsaved]

omit [LawfulRowView ν] in
/-- The version of the user's own that a scan has to leave as it is is tracked as such. -/
theorem Owns.tracked? (h : t.Owns id d) (spared : Spares loc d) {v : TrackedView} (tracked : t.tracked? loc id = some v) :
    loc.own = false ∨ v.fixed = true := by
  obtain ⟨row, found, owns⟩ := h
  refine spared.imp_right ?_
  rintro ⟨rfl, unsaved⟩
  have entry : t.entryAt? id = some (RowView.entry row) := congrArg (Option.map RowView.entry) found
  rw [TableView.tracked?, entry] at tracked
  simp [owns.hasUnsavedOwn unsaved, EntryView.version, owns.version, owns.flag, Locality.contains] at tracked
  rw [← tracked]

theorem Owns.dropMissing (h : t.Owns id d) (spared : Spares loc d) (files : List String) (ids : List Nat) :
    (dropMissing loc files t ids).Owns id d := by
  induction ids generalizing t with
  | nil => exact h
  | cons other ids ih =>
    rw [TableView.dropMissing]
    split
    · next missing =>
      refine ih (h.drop ?_)
      rintro rfl
      obtain ⟨v, tracked, gone⟩ := (Option.any_eq_true _ _).1 missing
      rcases h.tracked? spared tracked with factory | fixed
      · exact factory
      · simp [fixed] at gone
    · exact ih h

theorem Owns.reloadChanged (h : t.Owns id d) (source : loc.IsSource) (spared : Spares loc d) (fs : FileSystem)
    (dir : String) (files : List String) (ids : List Nat) : (reloadChanged fs dir loc files t ids).1.Owns id d := by
  induction ids generalizing t files with
  | nil => exact h
  | cons other ids ih =>
    rw [TableView.reloadChanged]
    split
    · exact ih h files
    · next v chosen =>
      obtain ⟨tracked, -⟩ := Option.filter_eq_some_iff.1 chosen
      dsimp only
      split
      · next changed =>
        have apart : other = id → loc.own = false := by
          rintro rfl
          rcases h.tracked? spared tracked with factory | fixed
          · exact factory
          · simp [fixed] at changed
        split
        · exact ih (h.register source apart _) _
        · exact ih (h.drop apart) _
      · exact ih h _

/-- The files in a directory that can hold versions of a kind. -/
def versionFiles (fs : FileSystem) (dir extension : String) : List String :=
  listDir fs dir false fun name => hasExtension name ".plist" || hasExtension name extension

/-- A document is what a file of a list in a directory holds. -/
def ReadFrom (fs : FileSystem) (dir : String) (files : List String) (d : Document) : Prop :=
  ∃ name ∈ files, Document.load fs (Path.join dir name) = .ok d

theorem Owns.register_own (h : t.Owns id d) (source : loc.IsSource) (own : loc.own = true) (x : Document) :
    (t.register id x loc).Owns id x := by
  obtain ⟨row, found, owns⟩ := h
  cases source with
  | own =>
    refine ⟨_, by rw [row?_register, if_pos rfl, found, Option.map_some], ?_⟩
    simpa using EntryView.owns_register owns.here x
  | _ => cases own

/-- A new file gives another version at most. -/
theorem Owns.addNew (h : t.Owns id d) (source : loc.IsSource) (fs : FileSystem) (dir : String) (files : List String) :
    ∃ d', (addNew fs dir loc t files).Owns id d' ∧ (d' = d ∨ loc.own = true ∧ ReadFrom fs dir files d') := by
  induction files generalizing t d with
  | nil => exact ⟨d, h, .inl rfl⟩
  | cons name files ih =>
    have later {t' : TableView ν} {x : Document} (h : t'.Owns id x)
        (first : x = d ∨ loc.own = true ∧ Document.load fs (Path.join dir name) = .ok x) :
        ∃ d', (TableView.addNew fs dir loc t' files).Owns id d' ∧
          (d' = d ∨ loc.own = true ∧ ReadFrom fs dir (name :: files) d') := by
      obtain ⟨d', owns, rfl | ⟨own, other, member, read⟩⟩ := ih h
      · exact ⟨d', owns, first.imp_right fun ⟨own, held⟩ => ⟨own, name, List.mem_cons_self, held⟩⟩
      · exact ⟨d', owns, .inr ⟨own, other, List.mem_cons_of_mem _ member, read⟩⟩
    rw [TableView.addNew]
    split
    · exact later h (.inl rfl)
    · next fresh read =>
      split
      · next other found =>
        by_cases apart : other = id → loc.own = false
        · exact later (h.register source apart fresh) (.inl rfl)
        · obtain ⟨rfl, own⟩ : other = id ∧ loc.own = true := by simpa using apart
          exact later (h.register_own source own fresh) (.inr ⟨own, read⟩)
      · exact later (h.insert fresh loc) (.inl rfl)

/-- A scan of a directory leaves an own version as it is, or puts what a file there holds in its place. -/
theorem Owns.sync (h : t.Owns id d) (source : loc.IsSource) (spared : Spares loc d) (fs : FileSystem) (dir extension : String) :
    ∃ d', (t.sync fs dir loc extension).Owns id d' ∧
      (d' = d ∨ loc.own = true ∧ ReadFrom fs dir (versionFiles fs dir extension) d') := by
  rw [TableView.sync]
  split
  · dsimp only
    rw [← versionFiles]
    generalize versionFiles fs dir extension = files
    have kept := h.dropMissing spared files (List.range t.size)
    generalize TableView.dropMissing loc files t (List.range t.size) = t₁ at kept
    have reloaded := kept.reloadChanged source spared fs dir files (List.range t₁.size)
    obtain ⟨d', owns, same⟩ := reloaded.addNew source fs dir
      (TableView.reloadChanged fs dir loc files t₁ (List.range t₁.size)).2
    refine ⟨d', owns, same.imp_right ?_⟩
    rintro ⟨own, name, member, read⟩
    exact ⟨own, name, reloadChanged_subset t₁ _ member, read⟩
  · exact ⟨d, h.dropVanished spared, .inl rfl⟩

end TableView

end EditorBundles.Catalog
