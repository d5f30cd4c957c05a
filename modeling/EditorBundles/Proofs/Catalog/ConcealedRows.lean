import EditorBundles.Proofs.Catalog.LiveRows
import EditorBundles.Proofs.Catalog.ScanAlike

/-!
# Rows whose shipped version is hidden

A row that was deleted goes on having its shipped version and hides it. Scans find the file of that version in the row,
so that they do not take it for a new one, and whatever they record in the row stays hidden with it. That holds as long
as the file is there and can be read, and no other file that is shipped with it has the identity of the row: such a file
would take its place.
-/

namespace EditorBundles.Catalog
set_option autoImplicit false
open PropertyList FileSystem

/-! ## Entries -/

namespace EntryView

/-- The entry has a shipped version from a file, and no installed one before it. -/
structure Ships (e : EntryView) (file : String) : Prop where
  pristine : e.locality.pristine = true
  installed : e.locality.installed = false
  version : ∃ d, e.factory = some d ∧ d.filename = file

/-- The entry hides a shipped version. -/
structure Conceals (e : EntryView) (file : String) : Prop extends e.Ships file where
  here : e.locality.deleted = false
  disabled : e.locality.disabled = true

variable {e : EntryView} {d : Document} {file : String} {loc : Locality}

theorem Conceals.register_pristine (h : e.Conceals file) (named : d.filename = file) :
    (e.register d { pristine := true }).Conceals file := by
  have shown : ¬(({ pristine := true } : Locality) = { pristine := true } ∧ e.locality.installed = true) := fun both =>
    Bool.false_ne_true (h.installed.symm.trans both.2)
  rw [register, if_neg Bool.false_ne_true, if_neg shown]
  exact ⟨⟨by simp [identify, Locality.union], by simp [identify, Locality.union, h.installed], d, rfl, named⟩,
    by simp [identify, Locality.union, h.here], by simp [identify, Locality.union, h.disabled]⟩

theorem Conceals.register_own (h : e.Conceals file) (d : Document) : (e.register d { own := true }).Conceals file := by
  rw [register, if_pos rfl]
  exact ⟨⟨by simp [identify, Locality.union, h.pristine], by simp [identify, Locality.union, h.installed], h.version⟩,
    by simp [identify, Locality.union, h.here], by simp [identify, Locality.union, h.disabled]⟩

theorem Conceals.dropVersions_own (h : e.Conceals file) : (e.dropVersions { own := true }).1.Conceals file := by
  obtain ⟨⟨pristine, installed, version⟩, here, disabled⟩ := h
  exact ⟨⟨by simp [dropVersions, Locality.without, pristine, installed],
    by simp [dropVersions, Locality.without, installed], by simpa [dropVersions, installed] using version⟩,
    by simp [dropVersions, Locality.without, here], by simp [dropVersions, Locality.without, disabled, installed]⟩

theorem Ships.hasSource (h : e.Ships file) : e.locality.hasSource = true := by simp [Locality.hasSource, h.pristine]

/-- A version is recorded that is not from the file. -/
theorem Ships.of_register (h : (e.register d loc).Ships file) (source : loc.IsSource) (other : loc.installed = false)
    (foreign : loc.pristine = true → d.filename ≠ file) : e.Ships file := by
  obtain ⟨pristine, installed, x, version, named⟩ := h
  cases source with
  | installed => cases other
  | own => exact ⟨by simpa [register, identify, Locality.union] using pristine,
      by simpa [register, identify, Locality.union] using installed, x, version, named⟩
  | pristine =>
    unfold register at installed version
    rw [if_neg Bool.false_ne_true] at installed version
    split at installed
    · next shadowed => simp [Locality.union, shadowed.2] at installed
    · next shown =>
      rw [if_neg shown] at version
      obtain rfl := Option.some.inj version
      exact absurd named (foreign rfl)

theorem Ships.of_dropVersions (h : (e.dropVersions loc).1.Ships file) (other : loc.installed = false) : e.Ships file := by
  obtain ⟨pristine, installed, x, version, named⟩ := h
  have kept : e.locality.pristine = true := by
    simp only [dropVersions, Locality.without, Bool.and_eq_true] at pristine
    exact pristine.1
  have behind : e.locality.installed = false := by
    cases there : e.locality.installed with
    | false => rfl
    | true => simp [dropVersions, Locality.without, there, other] at installed
  refine ⟨kept, behind, x, ?_, named⟩
  simp only [dropVersions] at version
  exact (Option.ite_none_left_eq_some.1 version).2

theorem not_ships_tombstone : ¬tombstone.Ships file := fun h => Bool.false_ne_true h.pristine

theorem Ships.of_new (h : ((new loc d).identify d).Ships file) : loc.pristine = true ∧ d.filename = file := by
  obtain ⟨pristine, -, x, version, named⟩ := h
  unfold new at pristine version
  split at version
  · cases version
  · next factory =>
    rw [if_neg factory] at pristine
    obtain rfl := Option.some.inj version
    exact ⟨pristine, named⟩

end EntryView

/-! ## Tables -/

namespace TableView

variable {ν : Type} [RowView ν] {t : TableView ν} {id other : Nat} {file dir extension : String} {known known' : String → Prop}
  {loc : Locality} {d : Document} {fs : FileSystem} {files : List String}

/-- A row hides its shipped version from a file and goes by an identity of a kind, and no other row has a version from
that file. -/
structure Conceals (t : TableView ν) (id : Nat) (file : String) (known : String → Prop) : Prop where
  row : ∃ row, t.row? id = some row ∧ (RowView.entry row).Conceals file ∧ known (RowView.entry row).uuid
  single : ∀ other row, other ≠ id → t.row? other = some row → ¬(RowView.entry row).Ships file

theorem Conceals.imp (h : t.Conceals id file known) (weaker : ∀ uuid, known uuid → known' uuid) : t.Conceals id file known' :=
  ⟨h.row.imp fun _ ⟨found, conceals, identity⟩ => ⟨found, conceals, weaker _ identity⟩, h.single⟩

/-- The row goes by an identity of another kind, too. -/
theorem Conceals.of_uuid (h : t.Conceals id file known) (identity : ∀ e, t.entryAt? id = some e → known' e.uuid) :
    t.Conceals id file known' := by
  obtain ⟨⟨row, found, conceals, -⟩, single⟩ := h
  exact ⟨⟨row, found, conceals, identity _ (congrArg (Option.map RowView.entry) found)⟩, single⟩

variable [LawfulRowView ν]

theorem Conceals.drop_of_ne (h : t.Conceals id file known) (different : other ≠ id) (factory : loc.installed = false) :
    (t.drop other loc).Conceals id file known := by
  obtain ⟨⟨row, found, conceals, identity⟩, single⟩ := h
  refine ⟨⟨row, row?_drop_of_ne different found conceals.here loc, conceals, identity⟩, fun third row' apart there => ?_⟩
  rcases row?_of_row?_drop there with ⟨-, before⟩ | ⟨rfl, row₀, before, rfl | rfl⟩
  · exact single third row' apart before
  · rw [dropRow, LawfulRowView.entry_release, LawfulRowView.entry_withEntry]
    exact fun ships => single third row₀ apart before (ships.of_dropVersions factory)
  · rw [LawfulRowView.entry_ofEntry]
    exact EntryView.not_ships_tombstone

theorem Conceals.drop_own (h : t.Conceals id file known) (other : Nat) :
    (t.drop other { own := true }).Conceals id file known := by
  by_cases same : other = id
  · subst same
    obtain ⟨⟨row, found, conceals, identity⟩, single⟩ := h
    have left := conceals.dropVersions_own
    refine ⟨⟨_, row?_drop_self found left.hasSource, ?_, ?_⟩, fun third row' apart there => ?_⟩
    · rw [dropRow, LawfulRowView.entry_release, LawfulRowView.entry_withEntry]
      exact left
    · rw [dropRow, LawfulRowView.entry_release, LawfulRowView.entry_withEntry]
      exact identity
    · rcases row?_of_row?_drop there with ⟨-, before⟩ | ⟨same, -⟩
      · exact single third row' apart before
      · exact absurd same apart
  · exact h.drop_of_ne same rfl

/-- A version is recorded in another row. -/
theorem Conceals.register_of_ne (h : t.Conceals id file known) (different : other ≠ id) (source : loc.IsSource)
    (factory : loc.installed = false) (foreign : loc.pristine = true → d.filename ≠ file) :
    (t.register other d loc).Conceals id file known := by
  obtain ⟨⟨row, found, conceals, identity⟩, single⟩ := h
  refine ⟨⟨row, by rw [row?_register, if_neg different, found], conceals, identity⟩, fun third row' apart there => ?_⟩
  rw [row?_register] at there
  split at there
  · obtain ⟨row₀, before, rfl⟩ := Option.map_eq_some_iff.1 there
    rw [LawfulRowView.entry_withEntry]
    exact fun ships => single third row₀ apart before (ships.of_register source factory foreign)
  · exact single third row' apart there

/-- A version is recorded in the row itself: the shipped one from the file, or one of the user's own. -/
theorem Conceals.register_self (h : t.Conceals id file known)
    (named : loc = { pristine := true } ∧ d.filename = file ∨ loc = { own := true })
    (identity : ∀ uuid, d.rootString? "uuid" = some uuid → known uuid) : (t.register id d loc).Conceals id file known := by
  obtain ⟨⟨row, found, conceals, before⟩, single⟩ := h
  have registered : ((RowView.entry row).register d loc).Conceals file ∧ ((RowView.entry row).register d loc).uuid =
      (d.rootString? "uuid").getD (RowView.entry row).uuid := by
    rcases named with ⟨rfl, named⟩ | rfl
    · refine ⟨conceals.register_pristine named, ?_⟩
      rw [EntryView.register, if_neg Bool.false_ne_true,
        if_neg fun both => Bool.false_ne_true (conceals.installed.symm.trans both.2)]
      rfl
    · exact ⟨conceals.register_own d, by rw [EntryView.register, if_pos rfl]; rfl⟩
  refine ⟨⟨_, by rw [row?_register, if_pos rfl, found, Option.map_some], ?_, ?_⟩, fun third row' apart there => ?_⟩
  · rw [LawfulRowView.entry_withEntry]
    exact registered.1
  · rw [LawfulRowView.entry_withEntry, registered.2]
    cases has : d.rootString? "uuid" with
    | none => exact before
    | some uuid => exact identity uuid has
  · rw [row?_register, if_neg apart.symm] at there
    exact single third row' apart there

theorem Conceals.insert (h : t.Conceals id file known) (foreign : loc.pristine = true → d.filename ≠ file) :
    (t.insert d loc).1.Conceals id file known := by
  obtain ⟨⟨row, found, conceals, identity⟩, single⟩ := h
  refine ⟨⟨row, row?_insert_of_row? found conceals.here d loc, conceals, identity⟩, fun third row' apart there => ?_⟩
  rw [(t.row?_insert d loc).1] at there
  split at there
  · obtain rfl := Option.some.inj there
    rw [LawfulRowView.entry_ofEntry]
    exact fun ships => foreign ships.of_new.1 ships.of_new.2
  · exact single third row' apart there

/-! ## Scans of the user's own files -/

section
omit [LawfulRowView ν]
variable {P : TableView ν → Prop} (drop : ∀ t id, P t → P (t.drop id loc))
include drop

/-- What holds whatever is dropped from a table, and recorded and added in it, holds after a scan. -/
theorem dropWhere_induct (h : P t) (p : EntryView → Bool) (ids : List Nat) : P (dropWhere p loc t ids) := by
  induction ids generalizing t with
  | nil => exact h
  | cons id ids ih =>
    rw [dropWhere]
    split
    · exact ih (drop t id h)
    · exact ih h

theorem dropMissing_induct (h : P t) (files : List String) (ids : List Nat) : P (dropMissing loc files t ids) := by
  induction ids generalizing t with
  | nil => exact h
  | cons id ids ih =>
    rw [dropMissing]
    split
    · exact ih (drop t id h)
    · exact ih h

variable (register : ∀ t id d, P t → P (t.register id d loc))
include register

theorem reloadChanged_induct (h : P t) (fs : FileSystem) (dir : String) (files : List String) (ids : List Nat) :
    P (reloadChanged fs dir loc files t ids).1 := by
  induction ids generalizing t files with
  | nil => exact h
  | cons id ids ih =>
    rw [reloadChanged]
    split
    · exact ih h files
    · dsimp only
      split
      · split
        · exact ih (register t id _ h) _
        · exact ih (drop t id h) _
      · exact ih h _

variable (insert : ∀ t d, P t → P (t.insert d loc).1)
include insert

omit drop in
theorem addNew_induct (h : P t) (fs : FileSystem) (dir : String) (files : List String) : P (addNew fs dir loc t files) := by
  induction files generalizing t with
  | nil => exact h
  | cons name files ih =>
    rw [addNew]
    split
    · exact ih h
    · split
      · exact ih (register t _ _ h)
      · exact ih (insert t _ h)

theorem sync_induct (h : P t) (fs : FileSystem) (dir extension : String) : P (t.sync fs dir loc extension) := by
  rw [sync]
  split
  · exact addNew_induct register insert
      (reloadChanged_induct drop register (dropMissing_induct drop h _ _) fs dir _ _) fs dir _
  · exact dropWhere_induct drop h _ _

end

theorem Conceals.dropAll_own (h : t.Conceals id file known) : (t.dropAll { own := true }).Conceals id file known :=
  dropWhere_induct (P := (·.Conceals id file known)) (fun _ other h => h.drop_own other) h _ _

/-- Whatever there is of the user's own, a hidden version stays hidden. -/
theorem Conceals.sync_own (h : t.Conceals id file known) (fs : FileSystem) (dir extension : String) :
    (t.sync fs dir { own := true } extension).Conceals id file fun _ => True := by
  have start : t.Conceals id file fun _ => True := h.imp fun _ _ => trivial
  refine sync_induct (P := (·.Conceals id file fun _ => True)) (fun _ other h => h.drop_own other) (fun t other d h => ?_)
    (fun t d h => h.insert fun pristine => by cases pristine) start fs dir extension
  by_cases same : other = id
  · subst same
    exact h.register_self (.inr rfl) fun _ _ => trivial
  · exact h.register_of_ne same .own rfl fun pristine => by cases pristine

/-! ## Scans of shipped files -/

/-- The file is there and can be read, and no other file beside it has an identity of its kind. -/
structure Shipped (fs : FileSystem) (dir extension file : String) (known : String → Prop) : Prop where
  listed : file ∈ versionFiles fs dir extension
  read : ∃ d, Document.load fs (Path.join dir file) = .ok d ∧ ∀ uuid, d.rootString? "uuid" = some uuid → known uuid
  apart : ∀ other ∈ versionFiles fs dir extension, other ≠ file → ∀ d uuid,
    Document.load fs (Path.join dir other) = .ok d → d.rootString? "uuid" = some uuid → ¬known uuid

omit [LawfulRowView ν] in
theorem Conceals.tracked? (h : t.Conceals id file known) :
    ∃ d, t.tracked? { pristine := true } id = some { document := d, filename := file, fixed := false } := by
  obtain ⟨⟨row, found, conceals, -⟩, -⟩ := h
  obtain ⟨d, version, named⟩ := conceals.version
  have entry : t.entryAt? id = some (RowView.entry row) := congrArg (Option.map RowView.entry) found
  refine ⟨d, ?_⟩
  rw [TableView.tracked?, entry]
  simp [Locality.contains, conceals.pristine, conceals.installed, EntryView.version, version, named]

omit [LawfulRowView ν] in
/-- A version that is tracked and not fixed is shipped in its file. -/
theorem ships_of_tracked? {v : TrackedView} (tracked : t.tracked? { pristine := true } other = some v)
    (loose : v.fixed = false) :
    ∃ row, t.row? other = some row ∧ (RowView.entry row).Ships v.filename := by
  rw [TableView.tracked?, entryAt?] at tracked
  cases found : t.row? other with
  | none =>
    rw [found] at tracked
    cases tracked
  | some row =>
    rw [found] at tracked
    dsimp only [Option.map_some, Option.bind_eq_bind, Option.bind_some] at tracked
    split at tracked
    · next contains =>
      obtain ⟨d, version, same⟩ := Option.bind_eq_some_iff.1 tracked
      obtain rfl := Option.some.inj same
      have installed : (RowView.entry row).locality.installed = false := by simpa using loose
      refine ⟨row, rfl, by simpa [Locality.contains] using contains, installed, d, version, ?_⟩
      simp [installed]
    · cases tracked

theorem Conceals.dropMissing (h : t.Conceals id file known) (listed : file ∈ files) (ids : List Nat) :
    (TableView.dropMissing { pristine := true } files t ids).Conceals id file known := by
  induction ids generalizing t with
  | nil => exact h
  | cons other ids ih =>
    rw [TableView.dropMissing]
    split
    · next missing =>
      refine ih (h.drop_of_ne ?_ rfl)
      rintro rfl
      obtain ⟨d, tracked⟩ := h.tracked?
      rw [tracked] at missing
      simp [listed] at missing
    · exact ih h

variable (regular : fs.Regular) (shipped : Shipped fs dir extension file known)
include regular shipped

/-- The file is found in the row, and is not left for others. -/
theorem Conceals.reloadChanged (h : t.Conceals id file known) (single : files.Nodup)
    (inside : files ⊆ versionFiles fs dir extension) {ids : List Nat} (left : id ∈ ids ∨ file ∉ files) :
    (TableView.reloadChanged fs dir { pristine := true } files t ids).1.Conceals id file known ∧
      file ∉ (TableView.reloadChanged fs dir { pristine := true } files t ids).2 := by
  induction ids generalizing t files with
  | nil => exact ⟨h, left.resolve_left List.not_mem_nil⟩
  | cons other ids ih =>
    rw [TableView.reloadChanged]
    by_cases same : other = id
    · subst same
      obtain ⟨d, tracked⟩ := h.tracked?
      rw [tracked, Option.filter_some]
      split
      · next nothing =>
        have missing : file ∉ files := fun member => by simp [member] at nothing
        exact ih h single inside (.inr missing)
      · next v found =>
        split at found
        · obtain rfl := Option.some.inj found
          have rest : file ∉ files.erase file := List.Nodup.not_mem_erase single
          have within : files.erase file ⊆ versionFiles fs dir extension := List.Subset.trans List.erase_subset inside
          obtain ⟨fresh, read, identity⟩ := shipped.read
          dsimp only
          split
          · rw [read]
            have named := filename_of_load (regular.isFileName_of_mem_listDir shipped.listed) read
            exact ih (h.register_self (.inl ⟨rfl, named⟩) identity) (single.erase file) within (.inr rest)
          · exact ih h (single.erase file) within (.inr rest)
        · cases found
    · have left {rest : List String} (fewer : rest ⊆ files) : id ∈ ids ∨ file ∉ rest :=
        left.imp (fun member => (List.mem_cons.1 member).resolve_left (Ne.symm same))
          fun missing member => missing (fewer member)
      split
      · exact ih h single inside (left (List.Subset.refl files))
      · next v found =>
        obtain ⟨tracked, listed⟩ := Option.filter_eq_some_iff.1 found
        have listed : v.filename ∈ files := List.contains_iff_mem.1 listed
        have within : files.erase v.filename ⊆ versionFiles fs dir extension := List.Subset.trans List.erase_subset inside
        dsimp only
        split
        · next changed =>
          have loose : v.fixed = false := by
            rw [Bool.and_eq_true, Bool.not_eq_true'] at changed
            exact changed.2
          obtain ⟨row, there, ships⟩ := ships_of_tracked? tracked loose
          have foreign : v.filename ≠ file := fun named => h.single other row same there (named ▸ ships)
          split
          · next fresh read =>
            have named := filename_of_load (regular.isFileName_of_mem_listDir (inside listed)) read
            exact ih (h.register_of_ne same .pristine rfl fun _ => named ▸ foreign) (single.erase _) within
              (left List.erase_subset)
          · exact ih (h.drop_of_ne same rfl) (single.erase _) within (left List.erase_subset)
        · exact ih h (single.erase _) within (left List.erase_subset)

theorem Conceals.addNew (h : t.Conceals id file known) (inside : files ⊆ versionFiles fs dir extension)
    (missing : file ∉ files) :
    (TableView.addNew fs dir { pristine := true } t files).Conceals id file known := by
  induction files generalizing t with
  | nil => exact h
  | cons name files ih =>
    have later {t' : TableView ν} (h' : t'.Conceals id file known) :=
      ih h' (fun _ member => inside (List.mem_cons_of_mem _ member)) (List.not_mem_of_not_mem_cons missing)
    have listed := inside List.mem_cons_self
    have other : name ≠ file := (List.ne_of_not_mem_cons missing).symm
    rw [TableView.addNew]
    split
    · exact later h
    · next fresh read =>
      have named := filename_of_load (regular.isFileName_of_mem_listDir listed) read
      split
      · next row found =>
        obtain ⟨uuid, has, found⟩ := Option.bind_eq_some_iff.1 found
        refine later (h.register_of_ne ?_ .pristine rfl fun _ => named ▸ other)
        rintro rfl
        obtain ⟨e, live, same⟩ := live?_of_findUuid? found
        obtain ⟨⟨row', there, -, identity⟩, -⟩ := h
        obtain ⟨row'', there', rfl, -⟩ := live?_eq_some.1 live
        obtain rfl := Option.some.inj (there.symm.trans there')
        exact shipped.apart name listed other fresh uuid read has (same ▸ identity)
      · exact later (h.insert fun _ => named ▸ other)

/-- A hidden version stays hidden when the shipped files are scanned. -/
theorem Conceals.sync_pristine (h : t.Conceals id file known) :
    (t.sync fs dir { pristine := true } extension).Conceals id file known := by
  have directory : fs.isDirectory dir = true := by
    cases there : fs.isDirectory dir with
    | true => rfl
    | false =>
      have listed := shipped.listed
      rw [versionFiles, listDir_of_not_isDirectory there] at listed
      cases listed
  rw [sync, if_pos directory]
  dsimp only
  rw [← versionFiles]
  have kept := h.dropMissing shipped.listed (List.range t.size)
  generalize TableView.dropMissing { pristine := true } (versionFiles fs dir extension) t (List.range t.size) = t₁ at kept
  obtain ⟨row, found, -⟩ := kept.row
  have turn : id ∈ List.range t₁.size := List.mem_range.2 (List.getElem?_eq_some_iff.1 found).1
  obtain ⟨reloaded, missing⟩ :=
    kept.reloadChanged regular shipped (regular.nodup_listDir _ _ _) (List.Subset.refl _) (.inl turn)
  exact reloaded.addNew regular shipped (reloadChanged_subset t₁ _) missing

end TableView

end EditorBundles.Catalog
