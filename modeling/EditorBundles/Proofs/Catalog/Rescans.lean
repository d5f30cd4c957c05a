import EditorBundles.Proofs.Catalog.CatalogViewKeeping
import EditorBundles.Proofs.Catalog.FileVersions

/-!
# Rescans

A scan compares what a table has from earlier scans with the files that are there now. Where each file has an identity
of its own that stays with it, and a file that is written again gets another time, the table has the same versions
after the scan as one that is read afresh: what it has from before makes no difference.
-/

namespace EditorBundles.Catalog
set_option autoImplicit false
open PropertyList FileSystem

section Tables

variable {ν : Type} [RowView ν] [LawfulRowView ν] {scans : FileSystem → Prop} {shelf : Side → Shelf} {t : TableView ν} {id : Nat}
  {d : Document} {s : Side} {fs : FileSystem}

namespace TableView

/-! ## Versions without files -/

/-- A version is dropped if no file of a list has its name. -/
theorem FromFiles.dropUnless (h : t.FromFiles scans shelf) (s : Side) (files : List String) (id : Nat) {chosen : Bool}
    (choice : chosen = (t.version? id s).any fun d => !files.contains d.filename) :
    (bif chosen then t.drop id s.loc else t).FromFiles scans shelf ∧
      ∀ id' s', (bif chosen then t.drop id s.loc else t).version? id' s' =
        if s' = s ∧ id' = id then (t.version? id' s').filter fun d => files.contains d.filename else t.version? id' s' := by
  cases chosen with
  | false =>
    refine ⟨h, fun id' s' => ?_⟩
    rw [cond_false]
    split
    · next both =>
      obtain ⟨rfl, rfl⟩ := both
      cases version : t.version? id' s' with
      | none => rfl
      | some d => simpa [version, Option.filter_some] using choice
    · rfl
  | true =>
    obtain ⟨d, version, missing⟩ := (Option.any_eq_true _ _).1 choice.symm
    obtain ⟨e, live, -⟩ := version?_eq_some.1 version
    obtain ⟨whole, versions⟩ := h.drop live s
    refine ⟨whole, fun id' s' => ?_⟩
    rw [cond_true, versions]
    split
    · next both =>
      obtain ⟨rfl, rfl⟩ := both
      rw [if_pos ⟨rfl, rfl⟩, version]
      simpa [Option.filter_some] using missing
    · next apart => rw [if_neg fun both => apart ⟨both.2, both.1⟩]

/-- Versions on a side are dropped from some rows where no file of a list has their name. -/
theorem FromFiles.dropMissing (h : t.FromFiles scans shelf) (stable : (shelf s).Stable scans) (files : List String)
    (ids : List Nat) : (dropMissing s.loc files t ids).FromFiles scans shelf ∧
      ∀ id s', (dropMissing s.loc files t ids).version? id s' =
        if s' = s ∧ id ∈ ids then (t.version? id s').filter fun d => files.contains d.filename else t.version? id s' := by
  induction ids generalizing t with
  | nil => exact ⟨h, fun id s' => by simp [TableView.dropMissing]⟩
  | cons id ids ih =>
    have step := h.dropUnless s files id rfl
    have eq : TableView.dropMissing s.loc files t (id :: ids) = TableView.dropMissing s.loc files
        (bif (t.version? id s).any fun d => !files.contains d.filename then t.drop id s.loc else t) ids := by
      rw [TableView.dropMissing, h.tracked?_eq stable]
      cases t.version? id s with
      | none => rfl
      | some d => by_cases listed : d.filename ∈ files <;> simp [listed]
    rw [eq]
    obtain ⟨whole, versions⟩ := ih step.1
    refine ⟨whole, fun id' s' => ?_⟩
    rw [versions, step.2]
    by_cases side : s' = s
    · by_cases first : id' = id
      · simp [side, first, Option.filter_filter]
      · simp [side, first]
    · simp [side]

/-- Where there are no files all versions on a side are dropped. -/
theorem FromFiles.dropWhere_eq (h : t.FromFiles scans shelf) (stable : (shelf s).Stable scans) (ids : List Nat) :
    dropWhere (fun e => e.locality.meets s.loc && !(s.loc.own && e.hasUnsavedOwn)) s.loc t ids =
      TableView.dropMissing s.loc [] t ids := by
  induction ids generalizing t with
  | nil => rfl
  | cons id ids ih =>
    have chosen : ((t.entryAt? id).any fun e => e.locality.meets s.loc && !(s.loc.own && e.hasUnsavedOwn)) =
        (t.tracked? s.loc id).any fun v => !([] : List String).contains v.filename && !v.fixed := by
      rw [h.tracked?_eq stable]
      have matched : ((t.version? id s).map fun d => (⟨d, d.filename, false⟩ : TrackedView)).any
          (fun v => !([] : List String).contains v.filename && !v.fixed) = (t.version? id s).isSome := by
        cases t.version? id s <;> rfl
      rw [matched]
      cases found : t.entryAt? id with
      | none => rw [version?, live?, found]; rfl
      | some e =>
        rw [Option.any_some]
        cases live : t.live? id with
        | none =>
          have nothing : e.locality.meets s.loc = false := by
            refine Bool.eq_false_iff.2 fun meets => ?_
            have source := s.isSource.hasSource_of_contains (s.isSource.contains_of_meets meets)
            rw [h.tidy.live?_of_hasSource found source] at live
            cases live
          rw [nothing, version?, live]
          rfl
        | some e' =>
          rw [entryAt?_of_live? live] at found
          cases found
          have entry := h.entries id e live
          have meets : e.locality.meets s.loc = (e.side s).isSome := by
            rw [entry.plain]
            cases s <;> simp [Locality.meets, Side.loc, EntryView.side]
          rw [meets, entry.saved stable, version?_of_live? live, Bool.not_false, Bool.and_true]
    rw [TableView.dropWhere, TableView.dropMissing, chosen]
    split
    · next dropped =>
      obtain ⟨v, tracked, -⟩ := (Option.any_eq_true _ _).1 dropped
      rw [h.tracked?_eq stable] at tracked
      obtain ⟨d, version, -⟩ := Option.map_eq_some_iff.1 tracked
      obtain ⟨e, live, -⟩ := version?_eq_some.1 version
      exact ih (h.drop live s).1
    · exact ih h

/-! ## Comparing versions with files -/

/-- How far the versions on a side have been compared with the files: those of some rows still wait for it, all others are
what their files hold. -/
structure Comparing (scans : FileSystem → Prop) (shelf : Side → Shelf) (s : Side) (fs : FileSystem) (t : TableView ν)
    (files : List String) (ids : List Nat) : Prop where
  whole : t.FromFiles scans shelf
  single : files.Nodup
  subset : files ⊆ (shelf s).names fs
  waiting : ∀ id ∈ ids, ∀ d, t.version? id s = some d → d.filename ∈ files
  done : ∀ id ∉ ids, ∀ d, t.version? id s = some d → (shelf s).Has fs d ∧ d.filename ∉ files
  found : ∀ d, (shelf s).Has fs d → d.filename ∉ files → ∃ id, t.version? id s = some d

variable {files : List String} {ids : List Nat}

omit [LawfulRowView ν] in
/-- A row without a version on the side has nothing to wait for. -/
theorem Comparing.skip (h : Comparing scans shelf s fs t files (id :: ids)) (nothing : t.version? id s = none) :
    Comparing scans shelf s fs t files ids where
  whole := h.whole
  single := h.single
  subset := h.subset
  waiting other member := h.waiting other (List.mem_cons_of_mem id member)
  done other absent d version := by
    refine h.done other (fun member => ?_) d version
    rcases List.mem_cons.1 member with rfl | member
    · rw [nothing] at version
      cases version
    · exact absent member
  found := h.found

omit [LawfulRowView ν] in
/-- A version that has been compared with its file: it is what the file holds, or the file holds none and it is gone. -/
theorem Comparing.compare (h : Comparing scans shelf s fs t files (id :: ids)) (fresh : id ∉ ids) {d : Document}
    (version : t.version? id s = some d) {t' : TableView ν} (whole : t'.FromFiles scans shelf)
    (others : ∀ other ≠ id, t'.version? other s = t.version? other s)
    (now : ∀ d', t'.version? id s = some d' ↔ (shelf s).Has fs d' ∧ d'.filename = d.filename) :
    Comparing scans shelf s fs t' (files.erase d.filename) ids where
  whole := whole
  single := h.single.erase _
  subset := List.Subset.trans List.erase_subset h.subset
  waiting other member d' version' := by
    have different : other ≠ id := fun same => fresh (same ▸ member)
    rw [others other different] at version'
    refine (List.mem_erase_of_ne fun same => different ?_).2 (h.waiting other (List.mem_cons_of_mem id member) d' version')
    exact h.whole.eq_of_filename version' version same
  done other absent d' version' := by
    by_cases same : other = id
    · subst same
      obtain ⟨has, named⟩ := (now d').1 version'
      exact ⟨has, named ▸ h.single.not_mem_erase⟩
    · rw [others other same] at version'
      obtain ⟨has, missing⟩ := h.done other (List.not_mem_cons_of_ne_of_not_mem same absent) d' version'
      exact ⟨has, fun member => missing (List.mem_of_mem_erase member)⟩
  found d' has missing := by
    by_cases same : d'.filename = d.filename
    · exact ⟨id, (now d').2 ⟨has, same⟩⟩
    · obtain ⟨other, version'⟩ := h.found d' has fun member => missing ((List.mem_erase_of_ne same).2 member)
      refine ⟨other, ?_⟩
      rw [others other, version']
      rintro rfl
      rw [version] at version'
      cases version'
      exact same rfl

theorem Comparing.reloadChanged (h : Comparing scans shelf s fs t files ids) (stable : (shelf s).Stable scans)
    (member : scans fs) (fresh : ids.Nodup) :
    Comparing scans shelf s fs (reloadChanged fs (shelf s).dir s.loc files t ids).1
        (reloadChanged fs (shelf s).dir s.loc files t ids).2 [] ∧
      ∀ id s', s' ≠ s → (TableView.reloadChanged fs (shelf s).dir s.loc files t ids).1.version? id s' = t.version? id s' := by
  induction ids generalizing t files with
  | nil => exact ⟨h, fun _ _ _ => rfl⟩
  | cons id ids ih =>
    obtain ⟨absent, fresh⟩ := List.nodup_cons.1 fresh
    rw [TableView.reloadChanged, h.whole.tracked?_eq stable]
    cases version : t.version? id s with
    | none => exact ih (h.skip version) fresh
    | some d =>
      have waiting := h.waiting id List.mem_cons_self d version
      have listed := h.subset waiting
      obtain ⟨e, live, side⟩ := version?_eq_some.1 version
      obtain ⟨⟨fs₀, member₀, has₀⟩, uuid⟩ := (h.whole.entries id e live).read s d side
      rw [Option.map_some, Option.filter_some, if_pos (List.contains_iff_mem.2 waiting)]
      dsimp only
      rw [Bool.not_false, Bool.and_true]
      have others {t' : TableView ν} {now : Option Document}
          (versions : ∀ id' s', t'.version? id' s' = if id' = id ∧ s' = s then now else t.version? id' s') :
          (∀ id' s', s' ≠ s → t'.version? id' s' = t.version? id' s') ∧ ∀ other ≠ id, t'.version? other s = t.version? other s :=
        ⟨fun id' s' apart => by rw [versions, if_neg fun both => apart both.2],
          fun other apart => by rw [versions, if_neg fun both => apart both.1]⟩
      split
      · split
        · next again read =>
          obtain ⟨has, named⟩ := Shelf.has_of_load (stable.regular fs member) listed read
          obtain ⟨whole, versions⟩ := h.whole.register live member has stable (named.symm ▸ uuid)
          obtain ⟨beside, rows⟩ := others versions
          have step := h.compare absent version whole rows fun d' => by
            rw [versions, if_pos ⟨rfl, rfl⟩, Option.some.injEq]
            exact ⟨fun same => same ▸ ⟨has, named⟩, fun there => has.eq there.1 (there.2.trans named.symm)⟩
          obtain ⟨compared, besides⟩ := ih step fresh
          exact ⟨compared, fun id' s' apart => (besides id' s' apart).trans (beside id' s' apart)⟩
        · next fault read =>
          obtain ⟨whole, versions⟩ := h.whole.drop live s
          obtain ⟨beside, rows⟩ := others versions
          have step := h.compare absent version whole rows fun d' => by
            rw [versions, if_pos ⟨rfl, rfl⟩]
            refine ⟨fun gone => (by cases gone), fun there => ?_⟩
            obtain ⟨has, same⟩ := there
            have held := has.read
            rw [same, Shelf.path, read] at held
            cases held
          obtain ⟨compared, besides⟩ := ih step fresh
          exact ⟨compared, fun id' s' apart => (besides id' s' apart).trans (beside id' s' apart)⟩
      · next unchanged =>
        have has := stable.has_of_not_hasChanged member₀ member has₀ listed (Bool.not_eq_true _ ▸ unchanged)
        refine ih (h.compare absent version h.whole (fun _ _ => rfl) fun d' => ?_) fresh
        rw [version, Option.some.injEq]
        exact ⟨fun same => same ▸ ⟨has, rfl⟩, fun there => has.eq there.1 there.2⟩

omit [LawfulRowView ν] in
/-- The version in a new file has found its row. -/
theorem Comparing.add {name : String} {new : Nat} (h : Comparing scans shelf s fs t (name :: files) [])
    (has : (shelf s).Has fs d) (named : d.filename = name) {t' : TableView ν} (whole : t'.FromFiles scans shelf)
    (before : t.version? new s = none)
    (versions : ∀ id s', t'.version? id s' = if id = new ∧ s' = s then some d else t.version? id s') :
    Comparing scans shelf s fs t' files [] where
  whole := whole
  single := (List.nodup_cons.1 h.single).2
  subset := List.subset_of_cons_subset h.subset
  waiting _ member := by cases member
  done id _ d' version := by
    rw [versions] at version
    split at version
    · cases version
      exact ⟨has, named ▸ (List.nodup_cons.1 h.single).1⟩
    · obtain ⟨has', missing⟩ := h.done id List.not_mem_nil d' version
      exact ⟨has', List.not_mem_of_not_mem_cons missing⟩
  found d' has' missing := by
    by_cases same : d'.filename = name
    · exact ⟨new, by rw [versions, if_pos ⟨rfl, rfl⟩, has.eq has' (same.trans named.symm)]⟩
    · obtain ⟨id, version⟩ := h.found d' has' (List.not_mem_cons_of_ne_of_not_mem same missing)
      refine ⟨id, ?_⟩
      rw [versions, if_neg, version]
      rintro ⟨rfl, -⟩
      rw [before] at version
      cases version

omit [LawfulRowView ν] in
/-- The row that a new file has its identity from has no version on the side: that version would have another file, and so
another identity. -/
theorem Comparing.version?_eq_none {name : String} {e : EntryView} (h : Comparing scans shelf s fs t (name :: files) [])
    (stable : (shelf s).Stable scans) (live : t.live? id = some e) (uuid : e.uuid = (shelf s).ident name) :
    t.version? id s = none := by
  refine Option.eq_none_iff_forall_ne_some.2 fun d version => ?_
  have missing := (h.done id List.not_mem_nil d version).2
  rw [version?_of_live? live] at version
  have same := ((h.whole.entries id e live).read s d version).2
  rw [stable.distinct (same.symm.trans uuid)] at missing
  exact missing List.mem_cons_self

theorem Comparing.addNew (h : Comparing scans shelf s fs t files []) (stable : (shelf s).Stable scans) (member : scans fs) :
    Comparing scans shelf s fs (addNew fs (shelf s).dir s.loc t files) [] [] ∧
      ∀ id s', s' ≠ s → (TableView.addNew fs (shelf s).dir s.loc t files).version? id s' = t.version? id s' := by
  induction files generalizing t with
  | nil => exact ⟨h, fun _ _ _ => rfl⟩
  | cons name files ih =>
    have listed : name ∈ (shelf s).names fs := h.subset List.mem_cons_self
    rw [TableView.addNew]
    cases read : Document.load fs (Path.join (shelf s).dir name) with
    | error fault =>
      refine ih ⟨h.whole, (List.nodup_cons.1 h.single).2, List.subset_of_cons_subset h.subset, fun _ member => (by cases member),
        fun id absent d version => ?_, fun d has missing => ?_⟩
      · obtain ⟨has, missing⟩ := h.done id absent d version
        exact ⟨has, List.not_mem_of_not_mem_cons missing⟩
      · refine h.found d has (List.not_mem_cons_of_ne_of_not_mem ?_ missing)
        rintro rfl
        have held := has.read
        rw [Shelf.path, read] at held
        cases held
    | ok d =>
      obtain ⟨has, named⟩ := Shelf.has_of_load (stable.regular fs member) listed read
      have besides {t' : TableView ν} {new : Nat}
          (versions : ∀ id s', t'.version? id s' = if id = new ∧ s' = s then some d else t.version? id s') (id : Nat) (s' : Side)
          (apart : s' ≠ s) : t'.version? id s' = t.version? id s' := by
        rw [versions, if_neg fun both => apart both.2]
      dsimp only
      rw [stable.identified fs member d has, Option.bind_some]
      split
      · next id found =>
        obtain ⟨e, live, uuid⟩ := live?_of_findUuid? found
        have before := h.version?_eq_none stable live (named ▸ uuid)
        obtain ⟨whole, versions⟩ := h.whole.register live member has stable uuid
        obtain ⟨compared, others⟩ := ih (h.add has named whole before versions)
        exact ⟨compared, fun id s' apart => (others id s' apart).trans (besides versions id s' apart)⟩
      · next missing =>
        have before : t.version? (t.insert d s.loc).2 s = none := by rw [version?, live?_insert_new]; rfl
        obtain ⟨whole, versions⟩ := h.whole.insert member has stable fun id e live => ne_of_findUuid? missing live
        obtain ⟨compared, others⟩ := ih (h.add has named whole before versions)
        exact ⟨compared, fun id s' apart => (others id s' apart).trans (besides versions id s' apart)⟩

/-- After a scan of the directory for a side, the versions on it are just those in the files. -/
theorem FromFiles.sync (h : t.FromFiles scans shelf) (stable : (shelf s).Stable scans) (member : scans fs) :
    let after := t.sync fs (shelf s).dir s.loc (shelf s).extension
    after.FromFiles scans shelf ∧ (∀ id s', s' ≠ s → after.version? id s' = t.version? id s') ∧
      ∀ d, (∃ id, after.version? id s = some d) ↔ (shelf s).Has fs d := by
  have range {t' : TableView ν} {id : Nat} (absent : id ∉ List.range t'.size) (s : Side) : t'.version? id s = none := by
    cases version : t'.version? id s with
    | none => rfl
    | some d =>
      obtain ⟨e, live, -⟩ := version?_eq_some.1 version
      exact absurd (List.mem_range.2 (lt_of_live? live)) absent
  have listing : (listDir fs (shelf s).dir false fun name =>
      hasExtension name ".plist" || hasExtension name (shelf s).extension) = (shelf s).names fs := by
    rw [Shelf.names, versionFiles]
  rw [TableView.sync, listing]
  split
  · dsimp only
    obtain ⟨whole, versions⟩ := h.dropMissing stable ((shelf s).names fs) (List.range t.size)
    generalize TableView.dropMissing s.loc ((shelf s).names fs) t (List.range t.size) = t₁ at whole versions
    have start : Comparing scans shelf s fs t₁ ((shelf s).names fs) (List.range t₁.size) := by
      refine ⟨whole, Shelf.nodup_names (stable.regular fs member), List.Subset.refl _, fun id _ d version => ?_,
        fun id absent d version => ?_, fun d has missing => absurd has.listed missing⟩
      · rw [versions] at version
        split at version
        · exact List.contains_iff_mem.1 (Option.filter_eq_some_iff.1 version).2
        · next outside =>
          rw [range fun inside => outside ⟨rfl, inside⟩] at version
          cases version
      · rw [range absent] at version
        cases version
    obtain ⟨compared, besides⟩ := start.reloadChanged stable member List.nodup_range
    obtain ⟨added, besides'⟩ := compared.addNew stable member
    refine ⟨added.whole, fun id s' apart => ?_, fun d => ⟨?_, fun has => added.found d has List.not_mem_nil⟩⟩
    · rw [besides' id s' apart, besides id s' apart, versions, if_neg fun both => apart both.1]
    · rintro ⟨id, version⟩
      exact (added.done id List.not_mem_nil d version).1
  · next missing =>
    have empty : (shelf s).names fs = [] := Shelf.names_of_not_isDirectory (Bool.not_eq_true _ ▸ missing)
    rw [dropVanished, h.dropWhere_eq stable]
    obtain ⟨whole, versions⟩ := h.dropMissing stable [] (List.range t.size)
    refine ⟨whole, fun id s' apart => by rw [versions, if_neg fun both => apart both.1],
      fun d => ⟨?_, fun has => ?_⟩⟩
    · rintro ⟨id, version⟩
      rw [versions] at version
      split at version
      · cases (Option.filter_eq_some_iff.1 version).2
      · next outside =>
        rw [range fun inside => outside ⟨rfl, inside⟩] at version
        cases version
    · have listed := has.listed
      rw [empty] at listed
      cases listed

end TableView

end Tables

/-! ## Histories -/

variable {config : Config} {ident : Side → String → String} {scans : FileSystem → Prop} {mode : ScanMode}

end EditorBundles.Catalog
