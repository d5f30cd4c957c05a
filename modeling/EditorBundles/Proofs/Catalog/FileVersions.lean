import EditorBundles.Proofs.Catalog.LiveRows
import EditorBundles.Proofs.Catalog.Passes

/-!
# Versions that were read from files

A table that scans have filled has nothing but what was read from files, from the shipped directory of its kind and
from the user's own. Where each file has an identity of its own that stays with it, such a table is known by its
versions: which rows they stand in makes no difference.
-/

namespace EditorBundles.Catalog
set_option autoImplicit false
open PropertyList FileSystem

/-! ## Sides -/

/-- The two sides that a theme or an item can have a version on. -/
inductive Side where
  | pristine
  | own
  deriving DecidableEq

namespace Side

/-- The locality of the versions on a side. -/
def loc : Side → Locality
  | .pristine => { pristine := true }
  | .own => { own := true }

theorem isSource (s : Side) : s.loc.IsSource := by cases s <;> constructor

theorem own_loc (s : Side) : s.loc.own = decide (s.loc = { own := true }) := by cases s <;> rfl

end Side

namespace EntryView

variable {e : EntryView} {d : Document} {s s' : Side}

/-- The version on a side. -/
def side (e : EntryView) : Side → Option Document
  | .pristine => e.factory
  | .own => e.own

theorem version_loc (e : EntryView) (s : Side) : e.version s.loc = e.side s := by cases s <;> rfl

/-- The flags of an entry say which versions it has, and nothing else. -/
def Plain (e : EntryView) : Prop := e.locality = { pristine := e.factory.isSome, own := e.own.isSome }

theorem Plain.contains (h : e.Plain) (s : Side) : e.locality.contains s.loc = (e.side s).isSome := by
  rw [h]
  cases s <;> simp [Locality.contains, Side.loc, side]

theorem Plain.hasSource (h : e.Plain) : e.locality.hasSource = true ↔ ∃ s d, e.side s = some d := by
  rw [h, Locality.hasSource, Bool.or_false, Bool.or_eq_true, Option.isSome_iff_exists, Option.isSome_iff_exists]
  constructor
  · rintro (factory | own)
    · exact ⟨.pristine, factory⟩
    · exact ⟨.own, own⟩
  · rintro ⟨s, version⟩
    cases s with
    | pristine => exact .inl version
    | own => exact .inr version

theorem Plain.register (h : e.Plain) (s : Side) (d : Document) : (e.register d s.loc).Plain ∧
    (e.register d s.loc).uuid = (d.rootString? "uuid").getD e.uuid ∧
    ∀ s', (e.register d s.loc).side s' = if s' = s then some d else e.side s' := by
  obtain ⟨uuid, name, locality, modified, factory, own, shadowedFile⟩ := e
  obtain rfl : locality = { pristine := factory.isSome, own := own.isSome } := h
  cases s with
  | pristine =>
    refine ⟨?_, rfl, fun s' => by cases s' <;> rfl⟩
    simp [Plain, EntryView.register, identify, Locality.union, Side.loc]
  | own =>
    refine ⟨?_, rfl, fun s' => by cases s' <;> rfl⟩
    simp [Plain, EntryView.register, identify, Locality.union, Side.loc]

theorem Plain.dropVersions (h : e.Plain) (s : Side) : (e.dropVersions s.loc).1.Plain ∧
    ∀ s', (e.dropVersions s.loc).1.side s' = if s' = s then none else e.side s' := by
  obtain ⟨uuid, name, locality, modified, factory, own, shadowedFile⟩ := e
  obtain rfl : locality = { pristine := factory.isSome, own := own.isSome } := h
  cases s <;> cases factory <;> cases own <;> exact ⟨rfl, fun s' => by cases s' <;> rfl⟩

theorem plain_new (s : Side) (d : Document) : ((new s.loc d).identify d).Plain ∧
    ((new s.loc d).identify d).uuid = (d.rootString? "uuid").getD "" ∧
    ∀ s', ((new s.loc d).identify d).side s' = if s' = s then some d else none := by
  cases s <;> exact ⟨rfl, rfl, fun s' => by cases s' <;> rfl⟩

end EntryView

/-! ## Shelves -/

/-- A directory of versions of a kind, with the identities that the names of its files stand for. -/
structure Shelf where
  dir : String
  extension : String
  ident : String → String

namespace Shelf

/-- The names of the files that can hold versions. -/
def names (s : Shelf) (fs : FileSystem) : List String := TableView.versionFiles fs s.dir s.extension

/-- The path of a file. -/
def path (s : Shelf) (name : String) : String := Path.join s.dir name

/-- A document is the version in one of the files. -/
structure Has (s : Shelf) (fs : FileSystem) (d : Document) : Prop where
  listed : d.filename ∈ s.names fs
  read : Document.load fs (s.path d.filename) = .ok d

/-- What is relied on over a history of file systems: each file has an identity of its own, which goes with its name,
and a time after the epoch; a file with the time that it had when a version was read from it still holds that version. -/
structure Stable (scans : FileSystem → Prop) (s : Shelf) : Prop where
  regular : ∀ fs, scans fs → fs.Regular
  identified : ∀ fs, scans fs → ∀ d, s.Has fs d → d.rootString? "uuid" = some (s.ident d.filename)
  distinct : Function.Injective s.ident
  dated : ∀ fs, scans fs → ∀ d, s.Has fs d → d.modTime ≠ 0
  timely : ∀ fs fs', scans fs → scans fs' → ∀ d, s.Has fs d → d.filename ∈ s.names fs' →
    fs'.modTime (s.path d.filename) = .ok d.modTime → s.Has fs' d

variable {s : Shelf} {fs : FileSystem} {d d' : Document} {name : String}

theorem Has.eq (h : s.Has fs d) (h' : s.Has fs d') (same : d'.filename = d.filename) : d = d' := by
  have read := h'.read
  rw [same, h.read] at read
  exact Except.ok.inj read

theorem names_of_not_isDirectory (missing : fs.isDirectory s.dir = false) : s.names fs = [] := by
  rw [names, TableView.versionFiles]
  exact listDir_of_not_isDirectory missing

theorem nodup_names (regular : fs.Regular) : (s.names fs).Nodup := by
  rw [names, TableView.versionFiles]
  exact regular.nodup_listDir _ _ _

theorem has_of_load (regular : fs.Regular) (listed : name ∈ s.names fs) (read : Document.load fs (s.path name) = .ok d) :
    s.Has fs d ∧ d.filename = name := by
  have named : d.filename = name := by
    rw [names, TableView.versionFiles] at listed
    exact FileSystem.filename_of_load (regular.isFileName_of_mem_listDir listed) read
  exact ⟨⟨named ▸ listed, named ▸ read⟩, named⟩

/-- A file that does not count as changed still holds the version that was read from it. -/
theorem Stable.has_of_not_hasChanged {scans : FileSystem → Prop} {fs' : FileSystem} (stable : s.Stable scans) (member : scans fs)
    (member' : scans fs') (has : s.Has fs d) (listed : d.filename ∈ s.names fs')
    (unchanged : EntryTable.hasChanged fs' (Path.join s.dir d.filename) d = false) : s.Has fs' d := by
  refine stable.timely fs fs' member member' d has listed ?_
  rw [EntryTable.hasChanged] at unchanged
  split at unchanged
  · next modTime time =>
    have same : modTime = d.modTime := by simpa using unchanged
    rw [path, time, same]
  · cases unchanged

end Shelf

/-! ## Tables that were read from files -/

section Tables

variable {ν : Type} [RowView ν] {scans : FileSystem → Prop} {shelf : Side → Shelf} {t t' : TableView ν} {id : Nat}
  {e : EntryView} {d : Document} {s : Side} {fs : FileSystem}

/-- An entry has what was read from files, and the identity that their names stand for. -/
structure EntryView.FromFiles (scans : FileSystem → Prop) (shelf : Side → Shelf) (e : EntryView) : Prop where
  plain : e.Plain
  present : ∃ s d, e.side s = some d
  read : ∀ s d, e.side s = some d → (∃ fs, scans fs ∧ (shelf s).Has fs d) ∧ e.uuid = (shelf s).ident d.filename

/-- What was read from a file is a version that a file holds. -/
theorem EntryView.FromFiles.saved (h : e.FromFiles scans shelf) (stable : (shelf s).Stable scans) :
    (s.loc.own && e.hasUnsavedOwn) = false := by
  cases s with
  | pristine => rfl
  | own =>
    cases version : e.own with
    | none => simp [hasUnsavedOwn, version]
    | some d =>
      obtain ⟨⟨fs, member, has⟩, -⟩ := h.read .own d version
      simp [hasUnsavedOwn, version, stable.dated fs member d has]

theorem EntryView.FromFiles.dropVersions (h : e.FromFiles scans shelf)
    (left : (e.dropVersions s.loc).1.locality.hasSource = true) : (e.dropVersions s.loc).1.FromFiles scans shelf := by
  obtain ⟨plain, side⟩ := h.plain.dropVersions s
  refine ⟨plain, plain.hasSource.1 left, fun s' d version => ?_⟩
  rw [side] at version
  split at version
  · cases version
  · exact h.read s' d version

theorem EntryView.FromFiles.register (h : e.FromFiles scans shelf) (member : scans fs) (has : (shelf s).Has fs d)
    (stable : (shelf s).Stable scans) (same : e.uuid = (shelf s).ident d.filename) :
    (e.register d s.loc).FromFiles scans shelf ∧ (e.register d s.loc).uuid = e.uuid := by
  obtain ⟨plain, uuid, side⟩ := h.plain.register s d
  have kept : (e.register d s.loc).uuid = e.uuid := by rw [uuid, stable.identified fs member d has, Option.getD_some, same]
  refine ⟨⟨plain, ⟨s, d, by rw [side, if_pos rfl]⟩, fun s' d' version => ?_⟩, kept⟩
  rw [kept]
  rw [side] at version
  split at version
  · next equal =>
    cases version
    subst equal
    exact ⟨⟨fs, member, has⟩, same⟩
  · exact h.read s' d' version

/-- An entry that is new has what was read from its file. -/
theorem EntryView.fromFiles_new (member : scans fs) (has : (shelf s).Has fs d) (stable : (shelf s).Stable scans) :
    ((new s.loc d).identify d).FromFiles scans shelf ∧ ((new s.loc d).identify d).uuid = (shelf s).ident d.filename := by
  obtain ⟨plain, uuid, side⟩ := plain_new s d
  rw [stable.identified fs member d has, Option.getD_some] at uuid
  refine ⟨⟨plain, ⟨s, d, by rw [side, if_pos rfl]⟩, fun s' d' version => ?_⟩, uuid⟩
  rw [side] at version
  split at version
  · next equal =>
    cases version
    subst equal
    exact ⟨⟨fs, member, has⟩, uuid⟩
  · cases version

namespace TableView

/-- The version that a row has on a side. -/
def version? (t : TableView ν) (id : Nat) (s : Side) : Option Document := (t.live? id).bind (·.side s)

/-- All rows that are not gone have what was read from files, and no two of them have one identity. -/
structure FromFiles (scans : FileSystem → Prop) (shelf : Side → Shelf) (t : TableView ν) : Prop where
  tidy : t.Tidy
  entries : ∀ id e, t.live? id = some e → e.FromFiles scans shelf
  alone : ∀ id id' e e', t.live? id = some e → t.live? id' = some e' → e.uuid = e'.uuid → id = id'

theorem version?_eq_some : t.version? id s = some d ↔ ∃ e, t.live? id = some e ∧ e.side s = some d := Option.bind_eq_some_iff

/-- No two rows have a version from one file. -/
theorem FromFiles.eq_of_filename (h : t.FromFiles scans shelf) {id' : Nat} {d' : Document} (there : t.version? id s = some d)
    (there' : t.version? id' s = some d') (same : d.filename = d'.filename) : id = id' := by
  obtain ⟨e, live, version⟩ := version?_eq_some.1 there
  obtain ⟨e', live', version'⟩ := version?_eq_some.1 there'
  refine h.alone id id' e e' live live' ?_
  rw [((h.entries id e live).read s d version).2, ((h.entries id' e' live').read s d' version').2, same]

theorem version?_of_live? (live : t.live? id = some e) : t.version? id s = e.side s := by rw [version?, live, Option.bind_some]

/-- What a scan finds out about a row. -/
theorem FromFiles.tracked?_eq (h : t.FromFiles scans shelf) (stable : (shelf s).Stable scans) (id : Nat) :
    t.tracked? s.loc id = (t.version? id s).map fun d => ⟨d, d.filename, false⟩ := by
  cases found : t.entryAt? id with
  | none => rw [tracked?, version?, live?, found]; rfl
  | some e =>
    rw [tracked?, found]
    by_cases contains : e.locality.contains s.loc = true
    · have live := h.tidy.live?_of_hasSource found (s.isSource.hasSource_of_contains contains)
      have plain := (h.entries id e live).plain
      rw [plain.contains, Option.isSome_iff_exists] at contains
      obtain ⟨d, version⟩ := contains
      have installed : e.locality.installed = false := by rw [plain]
      have saved : (decide (s.loc = { own := true }) && e.hasUnsavedOwn) = false := by
        rw [← Side.own_loc]
        exact (h.entries id e live).saved stable
      rw [version?_of_live? live, version]
      simp [plain.contains, EntryView.version_loc, version, installed, saved]
    · rw [version?]
      cases live : t.live? id with
      | none => simp [contains]
      | some e' =>
        rw [entryAt?_of_live? live] at found
        cases found
        rw [(h.entries id e live).plain.contains, Bool.not_eq_true, Option.isSome_eq_false_iff,
          Option.isNone_iff_eq_none] at contains
        simp [(h.entries id e live).plain.contains, contains]

/-- Rows that have what was read from files, each in the place of one with the same identity. -/
theorem FromFiles.of_rows (h : t.FromFiles scans shelf) (tidy : t'.Tidy) (rows : ∀ id e', t'.live? id = some e' →
    e'.FromFiles scans shelf ∧ ∃ e, t.live? id = some e ∧ e.uuid = e'.uuid) : t'.FromFiles scans shelf where
  tidy := tidy
  entries id e' live := (rows id e' live).1
  alone id₁ id₂ e₁ e₂ live₁ live₂ same := by
    obtain ⟨-, e₁', live₁', same₁⟩ := rows id₁ e₁ live₁
    obtain ⟨-, e₂', live₂', same₂⟩ := rows id₂ e₂ live₂
    exact h.alone id₁ id₂ e₁' e₂' live₁' live₂' (same₁.trans (same.trans same₂.symm))

/-- A table shows what another shows: to each row that is not gone there is one with the same identity, the same flags
and the same versions. -/
def Shows (t t' : TableView ν) : Prop := ∀ id e, t.live? id = some e → ∃ id' e', t'.live? id' = some e' ∧
  e'.uuid = e.uuid ∧ e'.locality = e.locality ∧ e'.factory = e.factory ∧ e'.own = e.own

/-- Tables that were read from files show the same if they have the same versions. -/
theorem FromFiles.shows (h : t.FromFiles scans shelf) (h' : t'.FromFiles scans shelf)
    (same : ∀ s d, (∃ id, t.version? id s = some d) ↔ ∃ id, t'.version? id s = some d) : t.Shows t' := by
  intro id e live
  obtain ⟨plain, ⟨s, d, version⟩, read⟩ := h.entries id e live
  obtain ⟨id', version'⟩ := (same s d).1 ⟨id, (version?_of_live? live).trans version⟩
  obtain ⟨e', live', version'⟩ := version?_eq_some.1 version'
  obtain ⟨plain', -, read'⟩ := h'.entries id' e' live'
  have uuid : e'.uuid = e.uuid := (read' s d version').2.trans (read s d version).2.symm
  have sides (s : Side) : e'.side s = e.side s := by
    refine Option.ext fun d => ⟨fun there' => ?_, fun there => ?_⟩
    · obtain ⟨other, version⟩ := (same s d).2 ⟨id', (version?_of_live? live').trans there'⟩
      obtain ⟨e₁, live₁, there₁⟩ := version?_eq_some.1 version
      have identity := ((h.entries other e₁ live₁).read s d there₁).2.trans (read' s d there').2.symm
      obtain rfl := h.alone other id e₁ e live₁ live (identity.trans uuid)
      rw [live] at live₁
      cases live₁
      exact there₁
    · obtain ⟨other, version⟩ := (same s d).1 ⟨id, (version?_of_live? live).trans there⟩
      obtain ⟨e₁, live₁, there₁⟩ := version?_eq_some.1 version
      have identity := ((h'.entries other e₁ live₁).read s d there₁).2.trans (read s d there).2.symm
      obtain rfl := h'.alone other id' e₁ e' live₁ live' (identity.trans uuid.symm)
      rw [live'] at live₁
      cases live₁
      exact there₁
  have factory : e'.factory = e.factory := sides .pristine
  have own : e'.own = e.own := sides .own
  exact ⟨id', e', live', uuid, by rw [plain, plain', factory, own], factory, own⟩

variable [LawfulRowView ν]

theorem FromFiles.drop (h : t.FromFiles scans shelf) (live : t.live? id = some e) (s : Side) :
    (t.drop id s.loc).FromFiles scans shelf ∧ ∀ id' s', (t.drop id s.loc).version? id' s' =
      if id' = id ∧ s' = s then none else t.version? id' s' := by
  have entry := h.entries id e live
  obtain ⟨plain, side⟩ := entry.plain.dropVersions s
  have self := live?_drop_self t live s.loc
  have others {id' : Nat} (different : id' ≠ id) : (t.drop id s.loc).live? id' = t.live? id' :=
    live?_drop_of_ne (Ne.symm different) t s.loc
  refine ⟨h.of_rows (h.tidy.drop s.isSource id) fun id' e' live' => ?_, fun id' s' => ?_⟩
  · by_cases same : id' = id
    · subst same
      rw [self] at live'
      split at live'
      · next left =>
        cases live'
        exact ⟨entry.dropVersions left, e, live, rfl⟩
      · cases live'
    · rw [others same] at live'
      exact ⟨h.entries id' e' live', e', live', rfl⟩
  · by_cases same : id' = id
    · subst same
      rw [version?, self, version?_of_live? live]
      split
      · rw [Option.bind_some, side]
        simp
      · next nothing =>
        rw [plain.hasSource] at nothing
        have gone : (e.dropVersions s.loc).1.side s' = none := by
          cases version : (e.dropVersions s.loc).1.side s' with
          | none => rfl
          | some d => exact absurd ⟨s', d, version⟩ nothing
        rw [side] at gone
        split at gone
        · next same => simp [same]
        · simp [gone]
    · rw [version?, others same, if_neg fun both => same both.1, version?]

theorem FromFiles.register (h : t.FromFiles scans shelf) (live : t.live? id = some e) (member : scans fs)
    (has : (shelf s).Has fs d) (stable : (shelf s).Stable scans) (same : e.uuid = (shelf s).ident d.filename) :
    (t.register id d s.loc).FromFiles scans shelf ∧ ∀ id' s', (t.register id d s.loc).version? id' s' =
      if id' = id ∧ s' = s then some d else t.version? id' s' := by
  have entry := h.entries id e live
  have rows (id' : Nat) : (t.register id d s.loc).live? id' = if id = id' then some (e.register d s.loc) else t.live? id' := by
    rw [live?_register s.isSource]
    split
    · next equal => rw [← equal, live, Option.map_some]
    · rfl
  refine ⟨h.of_rows (h.tidy.register live s.isSource d) fun id' e' live' => ?_, fun id' s' => ?_⟩
  · rw [rows] at live'
    split at live'
    · next equal =>
      cases live'
      obtain ⟨whole, kept⟩ := entry.register member has stable same
      exact ⟨whole, e, equal ▸ live, kept.symm⟩
    · exact ⟨h.entries id' e' live', e', live', rfl⟩
  · rw [version?, rows]
    by_cases equal : id = id'
    · subst equal
      rw [if_pos rfl, Option.bind_some, (entry.plain.register s d).2.2, version?_of_live? live]
      simp
    · rw [if_neg equal, if_neg fun both => equal both.1.symm, version?]

theorem FromFiles.insert (h : t.FromFiles scans shelf) (member : scans fs) (has : (shelf s).Has fs d)
    (stable : (shelf s).Stable scans) (fresh : ∀ id e, t.live? id = some e → e.uuid ≠ (shelf s).ident d.filename) :
    (t.insert d s.loc).1.FromFiles scans shelf ∧ ∀ id' s', (t.insert d s.loc).1.version? id' s' =
      if id' = (t.insert d s.loc).2 ∧ s' = s then some d else t.version? id' s' := by
  obtain ⟨entry, uuid⟩ := EntryView.fromFiles_new member has stable
  have rows (id' : Nat) := live?_insert s.isSource t d id'
  refine ⟨⟨h.tidy.insert s.isSource d, fun id' e' live' => ?_, fun id₁ id₂ e₁ e₂ live₁ live₂ same => ?_⟩, fun id' s' => ?_⟩
  · rw [rows] at live'
    split at live'
    · cases live'
      exact entry
    · exact h.entries id' e' live'
  · rw [rows] at live₁ live₂
    split at live₁
    · next equal₁ =>
      cases live₁
      split at live₂
      · next equal₂ => exact equal₁.symm.trans equal₂
      · exact absurd (same.symm.trans uuid) (fresh id₂ e₂ live₂)
    · split at live₂
      · cases live₂
        exact absurd (same.trans uuid) (fresh id₁ e₁ live₁)
      · exact h.alone id₁ id₂ e₁ e₂ live₁ live₂ same
  · rw [version?, rows]
    by_cases equal : (t.insert d s.loc).2 = id'
    · subst equal
      rw [if_pos rfl, Option.bind_some, (EntryView.plain_new s d).2.2, version?, live?_insert_new]
      simp
    · rw [if_neg equal, if_neg fun both => equal both.1.symm, version?]

end TableView

end Tables

end EditorBundles.Catalog
