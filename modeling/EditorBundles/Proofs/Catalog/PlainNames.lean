import EditorBundles.Proofs.Catalog.Outcomes
import EditorBundles.Proofs.Catalog.RowChanges
import EditorBundles.Proofs.Catalog.SnapshotRuns
import EditorBundles.Proofs.FileSystem.Frames

/-!
# Names that lead down

The directories of bundles and the files of documents are named by the files that were read, by the catalog, or after
what the user wrote, where slashes are left out. None of these names leads up or through other directories, and this
stays so whatever is done to the tables.
-/

namespace EditorBundles
set_option autoImplicit false
open PropertyList
open EditorBundles.Path (IsPlain)

/-! ## Documents -/

/-- A document that was read is named by the last part of the path that it was read from. -/
theorem PropertyList.Document.isPlain_of_load {fs : FileSystem} {path : String} {d : Document}
    (loaded : Document.load fs path = .ok d) : IsPlain d.filename := by
  obtain ⟨octets, -, loaded⟩ := bind_eq_ok loaded
  obtain ⟨parsed, read, loaded⟩ := bind_eq_ok loaded
  obtain ⟨modTime, -, loaded⟩ := bind_eq_ok loaded
  obtain rfl := Except.ok.inj loaded
  cases last : Path.fileName? path with
  | some name => exact Path.isPlain_of_fileName? last
  | none =>
    have parsing := mapError_eq_ok read
    rw [Document.parse] at parsing
    cases entries : PropertyList.read octets with
    | error fault =>
      rw [entries] at parsing
      cases parsing
    | ok entries_ =>
      rw [entries] at parsing
      obtain rfl := Except.ok.inj parsing
      have unnamed : (Document.ofEntries entries_).filename = "" := (Document.new.sameFile_addEntries _ entries_).1
      exact unnamed ▸ Path.isPlain_empty

namespace PropertyList.DocumentTable

variable {t u : DocumentTable} {d : Document}

/-- The file name of every document leads down. -/
def Plain (t : DocumentTable) : Prop := ∀ index, IsPlain (t.get index).filename

theorem plain_empty : Plain {} := fun _ => Path.isPlain_empty

theorem Plain.thin (h : t.Plain) (thins : t.Thins u) : u.Plain := by
  intro index
  rcases thins index with same | gone
  · rw [same]
    exact h index
  · rw [gone]
    exact Path.isPlain_empty

theorem Plain.set (h : t.Plain) (index : Nat) (plain : IsPlain d.filename) : (t.set index d).Plain := by
  intro other
  rcases t.get_set index other d with new | same
  · rw [new]
    exact plain
  · rw [same]
    exact h other

theorem Plain.modify (h : t.Plain) (index : Nat) {change : Document → Document}
    (plain : ∀ d : Document, IsPlain d.filename → IsPlain (change d).filename) : (t.modify index change).Plain :=
  h.set index (plain _ (h index))

theorem Plain.insert (h : t.Plain) (plain : IsPlain d.filename) : (t.insert d).1.Plain := by
  intro other
  rcases t.get_insert_or d other with new | same
  · rw [new]
    exact plain
  · rw [same]
    exact h other

theorem Plain.load (h : t.Plain) {fs : FileSystem} {path : String} {index : Nat} (loaded : t.load fs path = .ok (u, index)) :
    u.Plain := by
  obtain ⟨d, read, stored, -⟩ := load_eq_ok loaded
  obtain rfl := congrArg Prod.fst stored
  exact h.insert (Document.isPlain_of_load read)

theorem Plain.copy (h : t.Plain) (index : Nat) : (t.copy index).1.Plain := h.insert (h index)

end PropertyList.DocumentTable

namespace Catalog

/-! ## Chosen names -/

theorem IsExtension.isPlain_candidate {extension : String} (h : IsExtension extension) (name : String) (n : Nat) :
    IsPlain (candidate (legalName name) extension n) :=
  ⟨h.slash_not_mem_candidate name n, h.candidate_ne_of_short name (by decide) n, h.candidate_ne_of_short name (by decide) n⟩

theorem isPlain_freeName (fs : FileSystem) (dir name : String) {extension : String} (h : IsExtension extension) :
    IsPlain (freeName fs dir name extension) := by
  obtain ⟨m, chosen, -⟩ := freeNameFrom_cases fs dir (legalName name) extension (fs.nodes.length + 2) 0
  rw [freeName, chosen]
  exact h.isPlain_candidate name m

/-! ## Tables -/

namespace EntryTable

variable {ρ : Type} [Row ρ] {t t' : EntryTable ρ} {docs docs' : DocumentTable} {id : Nat} {loc : Locality}

theorem plain_editable? {own : Nat} (h : docs.Plain) (edited : t.editable? id docs = some (t', docs', own)) : docs'.Plain := by
  obtain ⟨e, found, ⟨-, -, -, rfl⟩ | ⟨source, -, copied, -⟩⟩ := editable?_cases edited
  · exact h
  · obtain rfl := congrArg Prod.fst copied
    exact h.copy source

variable [Thinning ρ]

theorem thins_dropMissing (loc : Locality) (files : List String) (t : EntryTable ρ) (docs : DocumentTable) (ids : List Nat) :
    docs.Thins (dropMissing loc files t docs ids).2 := by
  induction ids generalizing t docs with
  | nil => exact .refl docs
  | cons id ids ih =>
    rw [dropMissing]
    split
    · exact (t.thins_drop id loc docs).trans (ih _ _)
    · exact ih t docs

theorem plain_reloadChanged (h : docs.Plain) (fs : FileSystem) (dir : String) (loc : Locality) (files : List String)
    (t : EntryTable ρ) (ids : List Nat) : (reloadChanged fs dir loc files t docs ids).2.1.Plain := by
  induction ids generalizing t docs files with
  | nil => exact h
  | cons id ids ih =>
    rw [reloadChanged]
    cases (t.tracked? docs loc id).filter fun v => files.contains v.filename with
    | none => exact ih h files t
    | some v =>
      dsimp only
      split
      · cases loaded : docs.load fs (Path.join dir v.filename) with
        | ok result => exact ih ((h.load loaded).thin (thins_register _ _ _ _ _)) _ _
        | error fault => exact ih (h.thin (thins_drop _ _ _ _)) _ _
      · exact ih h _ t

omit [Thinning ρ] in
theorem plain_addNew (h : docs.Plain) (fs : FileSystem) (dir : String) (loc : Locality) (t : EntryTable ρ)
    (files : List String) : (addNew fs dir loc t docs files).2.Plain := by
  induction files generalizing t docs with
  | nil => exact h
  | cons filename files ih =>
    rw [addNew]
    cases loaded : docs.load fs (Path.join dir filename) with
    | error fault => exact ih h t
    | ok result =>
      have stored := h.load loaded
      dsimp only
      split
      · exact ih (stored.thin (thins_register _ _ _ _ _)) _
      · exact ih stored _

/-- A scan of a directory stores documents that it reads there. -/
theorem plain_sync (h : docs.Plain) (t : EntryTable ρ) (fs : FileSystem) (dir : String) (loc : Locality) (extension : String) :
    (t.sync docs fs dir loc extension).2.Plain := by
  rw [sync]
  split
  · exact plain_addNew (plain_reloadChanged (h.thin (thins_dropMissing _ _ _ _ _)) _ _ _ _ _ _) _ _ _ _ _
  · exact h.thin (thins_dropWhere _ _ _ _ _)

end EntryTable

/-! ## Databases -/

/-- Every bundle is in the directory that it was in, or in none. -/
def SameDirs (t t' : EntryTable Bundle) : Prop :=
  EntryTable.Alters (fun b : Bundle => b.dirName = "") (fun b b' : Bundle => b'.dirName = b.dirName) t t'

namespace Database

/-- The names of all directories and files lead down. -/
structure Plain (db : Database) : Prop where
  dirs : ∀ id b, db.bundles.row? id = some b → IsPlain b.dirName
  docs : db.docs.Plain

variable {db : Database} {bundles : EntryTable Bundle} {docs : DocumentTable}

theorem plain_empty : Plain {} where
  dirs id b found := by simp [EntryTable.row?] at found
  docs := DocumentTable.plain_empty

theorem Plain.withDocs (h : db.Plain) (plain : docs.Plain) : Plain { db with docs } := ⟨h.dirs, plain⟩

theorem Plain.withBundles (h : db.Plain) (same : SameDirs db.bundles bundles) (plain : docs.Plain) :
    Plain { db with bundles, docs } where
  dirs id b found := by
    rcases same id b found with none_ | ⟨before, there, rfl | stays⟩
    · exact none_ ▸ Path.isPlain_empty
    · exact h.dirs id b there
    · exact stays ▸ h.dirs id before there
  docs := plain

end Database

end Catalog

end EditorBundles
