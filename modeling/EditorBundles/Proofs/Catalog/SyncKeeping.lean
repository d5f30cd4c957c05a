import EditorBundles.Catalog.Sync
import EditorBundles.Proofs.Catalog.Keeping

/-!
# Directories and the documents of a table

Bringing a table in line with a directory drops versions, reads changed files again and adds new ones. Each
document that is read goes to a row, or it is deleted.
-/

namespace EditorBundles.Catalog.EntryTable
set_option autoImplicit false
open PropertyList

variable {ρ : Type} [Row ρ] [Keeper ρ] {t t' : EntryTable ρ} {docs docs' : DocumentTable} {loc : Locality}
  {id : Nat} {v : Tracked}

/-- A document that is stored first and then given to a table. -/
theorem Passes.after_store {docs₁ : DocumentTable} {doc : Nat} (stored : docs.Trades docs₁ [] [doc])
    (passes : Passes [doc] t docs₁ t' docs') : Passes [] t docs t' docs' :=
  ⟨passes.sound, (stored.frame t.held).trans passes.trades⟩

/-- A row that has a version at a locality is there. -/
theorem Sound.here_of_tracked? (h : t.Sound) (source : loc.IsSource) (tracked : t.tracked? docs loc id = some v) :
    t.Here id := by
  obtain ⟨e, found, tracked⟩ := Option.bind_eq_some_iff.1 tracked
  refine ⟨e, found, ?_⟩
  obtain ⟨row, place, rfl⟩ := row?_of_entryAt? found
  split at tracked
  · rename_i contains
    exact ((h.rows row (mem_of_row? place)).live_of_hasSource (source.hasSource_of_contains contains)).here
  · cases tracked

theorem passes_dropMissing (h : t.Sound) (loc : Locality) (files : List String) (docs : DocumentTable)
    (ids : List Nat) :
    Passes [] t docs (dropMissing loc files t docs ids).1 (dropMissing loc files t docs ids).2 := by
  induction ids generalizing t docs with
  | nil => exact .refl h docs
  | cons id ids ih =>
    rw [dropMissing]
    split
    · have first := passes_drop h id loc docs
      exact first.trans (ih first.sound _)
    · exact ih h docs

theorem passes_reloadChanged (h : t.Sound) (source : loc.IsSource) (fs : FileSystem) (dir : String)
    (files : List String) (docs : DocumentTable) (ids : List Nat) :
    Passes [] t docs (reloadChanged fs dir loc files t docs ids).1 (reloadChanged fs dir loc files t docs ids).2.1 := by
  induction ids generalizing t docs files with
  | nil => exact .refl h docs
  | cons id ids ih =>
    rw [reloadChanged]
    cases found : (t.tracked? docs loc id).filter fun v => files.contains v.filename with
    | none => exact ih h files docs
    | some v =>
      simp only
      split
      · cases loaded : docs.load fs (Path.join dir v.filename) with
        | ok result =>
          obtain ⟨docs₁, fresh⟩ := result
          obtain ⟨-, -, -, stored⟩ := DocumentTable.load_eq_ok loaded
          have here := h.here_of_tracked? source (Option.filter_eq_some_iff.1 found).1
          have registered := (passes_register h source here fresh docs₁).after_store stored
          exact registered.trans (ih registered.sound _ _)
        | error fault =>
          have dropped := passes_drop h id loc docs
          exact dropped.trans (ih dropped.sound _ _)
      · exact ih h _ docs

omit [Keeper ρ] in
/-- A row that is found by its identity is not gone. -/
theorem here_of_findUuid? {uuid : String} (found : t.findUuid? uuid = some id) : t.Here id := by
  obtain ⟨bound, matches_, -⟩ := List.findIdx?_eq_some_iff_getElem.1 found
  rw [Bool.and_eq_true, Bool.not_eq_true'] at matches_
  exact here_of_row? (List.getElem?_eq_getElem bound) matches_.1

theorem passes_addNew (h : t.Sound) (source : loc.IsSource) (fs : FileSystem) (dir : String) (docs : DocumentTable)
    (files : List String) :
    Passes [] t docs (addNew fs dir loc t docs files).1 (addNew fs dir loc t docs files).2 := by
  induction files generalizing t docs with
  | nil => exact .refl h docs
  | cons filename files ih =>
    rw [addNew]
    cases loaded : docs.load fs (Path.join dir filename) with
    | error fault => exact ih h docs
    | ok result =>
      obtain ⟨docs₁, fresh⟩ := result
      obtain ⟨-, -, -, stored⟩ := DocumentTable.load_eq_ok loaded
      simp only
      cases known : ((docs₁.get fresh).rootString? "uuid").bind t.findUuid? with
      | some id =>
        obtain ⟨uuid, -, known⟩ := Option.bind_eq_some_iff.1 known
        have registered := (passes_register h source (here_of_findUuid? known) fresh docs₁).after_store stored
        exact registered.trans (ih registered.sound _)
      | none =>
        have inserted := (passes_insert h source fresh docs₁).after_store stored
        exact inserted.trans (ih inserted.sound _)

/-- Bringing a table in line with a directory leaves it sound with all the documents that it needs. -/
theorem passes_sync (h : t.Sound) (source : loc.IsSource) (docs : DocumentTable) (fs : FileSystem) (dir extension : String) :
    Passes [] t docs (t.sync docs fs dir loc extension).1 (t.sync docs fs dir loc extension).2 := by
  rw [sync]
  split
  · generalize (listDir fs dir false fun name => hasExtension name ".plist" || hasExtension name extension) = files
    have dropped := passes_dropMissing h loc files docs (List.range t.size)
    simp only
    generalize dropMissing loc files t docs (List.range t.size) = result at dropped
    obtain ⟨t₁, docs₁⟩ := result
    have reloaded := passes_reloadChanged dropped.sound source fs dir files docs₁ (List.range t₁.size)
    exact dropped.trans (reloaded.trans (passes_addNew reloaded.sound source fs dir _ _))
  · exact passes_dropVanished h loc docs

end EditorBundles.Catalog.EntryTable
