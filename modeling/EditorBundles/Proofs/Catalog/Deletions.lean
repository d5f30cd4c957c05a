import EditorBundles.Proofs.Catalog.EntryFlags
import EditorBundles.Proofs.Catalog.Isolation
import EditorBundles.Proofs.Catalog.StableRows
import EditorBundles.Proofs.Catalog.UnreadableFiles
import EditorBundles.Proofs.PropertyList.TableHistory

/-!
# Deleting and restoring a row

Deleting a row takes its own version out of it, deletes the file of that version, frees its document, and then hides the
row behind its factory version or removes it. A file that cannot be deleted stops it in the middle, and what was taken
out is put back. `deleteInSteps` goes through these steps one by one. A row that was hidden so is restored to what it was
without its own version.
-/

namespace EditorBundles.FileSystem
set_option autoImplicit false

variable {fs fs' : FileSystem} {path : String}

/-- A file is gone, or was not there; all other files and all directories are what they were. -/
structure Removes (path : String) (fs fs' : FileSystem) : Prop where
  gone : fs'.pathExists path = false
  idle : fs.pathExists path = false → fs' = fs
  files : ∀ here, here ≠ Path.place path → fs'.fileAt? here = fs.fileAt? here
  directories : ∀ here, fs'.HasDirectory here ↔ fs.HasDirectory here

theorem pathExists_eq_false_iff : fs.pathExists path = false ↔ ∃ fault, fs.locate path = .error fault := by
  rw [pathExists]
  cases fs.locate path with
  | error fault => simp [Except.toBool]
  | ok found => simp [Except.toBool]

/-- Nothing is found where there is no node. -/
theorem pathExists_of_node? (none_ : fs.node? (Path.place path) = none) : fs.pathExists path = false := by
  rw [pathExists_eq_false_iff]
  cases located : fs.locate path with
  | error fault => exact ⟨fault, rfl⟩
  | ok found =>
    obtain ⟨place, node⟩ := found
    obtain ⟨-, there, -⟩ := locate_eq_ok.1 located
    rw [place_of_locate located, none_] at there
    cases there

variable {here place : Place} {node : FileNode}

/-- A file of a tree is in a directory. -/
theorem Tree.around_file (tree : fs.Tree) (found : fs.node? here = some node) (file : node.isDirectory = false) :
    fs.HasDirectory here.dropLast := by
  rcases List.eq_nil_or_concat' here with rfl | ⟨around, name, rfl⟩
  · obtain ⟨mode, modified, top⟩ := tree.top
    rw [found] at top
    obtain rfl := Option.some.inj top
    cases file
  · rw [List.dropLast_concat]
    exact tree.around around name (Option.isSome_iff_exists.2 ⟨node, found⟩)

/-- Below a file there is nothing, so that only the file is taken out with it. -/
theorem Tree.node?_dropNodes_file (tree : fs.Tree) (found : fs.node? here = some node) (file : node.isDirectory = false)
    (different : place ≠ here) : (fs.dropNodes here).node? place = (fs.stampParent here).node? place := by
  rw [node?_dropNodes]
  split
  · rename_i below
    symm
    rw [← contentAt?_eq_none_iff, contentAt?_stampParent, contentAt?_eq_none_iff]
    exact tree.node?_below_file found file below (Ne.symm different)
  · rfl

/-- Removing a file of a tree takes nothing else away. -/
theorem removes_of_removeFile (tree : fs.Tree) (removed : fs.removeFile path = .ok fs') : Removes path fs fs' := by
  rw [removeFile] at removed
  split at removed
  · cases removed
  · cases removed
  · rename_i place octets mode modified located
    obtain rfl := Except.ok.inj removed
    obtain ⟨-, there, -⟩ := locate_eq_ok.1 located
    obtain rfl := place_of_locate located
    have gone : (fs.dropNodes (Path.place path)).node? (Path.place path) = none := by
      rw [node?_dropNodes, if_pos (List.prefix_refl _)]
    constructor
    · exact pathExists_of_node? gone
    · intro missing
      obtain ⟨fault, failed⟩ := pathExists_eq_false_iff.1 missing
      rw [located] at failed
      cases failed
    · intro here different
      rw [fileAt?, tree.node?_dropNodes_file there rfl different]
      exact fileAt?_stampParent (tree.around_file there rfl) here
    · intro here
      by_cases same : here = Path.place path
      · subst same
        simp [HasDirectory, gone, there]
      · rw [← contentAt?_eq_directory_iff, contentAt?, tree.node?_dropNodes_file there rfl same, ← contentAt?,
          contentAt?_stampParent, contentAt?_eq_directory_iff]

/-- Where no file is found, nothing has to be removed. -/
theorem removes_of_notFound (missing : fs.removeFile path = .error .notFound) : Removes path fs fs := by
  refine ⟨?_, fun _ => rfl, fun _ _ => rfl, fun _ => Iff.rfl⟩
  rw [pathExists_eq_false_iff]
  rw [removeFile] at missing
  split at missing
  · rename_i fault located
    exact ⟨fault, located⟩
  · cases missing
  · cases missing

end EditorBundles.FileSystem

namespace EditorBundles.Catalog
set_option autoImplicit false
open PropertyList

/-- Without its own version an entry has its other marks. -/
theorem Entry.locality_disowned (e : Entry) : e.disowned.locality = { e.locality with own := false } := by
  rw [disowned]
  split
  · rfl
  · rename_i unmarked
    have own : e.locality.own = false := Bool.not_eq_true _ ▸ unmarked
    dsimp only
    rw [← own]

/-- Where nothing hides the factory version and there is no own version before it, it is in effect. -/
theorem Entry.resolve_eq_factoryDoc {e : Entry} (here : e.locality.deleted = false) (shown : e.locality.disabled = false)
    (own : e.locality.own = false) (factory : e.locality.isFactory = true) : e.resolve = e.factoryDoc := by
  simp [resolve, Locality.isHidden, here, shown, own, factory]

namespace EntryTable

section
variable {ρ : Type} [Row ρ] {t t' : EntryTable ρ} {docs docs' : DocumentTable} {fs fs' : FileSystem} {id : Nat}
  {e : Entry} {dir filename : String} {fault : FileFault}

/-! ## Deleting the file -/

/-- The file of an own version is gone afterwards. -/
theorem removes_deleteFile (tree : fs.Tree) (named : filename ≠ "") (deleted : deleteFile fs dir filename = .ok fs') :
    FileSystem.Removes (Path.join dir filename) fs fs' := by
  rw [deleteFile, String.isEmpty_eq_false_iff.2 named, if_neg Bool.false_ne_true] at deleted
  split at deleted
  · rename_i missing
    obtain rfl := Except.ok.inj deleted
    exact FileSystem.removes_of_notFound missing
  · exact FileSystem.removes_of_removeFile tree deleted

theorem deleteFile_empty (fs : FileSystem) (dir : String) : deleteFile fs dir "" = .ok fs := rfl

/-- Only a file that is there and cannot be removed stands in the way. -/
theorem deleteFile_eq_error_iff : deleteFile fs dir filename = .error fault ↔
    filename ≠ "" ∧ fs.removeFile (Path.join dir filename) = .error fault ∧ fault ≠ .notFound := by
  by_cases named : filename = ""
  · simp [named, deleteFile_empty]
  · rw [deleteFile, String.isEmpty_eq_false_iff.2 named, if_neg Bool.false_ne_true]
    cases fs.removeFile (Path.join dir filename) with
    | ok fs' => simp
    | error fault' => cases fault' <;> simp +contextual [named, eq_comm]

/-- The files after the own version of an entry is deleted. -/
def deleteOwnFile (e : Entry) (dir : String) (docs : DocumentTable) (fs : FileSystem) : Except FileFault FileSystem :=
  match if e.locality.own then e.ownDoc else none with
  | some own => deleteFile fs dir (docs.get own).filename
  | none => .ok fs

/-! ## The steps of a deletion -/

/-- Hides a row that has a factory version, and removes it else. -/
def conceal (t : EntryTable ρ) (id : Nat) (docs : DocumentTable) (fs : FileSystem) :
    EntryTable ρ × DocumentTable × FileSystem :=
  if (t.entryAt? id).any fun e => e.locality.isFactory then
    (t.modifyEntry id fun e => { e with locality := { e.locality with disabled := true } }, docs, fs)
  else ((t.removeRow id docs).1, (t.removeRow id docs).2, fs)

/-- Takes the mark of an own version from a row. -/
def unmark (t : EntryTable ρ) (id : Nat) : EntryTable ρ :=
  t.modifyEntry id fun e => { e with locality := { e.locality with own := false }, modified := false }

/-- `delete` with all that there is in between: the own document is taken out of its row before its file is deleted, and
is put back if that fails. -/
def deleteInSteps (t : EntryTable ρ) (id : Nat) (dir : String) (docs : DocumentTable) (fs : FileSystem) :
    (EntryTable ρ × DocumentTable × FileSystem) × Except FileFault Unit :=
  match t.entryAt? id with
  | none => ((t, docs, fs), .ok ())
  | some e =>
    if e.locality.own then
      let taken := t.modifyEntry id fun e => { e with ownDoc := none }
      match e.ownDoc with
      | none => ((taken.unmark id).conceal id docs fs, .ok ())
      | some own =>
        match deleteFile fs dir (docs.get own).filename with
        | .error fault => ((taken.modifyEntry id fun e => { e with ownDoc := some own }, docs, fs), .error fault)
        | .ok fs => ((taken.unmark id).conceal id (docs.delete own) fs, .ok ())
    else (t.conceal id docs fs, .ok ())

variable [LawfulRow ρ]

/-- What becomes of a row that is there once its own version is gone. -/
theorem conceal_modifyEntry (found : t.entryAt? id = some e) (e' : Entry) (docs : DocumentTable) (fs : FileSystem) :
    (t.modifyEntry id fun _ => e').conceal id docs fs =
      if e'.locality.isFactory then
        (t.modifyEntry id fun _ => { e' with locality := { e'.locality with disabled := true } }, docs, fs)
      else (((t.modifyEntry id fun _ => e').removeRow id docs).1, ((t.modifyEntry id fun _ => e').removeRow id docs).2,
        fs) := by
  rw [conceal, entryAt?_modifyEntry_self, found, modifyEntry_modifyEntry]
  rfl

/-- Once the file of its own version is deleted, a row goes on without that version. -/
theorem delete_eq (found : t.entryAt? id = some e) (dir : String) (docs : DocumentTable) (fs : FileSystem) :
    t.delete id dir docs fs = (deleteOwnFile e dir docs fs).map ((t.modifyEntry id fun _ => e.disowned).conceal id
      (dropDoc docs (if e.locality.own then e.ownDoc else none))) := by
  have ending (own : Option Nat) (fs : FileSystem) :
      (if e.disowned.locality.isFactory then
          .ok (t.modifyEntry id fun _ =>
            { e.disowned with locality := { e.disowned.locality with disabled := true } }, dropDoc docs own, fs)
        else
          .ok (((t.modifyEntry id fun _ => e.disowned).removeRow id (dropDoc docs own)).1,
            ((t.modifyEntry id fun _ => e.disowned).removeRow id (dropDoc docs own)).2, fs) :
          Except FileFault (EntryTable ρ × DocumentTable × FileSystem)) =
        .ok ((t.modifyEntry id fun _ => e.disowned).conceal id (dropDoc docs own) fs) := by
    rw [conceal_modifyEntry found]
    split <;> rfl
  rw [delete, found, deleteOwnFile]
  dsimp only
  generalize (if e.locality.own then e.ownDoc else none) = own
  cases own with
  | none => exact ending none fs
  | some own =>
    change (deleteFile fs dir (docs.get own).filename).bind _ = _
    dsimp only
    cases deleteFile fs dir (docs.get own).filename with
    | error fault => rfl
    | ok fs' => exact ending (some own) fs'

/-- Going step by step, a deletion does what it does at once; where it fails, nothing is changed. -/
theorem deleteInSteps_eq (t : EntryTable ρ) (id : Nat) (dir : String) (docs : DocumentTable) (fs : FileSystem) :
    t.deleteInSteps id dir docs fs =
      match t.delete id dir docs fs with
      | .ok s => (s, .ok ())
      | .error fault => ((t, docs, fs), .error fault) := by
  rw [deleteInSteps]
  cases found : t.entryAt? id with
  | none =>
    rw [delete, found]
    rfl
  | some e =>
    rw [delete_eq found, deleteOwnFile, Entry.disowned]
    dsimp only
    cases flag : e.locality.own with
    | false =>
      simp only [Bool.false_eq_true, if_false, modifyEntry_self found]
      rfl
    | true =>
      simp only [if_true, unmark, modifyEntry_modifyEntry, modifyEntry_const found]
      cases named : e.ownDoc with
      | none => rfl
      | some own =>
        dsimp only
        cases deleteFile fs dir (docs.get own).filename with
        | error fault =>
          have put : t.modifyEntry id (fun _ => { e with ownDoc := some own }) = t := by
            rw [← named]
            exact modifyEntry_self found
          exact congrArg (fun t => ((t, docs, fs), Except.error fault)) put
        | ok fs' => rfl

theorem deleteInSteps_eq_ok_iff {s : EntryTable ρ × DocumentTable × FileSystem} :
    t.deleteInSteps id dir docs fs = (s, .ok ()) ↔ t.delete id dir docs fs = .ok s := by
  rw [deleteInSteps_eq]
  cases t.delete id dir docs fs <;> simp

theorem deleteInSteps_eq_error_iff {s : EntryTable ρ × DocumentTable × FileSystem} :
    t.deleteInSteps id dir docs fs = (s, .error fault) ↔
      t.delete id dir docs fs = .error fault ∧ s = (t, docs, fs) := by
  rw [deleteInSteps_eq]
  cases t.delete id dir docs fs <;> simp [eq_comm, and_comm]

theorem delete_eq_error_iff (found : t.entryAt? id = some e) :
    t.delete id dir docs fs = .error fault ↔ deleteOwnFile e dir docs fs = .error fault := by
  rw [delete_eq found]
  cases deleteOwnFile e dir docs fs <;> simp [Except.map]

theorem deleteOwnFile_of_delete (found : t.entryAt? id = some e)
    (deleted : t.delete id dir docs fs = .ok (t', docs', fs')) : deleteOwnFile e dir docs fs = .ok fs' := by
  rw [delete_eq found] at deleted
  obtain ⟨fs₁, done, concealed⟩ := map_eq_ok deleted
  rw [conceal_modifyEntry found] at concealed
  split at concealed
  · cases concealed
    exact done
  · cases concealed
    exact done

end

/-! ## What a deletion leaves -/

section
variable {ρ : Type} [Row ρ]

/-- A row is hidden behind its factory version, whose document is what it was. Restoring it brings that document into
effect, and leaves it the marks that it had, without that of an own version. -/
structure Hidden (docs : DocumentTable) (id : Nat) (e : Entry) (t' : EntryTable ρ) (docs' : DocumentTable) : Prop where
  marked : ∃ e', t'.entryAt? id = some e' ∧ e'.factoryDoc = e.factoryDoc ∧
    e'.locality = { e.locality with own := false, disabled := true }
  unresolved : t'.resolve id = none
  restorable : (t'.restore id).2 = true
  restored : ∃ doc, e.factoryDoc = some doc ∧ docs'.isLive doc = true ∧ docs'.get doc = docs.get doc ∧
    (t'.restore id).1.resolve id = some doc
  marks : ((t'.restore id).1.entryAt? id).map Entry.locality = some { e.locality with own := false, disabled := false }

/-- A row has no own version any more, its document is free and its file is gone, and nothing else of the files is
touched. The row is hidden if it has a factory version, and gone else. -/
structure Deleted (docs : DocumentTable) (fs : FileSystem) (id : Nat) (dir : String) (e : Entry) (t' : EntryTable ρ)
    (docs' : DocumentTable) (fs' : FileSystem) : Prop where
  disowned : ∀ e', t'.entryAt? id = some e' → e'.locality.own = false ∧ e'.ownDoc = none
  freed : ∀ own, e.ownDoc = some own → docs'.isLive own = false ∧ own ∈ docs'.free
  file : ∀ own, e.ownDoc = some own → (docs.get own).filename ≠ "" →
    FileSystem.Removes (Path.join dir (docs.get own).filename) fs fs'
  noFile : (∀ own, e.ownDoc = some own → (docs.get own).filename = "") → fs' = fs
  hidden : e.locality.isFactory = true → Hidden docs id e t' docs'
  gone : e.locality.isFactory = false → t'.row? id = none ∨ t'.row? id = some (Row.ofEntry Entry.tombstone)

/-- A row can be deleted, unless the file of its own version is there and cannot be removed; then nothing is changed. -/
structure Deletable (t : EntryTable ρ) (docs : DocumentTable) (id : Nat) (e : Entry) : Prop where
  deleted : ∀ {dir : String} {fs fs' : FileSystem} {t' : EntryTable ρ} {docs' : DocumentTable}, fs.Tree →
    t.deleteInSteps id dir docs fs = ((t', docs', fs'), .ok ()) → Deleted docs fs id dir e t' docs' fs'
  unchanged : ∀ {dir : String} {fs : FileSystem} {s : EntryTable ρ × DocumentTable × FileSystem} {fault : FileFault},
    t.deleteInSteps id dir docs fs = (s, .error fault) → s = (t, docs, fs)
  fails_iff : ∀ {dir : String} {fs : FileSystem} {fault : FileFault},
    (∃ s, t.deleteInSteps id dir docs fs = (s, .error fault)) ↔ ∃ own, e.ownDoc = some own ∧
      (docs.get own).filename ≠ "" ∧ fs.removeFile (Path.join dir (docs.get own).filename) = .error fault ∧
      fault ≠ .notFound

end

section
variable {ρ : Type} [Row ρ] {t t' : EntryTable ρ} {docs docs' : DocumentTable} {fs fs' : FileSystem} {id : Nat}
  {e : Entry} {dir : String} {fault : FileFault}

theorem deleteOwnFile_eq (agrees : e.Agrees) (dir : String) (docs : DocumentTable) (fs : FileSystem) :
    deleteOwnFile e dir docs fs = match e.ownDoc with
      | some own => deleteFile fs dir (docs.get own).filename
      | none => .ok fs := by
  rw [deleteOwnFile, (Entry.disowned_eq agrees).1]

/-- The document of a deleted own version is not there any more. -/
theorem not_isLive_of_delete [Pruning ρ] (found : t.entryAt? id = some e) (agrees : e.Agrees)
    (deleted : t.delete id dir docs fs = .ok (t', docs', fs')) {own : Nat} (named : e.ownDoc = some own) :
    docs'.isLive own = false := by
  obtain ⟨docs₁, dropped, cases⟩ := delete_cases found deleted
  rw [(Entry.disowned_eq agrees).1, named] at dropped
  have prunes : docs₁.Prunes docs' := by
    rcases cases with ⟨-, rfl, -⟩ | ⟨-, removed⟩
    · exact .refl docs'
    · rw [show docs' = _ from congrArg Prod.snd removed]
      exact prunes_removeRow _ id docs₁
  rw [← Bool.not_eq_true]
  intro live
  have before := prunes.isLive live
  rw [dropped] at before
  exact Bool.false_ne_true ((docs.isLive_delete own).symm.trans before)

/-- A row without a factory version is gone once it is deleted. -/
theorem row?_of_delete (found : t.entryAt? id = some e) (agrees : e.Agrees) (noFactory : e.locality.isFactory = false)
    (deleted : t.delete id dir docs fs = .ok (t', docs', fs')) :
    t'.row? id = none ∨ t'.row? id = some (Row.ofEntry Entry.tombstone) := by
  obtain ⟨docs₁, -, ⟨factory, -⟩ | ⟨-, removed⟩⟩ := delete_cases found deleted
  · rw [(Entry.disowned_eq agrees).2.2.2.2.1, noFactory] at factory
    cases factory
  · obtain ⟨row, there, rfl⟩ := row?_of_entryAt? found
    rw [modifyEntry_eq there] at removed
    rw [show t' = _ from congrArg Prod.fst removed, fst_removeRow (row?_setRow_self (lt_of_row? there) _)]
    cases still : (cut (t.setRow id (Row.withEntry row (Row.entry row).disowned)) id).row? id with
    | none => exact .inl rfl
    | some left =>
      rcases row?_cut still with rfl | ⟨different, -⟩
      · exact .inr rfl
      · exact absurd rfl different

/-- A row with a factory version is marked as disabled once it is deleted, and is else what it is without its own
version. -/
theorem entryAt?_of_delete (found : t.entryAt? id = some e) (agrees : e.Agrees) (factory : e.locality.isFactory = true)
    (deleted : t.delete id dir docs fs = .ok (t', docs', fs')) :
    t'.entryAt? id = some { e.disowned with locality := { e.disowned.locality with disabled := true } } := by
  obtain ⟨docs₁, -, ⟨-, -, rfl⟩ | ⟨noFactory, -⟩⟩ := delete_cases found deleted
  · rw [entryAt?_modifyEntry_self, found]
    rfl
  · rw [(Entry.disowned_eq agrees).2.2.2.2.1, factory] at noFactory
    cases noFactory

/-- Restoring a disabled row brings its factory version into effect. -/
theorem restore_of_disabled (found : t.entryAt? id = some e) (factory : e.locality.isFactory = true)
    (disabled : e.locality.disabled = true) : t.restore id =
      (t.modifyEntry id fun _ => { e with locality := { e.locality with disabled := false } }, true) := by
  rw [restore, found]
  simp only [disabled, factory, Bool.and_self, if_true]
  rw [modifyEntry_const found]

variable [Nesting ρ] {others : List Nat}

/-- The documents that are named after a row was deleted are still there. -/
theorem exists_holding_of_delete (holding : docs.Holding (t.entries.flatMap Entry.held ++ others))
    (deleted : t.delete id dir docs fs = .ok (t', docs', fs')) :
    ∃ left, docs'.Holding (left ++ t'.entries.flatMap Entry.held ++ others) := by
  obtain ⟨left, trades⟩ := (carries_delete deleted).trades
  exact ⟨left, (trades others holding).1⟩

theorem mem_held_of_entryAt? (found : t.entryAt? id = some e) {doc : Nat} (named : doc ∈ e.held) :
    doc ∈ t.entries.flatMap Entry.held := by
  obtain ⟨row, there, rfl⟩ := row?_of_entryAt? found
  exact namedIn_subset there (List.mem_flatMap.2 ⟨_, List.mem_cons_self, named⟩)

variable [Pruning ρ]

/-- A deleted row that has a factory version can be restored. -/
theorem hidden_of_delete (holding : docs.Holding (t.entries.flatMap Entry.held ++ others))
    (found : t.entryAt? id = some e) (here : e.isTombstone = false) (agrees : e.Agrees)
    (factory : e.locality.isFactory = true) (deleted : t.delete id dir docs fs = .ok (t', docs', fs')) :
    Hidden docs id e t' docs' := by
  have found' := entryAt?_of_delete found agrees factory deleted
  obtain ⟨-, -, own, factoryDoc, isFactory, stays⟩ := Entry.disowned_eq agrees
  have locality : e.disowned.locality = { e.locality with own := false } := e.locality_disowned
  have resolved : t'.restore id = _ := restore_of_disabled found' (isFactory.trans factory) rfl
  obtain ⟨doc, named⟩ := Option.isSome_iff_exists.1 (agrees.factory.symm.trans factory)
  obtain ⟨left, holding'⟩ := exists_holding_of_delete holding deleted
  have live : docs'.isLive doc = true := by
    refine holding'.mem_iff.1 (List.mem_append_left _ (List.mem_append_right _ ?_))
    apply mem_held_of_entryAt? found'
    simp [Entry.held, factoryDoc, named]
  constructor
  · exact ⟨_, found', factoryDoc, by rw [locality]⟩
  · rw [resolve, found', Option.bind_some]
    apply Entry.resolve_eq_none_of_isHidden
    rfl
  · rw [resolved]
  · refine ⟨doc, named, live, (prunes_deleteRow deleted).kept doc live, ?_⟩
    rw [resolved, resolve, entryAt?_modifyEntry_self, found', Option.map_some, Option.bind_some]
    refine (Entry.resolve_eq_factoryDoc ?_ rfl ?_ ?_).trans (factoryDoc.trans named)
    · exact stays.trans here
    · exact own
    · exact isFactory.trans factory
  · rw [resolved, entryAt?_modifyEntry_self, found', Option.map_some, Option.map_some, locality]

/-- What is left once a row is deleted. -/
theorem deleted_of_delete [LawfulRow ρ] (holding : docs.Holding (t.entries.flatMap Entry.held ++ others))
    (tree : fs.Tree) (found : t.entryAt? id = some e) (here : e.isTombstone = false) (agrees : e.Agrees)
    (deleted : t.delete id dir docs fs = .ok (t', docs', fs')) : Deleted docs fs id dir e t' docs' fs' := by
  have files := deleteOwnFile_of_delete found deleted
  rw [deleteOwnFile_eq agrees] at files
  constructor
  · intro e' found'
    cases factory : e.locality.isFactory with
    | true =>
      rw [entryAt?_of_delete found agrees factory deleted] at found'
      obtain rfl := Option.some.inj found'
      obtain ⟨-, ownDoc, own, -⟩ := Entry.disowned_eq agrees
      exact ⟨own, ownDoc⟩
    | false =>
      obtain ⟨row, there, rfl⟩ := row?_of_entryAt? found'
      rcases row?_of_delete found agrees factory deleted with none_ | gone
      · rw [none_] at there
        cases there
      · rw [gone] at there
        obtain rfl := Option.some.inj there
        rw [Row.entry_ofEntry]
        exact ⟨rfl, rfl⟩
  · intro own named
    have gone := not_isLive_of_delete found agrees deleted named
    obtain ⟨left, holding'⟩ := exists_holding_of_delete holding deleted
    have bound : own < docs'.size := by
      rw [(prunes_deleteRow deleted).size]
      apply holding.lt
      exact List.mem_append_left _ (mem_held_of_entryAt? found (by simp [Entry.held, named]))
    refine ⟨gone, holding'.mem_free_iff.2 ⟨bound, ?_⟩⟩
    simpa [DocumentTable.isLive, bound] using gone
  · intro own named present
    rw [named] at files
    exact removes_deleteFile tree present files
  · intro unnamed
    cases named : e.ownDoc with
    | none =>
      rw [named] at files
      exact (Except.ok.inj files).symm
    | some own =>
      rw [named] at files
      dsimp only at files
      rw [unnamed own named, deleteFile_empty] at files
      exact (Except.ok.inj files).symm
  · intro factory
    exact hidden_of_delete holding found here agrees factory deleted
  · intro noFactory
    exact row?_of_delete found agrees noFactory deleted

/-- A row whose marks say which documents it has can be deleted. -/
theorem deletable_of_agrees [LawfulRow ρ] (holding : docs.Holding (t.entries.flatMap Entry.held ++ others))
    (found : t.entryAt? id = some e) (here : e.isTombstone = false) (agrees : e.Agrees) : Deletable t docs id e := by
  constructor
  · intro dir fs fs' t' docs' tree deleted
    exact deleted_of_delete holding tree found here agrees (deleteInSteps_eq_ok_iff.1 deleted)
  · intro dir fs s fault failed
    exact (deleteInSteps_eq_error_iff.1 failed).2
  · intro dir fs fault
    have fails : (∃ s, t.deleteInSteps id dir docs fs = (s, .error fault)) ↔
        deleteOwnFile e dir docs fs = .error fault := by
      rw [← delete_eq_error_iff found]
      constructor
      · rintro ⟨s, failed⟩
        exact (deleteInSteps_eq_error_iff.1 failed).1
      · intro failed
        exact ⟨_, deleteInSteps_eq_error_iff.2 ⟨failed, rfl⟩⟩
    rw [fails, deleteOwnFile_eq agrees]
    cases e.ownDoc with
    | none => simp
    | some own => simp [deleteFile_eq_error_iff]

/-- In a sound table every row that is not gone can be deleted. -/
theorem deletable_of_sound [Keeper ρ] [LawfulRow ρ] (sound : t.Sound)
    (holding : docs.Holding (t.entries.flatMap Entry.held ++ others)) (found : t.entryAt? id = some e)
    (here : e.isTombstone = false) : Deletable t docs id e := by
  have agrees : e.Agrees := by
    obtain ⟨row, there, rfl⟩ := row?_of_entryAt? found
    exact (sound.rows row (mem_of_row? there)).agrees
  exact deletable_of_agrees holding found here agrees

end

/-! ## Runs -/

/-- Over every run of a table of themes or items, and of a table of bundles with all items in them, each row that is not
gone can be deleted with the file of its own version, in whatever directory, and is restored to its factory version;
where the file cannot be removed nothing is changed. So it is with the themes and the items of every catalog, and with
each of its bundles whose flags say which documents it names. -/
theorem deletable_of_run :
    (∀ {t : EntryTable Entry} {docs : DocumentTable}, Run Step (t, docs) →
      ∀ id e, t.entryAt? id = some e → e.isTombstone = false → Deletable t docs id e) ∧
    (∀ {t : EntryTable Bundle} {docs : DocumentTable}, Run Bundle.Step (t, docs) →
      (∀ id e, t.entryAt? id = some e → e.isTombstone = false → Deletable t docs id e) ∧
      ∀ b ∈ t.rows, ∀ kind id e, (b.items.get kind).entryAt? id = some e → e.isTombstone = false →
        Deletable (b.items.get kind) docs id e) ∧
    ∀ {c : Catalog}, Reachable (fun _ _ => True) c →
      (∀ id e, c.db.themes.entryAt? id = some e → e.isTombstone = false → Deletable c.db.themes c.db.docs id e) ∧
      (∀ b ∈ c.db.bundles.rows, ∀ kind id e, (b.items.get kind).entryAt? id = some e → e.isTombstone = false →
        Deletable (b.items.get kind) c.db.docs id e) ∧
      ∀ id e, c.db.bundles.entryAt? id = some e → e.isTombstone = false → e.Agrees →
        Deletable c.db.bundles c.db.docs id e := by
  refine ⟨?_, ?_, ?_⟩
  · intro t docs run id e found here
    have keeping := run.keeping fun _ _ step => step.passes
    have holding := keeping.holding
    rw [← held_entries, ← List.append_nil (t.entries.flatMap Entry.held)] at holding
    exact deletable_of_sound keeping.sound holding found here
  · intro t docs run
    have keeping := run.keeping fun _ _ step => step.passes
    have holding := keeping.holding
    rw [← held_bundleEntries, ← List.append_nil (t.entries.flatMap Entry.held)] at holding
    constructor
    · intro id e found here
      exact deletable_of_sound keeping.sound holding found here
    · intro b member kind id e found here
      obtain ⟨rest, held⟩ := holding_items member kind holding
      exact deletable_of_sound ((keeping.sound.rows b member).settled kind) held found here
  · intro c reached
    obtain ⟨left, holding⟩ := (owns_of_reachable reached).holding
    rw [List.nil_append, Database.entries, List.flatMap_append] at holding
    have inThemes := holding.perm (List.perm_append_comm_assoc _ _ _)
    rw [← List.append_assoc] at holding
    have inBundles := holding.perm List.perm_append_comm
    obtain ⟨themes, items⟩ := flags_of_reachable reached
    refine ⟨?_, ?_, ?_⟩
    · intro id e found here
      exact deletable_of_agrees inThemes found here (themes e (mem_of_entryAt? found))
    · intro b member kind id e found here
      obtain ⟨rest, held⟩ := holding_items member kind inBundles
      exact deletable_of_agrees held found here (items b member kind e (mem_of_entryAt? found))
    · intro id e found here agrees
      exact deletable_of_agrees inBundles found here agrees

/-- A theme that came with the editor, with a version of the user's own in a file. A bundle with a snippet, in a table and
in a catalog that was opened where there are no files. -/
theorem deletable_of_run_theme :
    (∃ (t t' : EntryTable Entry) (docs docs' : DocumentTable) (fs' : FileSystem), Run Step (t, docs) ∧
      t.deleteInSteps 0 "Themes" docs (themeFile .empty) = ((t', docs', fs'), .ok ()) ∧
      FileSystem.Removes (Path.join "Themes" "A.tmTheme") (themeFile .empty) fs' ∧ docs.isLive 1 = true ∧
      docs'.isLive 1 = false ∧ t.resolve 0 = some 1 ∧ t'.resolve 0 = none ∧ (t'.restore 0).1.resolve 0 = some 0) ∧
    (∃ (t : EntryTable Bundle) (docs : DocumentTable) (b : Bundle) (snippet : Entry), Run Bundle.Step (t, docs) ∧
      b ∈ t.rows ∧ (b.items.get .snippet).entryAt? 0 = some snippet ∧ snippet.isTombstone = false ∧
      Deletable t docs 0 b.entry ∧ Deletable (b.items.get .snippet) docs 0 snippet) ∧
    ∃ (c : Catalog) (b : Bundle) (snippet : Entry), Reachable (fun _ _ => True) c ∧ b ∈ c.db.bundles.rows ∧
      (b.items.get .snippet).entryAt? 0 = some snippet ∧ snippet.isTombstone = false ∧
      Deletable (b.items.get .snippet) c.db.docs 0 snippet ∧ c.db.bundles.entryAt? 0 = some b.entry ∧
      b.entry.isTombstone = false ∧ b.entry.Agrees ∧ Deletable c.db.bundles c.db.docs 0 b.entry := by
  refine ⟨?_, ?_, ?_⟩
  · have added : Run Step (_, _) := .step (.empty : Run (Step (ρ := Entry)) _) (.insert .pristine (d := .new) rfl)
    have edited : Run Step (_, _) :=
      .step added (@Step.register _ _ _ _ _ 0 _ { Document.new with filename := "A.tmTheme" } .own rfl rfl rfl)
    obtain ⟨t, docs, e, run, found, here, named, filename, factory, shipped, before, live⟩ :
        ∃ (t : EntryTable Entry) (docs : DocumentTable) (e : Entry), Run Step (t, docs) ∧ t.entryAt? 0 = some e ∧
          e.isTombstone = false ∧ e.ownDoc = some 1 ∧ (docs.get 1).filename = "A.tmTheme" ∧ e.factoryDoc = some 0 ∧
          e.locality.isFactory = true ∧ t.resolve 0 = some 1 ∧ docs.isLive 1 = true :=
      ⟨_, _, _, edited, rfl, rfl, rfl, rfl, rfl, rfl, rfl, rfl⟩
    have deletable := deletable_of_run.1 run 0 e found here
    have removed : (themeFile .empty).removeFile (Path.join "Themes" "A.tmTheme") =
        .ok ((themeFile .empty).dropNodes ["Themes", "A.tmTheme"]) := by
      rw [FileSystem.removeFile, locate_theme]
    cases steps : t.deleteInSteps 0 "Themes" docs (themeFile .empty) with
    | mk s result =>
      obtain ⟨t', docs', fs'⟩ := s
      cases result with
      | error fault =>
        obtain ⟨own, named', -, failed, -⟩ := deletable.fails_iff.1 ⟨_, steps⟩
        obtain rfl := Option.some.inj (named.symm.trans named')
        rw [filename, removed] at failed
        cases failed
      | ok _ =>
        have deleted := deletable.deleted (tree_themeFile .empty) steps
        have file := deleted.file 1 named (by rw [filename]; decide)
        rw [filename] at file
        have hidden := deleted.hidden shipped
        obtain ⟨doc, named', -, -, restored⟩ := hidden.restored
        obtain rfl := Option.some.inj (factory.symm.trans named')
        exact ⟨t, t', docs, docs', fs', run, steps, file, live, (deleted.freed 1 named).1, before,
          hidden.unresolved, restored⟩
  · have added : Run Bundle.Step (_, _) := .step .empty (.table (.insert .pristine (d := .new) rfl))
    obtain ⟨t, docs, b, snippet, run, member, first, here, found, here'⟩ : ∃ (t : EntryTable Bundle)
        (docs : DocumentTable) (b : Bundle) (snippet : Entry), Run Bundle.Step (t, docs) ∧ b ∈ t.rows ∧
        t.entryAt? 0 = some b.entry ∧ b.entry.isTombstone = false ∧
        (b.items.get .snippet).entryAt? 0 = some snippet ∧ snippet.isTombstone = false :=
      ⟨_, _, _, _, .step added (@Bundle.Step.items _ _ _ 0 _ .snippet _ rfl rfl (.insert .pristine (d := .new) rfl)),
        List.mem_cons_self, rfl, rfl, rfl, rfl⟩
    obtain ⟨bundles, items⟩ := deletable_of_run.2.1 run
    exact ⟨t, docs, b, snippet, run, member, found, here', bundles 0 b.entry first here,
      items b member .snippet 0 snippet found here'⟩
  · obtain ⟨empty, c, files, opens, bare⟩ := bare_openAt { nth := fun _ => "A" }
    have opened : Reachable (fun _ _ => True) c := .opened empty opens
    obtain ⟨config, db, files, identities, dirty, lastFlush, pending, complete⟩ := c
    obtain ⟨rfl, rfl⟩ := bare
    have withBundle := Reachable.next opened trivial (rfl : (Operation.newBundle "b").run? _ = some _)
    obtain ⟨c, b, snippet, reached, member, found, here, first, here', agrees⟩ : ∃ (c : Catalog) (b : Bundle)
        (snippet : Entry), Reachable (fun _ _ => True) c ∧ b ∈ c.db.bundles.rows ∧
        (b.items.get .snippet).entryAt? 0 = some snippet ∧ snippet.isTombstone = false ∧
        c.db.bundles.entryAt? 0 = some b.entry ∧ b.entry.isTombstone = false ∧ b.entry.Agrees :=
      ⟨_, _, _, .next withBundle trivial (rfl : (Operation.newItem .snippet 0 "s").run? _ = some _), List.mem_cons_self,
        rfl, rfl, rfl, rfl, ⟨rfl, rfl⟩⟩
    obtain ⟨-, items, bundles⟩ := deletable_of_run.2.2 reached
    exact ⟨c, b, snippet, reached, member, found, here, items b member .snippet 0 snippet found here, first, here', agrees,
      bundles 0 b.entry first here' agrees⟩

end EntryTable

end EditorBundles.Catalog
