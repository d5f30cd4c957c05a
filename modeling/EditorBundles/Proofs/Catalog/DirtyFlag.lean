import EditorBundles.Proofs.Catalog.Failures
import EditorBundles.Proofs.Catalog.SnapshotRuns

/-!
# Unsaved changes

A catalog that is not dirty has the tables of the snapshot that was written last, as long as no operation fails after it
has chosen a name, dropped a version or written a theme. Such a failure changes the tables of a catalog that may not be
dirty, and nothing notes it.
-/

namespace EditorBundles.Catalog
set_option autoImplicit false
open PropertyList

variable {c c' : Catalog} {id doc : Nat} {kind : ItemKind} {owner : Nat}

/-! ## What is noted -/

/-- The tables are the same, and so are the place of the snapshot and what is known of it. -/
structure Alike (c c' : Catalog) : Prop where
  db : c'.db = c.db
  config : c'.config = c.config
  dirty : c'.dirty = c.dirty

theorem Alike.refl (c : Catalog) : Alike c c := ⟨rfl, rfl, rfl⟩

theorem alike_of_files (same : c' = { c with files := c'.files }) : Alike c c' := by
  rw [same]
  exact ⟨rfl, rfl, rfl⟩

/-- A change is noted, or there is none. -/
def Notes (c c' : Catalog) : Prop := c'.dirty = true ∨ Alike c c'

theorem notes_resume (c : Catalog) : Notes c c.resume.1 := by
  rw [resume]
  split
  · exact .inr (.refl c)
  · exact .inl rfl
  · exact .inl rfl

theorem notes_restoreBundle? {result : Except Fault Bool} (restored : c.restoreBundle? id = some (c', result)) :
    Notes c c' := by
  obtain ⟨b, -, restored⟩ := Option.bind_eq_some_iff.1 restored
  dsimp only at restored
  split at restored
  · split at restored
    · split at restored <;> obtain ⟨rfl, -⟩ := Prod.mk.inj (Option.some.inj restored)
      · exact .inr (.refl _)
      · exact .inl rfl
    · obtain ⟨rfl, -⟩ := Prod.mk.inj (Option.some.inj restored)
      exact .inr (.refl _)
  · obtain ⟨rfl, -⟩ := Prod.mk.inj (Option.some.inj restored)
    exact .inr (.refl _)

/-- What is shown again is noted. -/
theorem notes_restored {shown : Catalog} {restored : Bool} (dirty : shown.dirty = true) :
    Notes c (if restored then shown else c) := by
  cases restored with
  | true => exact .inl dirty
  | false => exact .inr (.refl c)

/-! ## Saving themes -/

theorem dirty_saveDoc (c : Catalog) (doc : Nat) (dir : String) : (c.saveDoc doc dir).1.dirty = c.dirty := by
  rw [saveDoc]
  split <;> rfl

theorem themes_saveDoc (c : Catalog) (doc : Nat) (dir : String) : (c.saveDoc doc dir).1.db.themes = c.db.themes := by
  obtain ⟨docs, same, -⟩ := c.saveDoc_db doc dir
  rw [same]

theorem dirty_saveThemes (c : Catalog) (ids : List Nat) : (c.saveThemes ids).1.dirty = c.dirty := by
  induction ids generalizing c with
  | nil => rfl
  | cons id ids ih =>
    rw [saveThemes]
    split
    · exact ih c
    · rename_i own _
      have same := dirty_saveDoc c own c.config.ownThemes
      generalize c.saveDoc own c.config.ownThemes = ending at same
      obtain ⟨c₁, result⟩ := ending
      cases result with
      | error fault => exact same
      | ok _ => exact (ih _).trans same

/-- A theme that is not marked as changed is not marked by saving themes. -/
theorem unmarked_saveThemes {e : Entry} (ids : List Nat) (found : c.db.themes.entryAt? id = some e)
    (unmarked : e.modified = false) :
    ∃ e', (c.saveThemes ids).1.db.themes.entryAt? id = some e' ∧ e'.modified = false := by
  induction ids generalizing c e with
  | nil => exact ⟨e, found, unmarked⟩
  | cons other ids ih =>
    rw [saveThemes]
    split
    · exact ih found unmarked
    · rename_i own _
      have same := themes_saveDoc c own c.config.ownThemes
      generalize c.saveDoc own c.config.ownThemes = ending at same
      obtain ⟨c₁, result⟩ := ending
      rw [← same] at found
      cases result with
      | error fault => exact ⟨e, found, unmarked⟩
      | ok _ =>
        have marked : ∃ e', (c₁.db.themes.modifyEntry other fun e => { e with modified := false }).entryAt? id = some e' ∧
            e'.modified = false := by
          by_cases at_id : id = other
          · subst at_id
            rw [EntryTable.entryAt?_modifyEntry_self, found]
            exact ⟨_, rfl, rfl⟩
          · rw [EntryTable.entryAt?, EntryTable.row?_modifyEntry_of_ne _ at_id]
            exact ⟨e, found, unmarked⟩
        obtain ⟨e', found', unmarked'⟩ := marked
        exact ih (c := c₁.withDb { c₁.db with themes := _ }) found' unmarked'

/-- Where saving themes fails and no theme has lost its mark, nothing was saved before. -/
theorem eq_of_saveThemes_error {ids : List Nat} {fault : Fault} (failed : c.saveThemes ids = (c', .error fault))
    (same : c'.db.themes = c.db.themes) : c' = { c with files := c'.files } := by
  induction ids with
  | nil => cases failed
  | cons other ids ih =>
    rw [saveThemes] at failed
    split at failed
    · exact ih failed
    · rename_i own chosen
      obtain ⟨e, found, marked⟩ := Option.bind_eq_some_iff.1 chosen
      split at marked
      · rename_i modified
        split at failed
        · rename_i unwritten
          obtain ⟨rfl, -⟩ := Prod.mk.inj failed
          exact eq_of_saveDoc_error unwritten
        · rename_i c₁ written
          have themes : c₁.db.themes = c.db.themes := by
            have kept := themes_saveDoc c own c.config.ownThemes
            rwa [written] at kept
          have now : (c₁.withDb { c₁.db with themes := c₁.db.themes.modifyEntry other fun e => { e with modified := false } }
              ).db.themes.entryAt? other = some { e with modified := false } := by
            show (c₁.db.themes.modifyEntry other _).entryAt? other = _
            rw [EntryTable.entryAt?_modifyEntry_self, themes, found]
            rfl
          obtain ⟨e', found', unmarked⟩ := unmarked_saveThemes ids now rfl
          rw [failed, same, found] at found'
          obtain rfl := Option.some.inj found'
          rw [unmarked] at modified
          cases modified
      · cases marked

/-! ## Snapshots -/

/-- What flushing comes to: there is nothing to write, or the snapshot is written, or it cannot be. -/
inductive Flushes (c : Catalog) : Catalog → Except Fault Unit → Prop where
  | clean (clean : c.dirty = false) : Flushes c { c with lastFlush := c.files.clock } (.ok ())
  | written {files : FileSystem} (dirty : c.dirty = true)
      (saved : c.db.save c.files c.config.dataDir c.config.snapshotPath = (files, .ok ())) :
      Flushes c { c with files, dirty := false, lastFlush := files.clock } (.ok ())
  | unwritten {files : FileSystem} {fault : FileFault} (dirty : c.dirty = true)
      (failed : c.db.save c.files c.config.dataDir c.config.snapshotPath = (files, .error fault)) :
      Flushes c { c with files } (.error (.file fault))

theorem flushes_flush (c : Catalog) : c.Flushes c.flush.1 c.flush.2 := by
  rw [flush]
  split
  · rename_i dirty
    split
    · exact .written dirty ‹_›
    · exact .unwritten dirty ‹_›
  · rename_i clean
    exact .clean (Bool.not_eq_true _ ▸ clean)

/-- The files, if an operation that writes the snapshot did so. -/
def Operation.snapshot? (c : Catalog) : Operation → Option FileSystem
  | .flush => if c.dirty && c.flush.2.toBool then some c.flush.1.files else none
  | .flushIfDue now => if (c.flushIfDue now).2.toOption = some true then some (c.flushIfDue now).1.files else none
  | .commit => if c.commit.2.toBool then some c.commit.1.files else none
  | _ => none

/-- The files are what writing the snapshot has left. -/
def Saved (c : Catalog) (files : FileSystem) : Prop :=
  ∃ before, c.db.save before c.config.dataDir c.config.snapshotPath = (files, .ok ())

/-- The catalog is dirty, or its tables are those of the snapshot that was written last. -/
def Current (last : Option FileSystem) (c : Catalog) : Prop := c.dirty = true ∨ ∃ files, last = some files ∧ c.Saved files

theorem Current.notes {last : Option FileSystem} (h : Current last c) (notes : Notes c c') : Current last c' := by
  rcases notes with dirty | alike
  · exact .inl dirty
  · rcases h with dirty | ⟨files, written, before, saved⟩
    · exact .inl (alike.dirty.trans dirty)
    · exact .inr ⟨files, written, before, by rwa [alike.db, alike.config]⟩

/-! ## Operations -/

/-- What an operation changes is noted. Documents are written to only while the catalog is dirty, as it is when they were
asked for. Unless the catalog is dirty anyway, an operation that fails had nothing to choose and nothing to drop, and a
commit that fails at a theme has written no other one. -/
def Noted (c : Catalog) : Operation → Prop
  | .write _ content => content.Keyed ∧ c.dirty = true
  | .commit => c.dirty = true ∨ ∀ c' fault, c.saveThemes (List.range c.db.themes.size) = (c', .error fault) →
      c'.db.themes = c.db.themes
  | op => c.dirty = true ∨ ∀ c', c.Fails op c' → c.Ready op

theorem notes_of_fails {allowed : Catalog → Operation → Prop} (reached : Reachable allowed c) {op : Operation}
    (noted : c.dirty = true ∨ ∀ c', c.Fails op c' → c.Ready op) (fails : c.Fails op c') : Notes c c' := by
  obtain ⟨confined, unchanged⟩ := confined_of_fails reached fails
  rcases noted with dirty | ready
  · exact .inl (confined.dirty dirty)
  · exact .inr (alike_of_files (unchanged (ready c' fails)))

/-- An operation that gives a result next to the catalog, and notes its changes unless it fails. -/
theorem notes_of_map {α : Type} {run : Option (Catalog × Except Fault α)}
    (fails : ∀ c' fault, run = some (c', .error fault) → Notes c c')
    (ends : ∀ c' result, run = some (c', .ok result) → c'.dirty = true) (runs : run.map Prod.fst = some c') : Notes c c' := by
  obtain ⟨⟨c', result⟩, ran, rfl⟩ := Option.map_eq_some_iff.1 runs
  cases result with
  | error fault => exact fails c' fault ran
  | ok result => exact .inl (ends c' result ran)

/-- An operation that gives a result next to the catalog and always notes its changes. -/
theorem notes_of_some {α : Type} {run : Option (Catalog × α)} (notes : ∀ c' result, run = some (c', result) → Notes c c')
    (runs : run.map Prod.fst = some c') : Notes c c' := by
  obtain ⟨⟨c', result⟩, ran, rfl⟩ := Option.map_eq_some_iff.1 runs
  exact notes c' result ran

theorem dirty_saveTheme? (saved : c.saveTheme? id = some (c', .ok ())) : c'.dirty = true := by
  obtain ⟨e, -, saved⟩ := Option.bind_eq_some_iff.1 saved
  split at saved
  · cases saved
  · dsimp only at saved
    split at saved
    · cases saved
    · obtain ⟨rfl, -⟩ := Prod.mk.inj (Option.some.inj saved)
      rfl

/-- Every operation that writes no snapshot notes what it changes. -/
theorem Operation.notes {allowed : Catalog → Operation → Prop} (reached : Reachable allowed c) {op : Operation}
    (noted : c.Noted op) (unsaved : op ≠ .flush ∧ op ≠ .commit ∧ ∀ now, op ≠ .flushIfDue now)
    (runs : op.run? c = some c') : Notes c c' := by
  cases op with
  | update mode =>
    obtain rfl := Option.some.inj runs
    exact .inl rfl
  | resume =>
    obtain rfl := Option.some.inj runs
    exact notes_resume c
  | newBundle name =>
    obtain rfl := Option.some.inj runs
    exact .inl rfl
  | editBundle id =>
    refine notes_of_some (fun c' own edited => ?_) runs
    obtain ⟨made, -, edited⟩ := Option.bind_eq_some_iff.1 edited
    obtain ⟨rfl, -⟩ := Prod.mk.inj (Option.some.inj edited)
    exact .inl rfl
  | saveBundle id =>
    refine notes_of_map (fun c' fault ran => notes_of_fails reached noted (.saveBundle ran)) (fun c' result ran => ?_) runs
    cases savesBundle_of_saveBundle? ran
    rfl
  | deleteBundle id =>
    refine notes_of_map (fun c' fault ran => notes_of_fails reached noted (.deleteBundle ran)) (fun c' result ran => ?_) runs
    cases deletesBundle_of_deleteBundle? ran <;> rfl
  | restoreBundle id => exact notes_of_some (fun _ _ ran => notes_restoreBundle? ran) runs
  | newItem kind owner name =>
    refine notes_of_some (fun c' i made => ?_) runs
    obtain ⟨table, -, made⟩ := Option.bind_eq_some_iff.1 made
    obtain ⟨rfl, -⟩ := Prod.mk.inj (Option.some.inj made)
    exact .inl rfl
  | editItem kind owner id =>
    refine notes_of_some (fun c' own edited => ?_) runs
    obtain ⟨table, -, edited⟩ := Option.bind_eq_some_iff.1 edited
    obtain ⟨made, -, edited⟩ := Option.bind_eq_some_iff.1 edited
    obtain ⟨rfl, -⟩ := Prod.mk.inj (Option.some.inj edited)
    exact .inl rfl
  | saveItem kind owner id =>
    refine notes_of_map (fun c' fault ran => notes_of_fails reached noted (.saveItem ran)) (fun c' result ran => ?_) runs
    cases savesItem_of_saveItem? ran
    rfl
  | deleteItem kind owner id =>
    refine notes_of_map (fun c' fault ran => notes_of_fails reached noted (.deleteItem ran)) (fun c' result ran => ?_) runs
    obtain ⟨b, -, ran⟩ := Option.bind_eq_some_iff.1 ran
    obtain ⟨e, -, ran⟩ := Option.bind_eq_some_iff.1 ran
    split at ran <;> cases ran
    rfl
  | restoreItem kind owner id =>
    refine notes_of_some (fun c' restored shown => ?_) runs
    obtain ⟨e, -, shown⟩ := Option.bind_eq_some_iff.1 shown
    obtain ⟨table, -, shown⟩ := Option.bind_eq_some_iff.1 shown
    obtain ⟨rfl, -⟩ := Prod.mk.inj (Option.some.inj shown)
    exact notes_restored rfl
  | newTheme name =>
    obtain rfl := Option.some.inj runs
    exact .inl rfl
  | editTheme id =>
    refine notes_of_some (fun c' own edited => ?_) runs
    obtain ⟨made, -, edited⟩ := Option.bind_eq_some_iff.1 edited
    obtain ⟨rfl, -⟩ := Prod.mk.inj (Option.some.inj edited)
    exact .inl rfl
  | markTheme id =>
    obtain ⟨e, -, marked⟩ := Option.bind_eq_some_iff.1 runs
    obtain rfl := Option.some.inj marked
    exact .inl rfl
  | saveTheme id =>
    exact notes_of_map (fun c' fault ran => notes_of_fails reached noted (.saveTheme ran))
      (fun c' result ran => dirty_saveTheme? ran) runs
  | deleteTheme id =>
    refine notes_of_map (fun c' fault ran => notes_of_fails reached noted (.deleteTheme ran)) (fun c' result ran => ?_) runs
    obtain ⟨e, -, ran⟩ := Option.bind_eq_some_iff.1 ran
    split at ran <;> cases ran
    rfl
  | restoreTheme id =>
    refine notes_of_some (fun c' restored shown => ?_) runs
    obtain ⟨e, -, shown⟩ := Option.bind_eq_some_iff.1 shown
    obtain ⟨rfl, -⟩ := Prod.mk.inj (Option.some.inj shown)
    exact notes_restored rfl
  | write doc content =>
    obtain ⟨d, -, wrote⟩ := Option.bind_eq_some_iff.1 runs
    split at wrote
    · cases wrote
    · obtain rfl := Option.some.inj wrote
      exact .inl noted.2
  | setSyntax ext name =>
    obtain rfl := Option.some.inj runs
    exact .inl rfl
  | commit => exact absurd rfl unsaved.2.1
  | flush => exact absurd rfl unsaved.1
  | flushIfDue now => exact absurd rfl (unsaved.2.2 now)
  | exportBundle target id => exact notes_of_some (fun _ _ ran => .inr (alike_of_files (exportBundle?_files ran))) runs
  | exportItem target kind owner id =>
    exact notes_of_some (fun _ _ ran => .inr (alike_of_files (exportItem?_files ran))) runs
  | changeFiles files =>
    obtain rfl := Option.some.inj runs
    exact .inr ⟨rfl, rfl, rfl⟩

/-- A dirty catalog that is flushed is dirty still, or it is current with what was written. -/
theorem Flushes.current {result : Except Fault Unit} (flushes : c.Flushes c' result) (dirty : c.dirty = true)
    (last : Option FileSystem) : Current ((if result.toBool then some c'.files else none).or last) c' := by
  cases flushes with
  | clean clean => cases clean.symm.trans dirty
  | written _ saved => exact .inr ⟨_, rfl, _, saved⟩
  | unwritten _ _ => exact .inl dirty

theorem current_flush {last : Option FileSystem} (h : Current last c) :
    Current ((Operation.snapshot? c .flush).or last) c.flush.1 := by
  rw [Operation.snapshot?]
  cases dirty : c.dirty with
  | false =>
    have clean : c.flush.1 = { c with lastFlush := c.files.clock } := by simp [flush, dirty]
    rw [clean]
    exact h.notes (.inr ⟨rfl, rfl, rfl⟩)
  | true => exact c.flushes_flush.current dirty last

theorem current_flushIfDue {last : Option FileSystem} (h : Current last c) (now : Int) :
    Current ((Operation.snapshot? c (.flushIfDue now)).or last) (c.flushIfDue now).1 := by
  rw [Operation.snapshot?, flushIfDue]
  split
  · rename_i due
    have current := c.flushes_flush.current (Bool.and_eq_true_iff.1 due).1 last
    generalize c.flush = ending at current
    obtain ⟨c', result⟩ := ending
    cases result <;> exact current
  · exact h

theorem current_commit {last : Option FileSystem} (h : Current last c) (noted : c.Noted .commit) :
    Current ((Operation.snapshot? c .commit).or last) c.commit.1 := by
  have dirty := c.dirty_saveThemes (List.range c.db.themes.size)
  rw [Operation.snapshot?, commit]
  cases ended : c.saveThemes (List.range c.db.themes.size) with
  | mk c₁ result =>
    rw [ended] at dirty
    cases result with
    | error fault =>
      rcases noted with before | kept
      · exact .inl (dirty.trans before)
      · exact h.notes (.inr (alike_of_files (eq_of_saveThemes_error ended (kept c₁ fault ended))))
    | ok _ => exact c₁.markDirty.flushes_flush.current rfl last

theorem Operation.current {allowed : Catalog → Operation → Prop} (reached : Reachable allowed c) {op : Operation}
    {last : Option FileSystem} (h : Current last c) (noted : c.Noted op) (runs : op.run? c = some c') :
    Current ((op.snapshot? c).or last) c' := by
  have rest (unsaved : op ≠ .flush ∧ op ≠ .commit ∧ ∀ now, op ≠ .flushIfDue now) (none_ : op.snapshot? c = none) :
      Current ((op.snapshot? c).or last) c' := by
    rw [none_]
    exact h.notes (Operation.notes reached noted unsaved runs)
  cases op with
  | flush =>
    obtain rfl := Option.some.inj runs
    exact current_flush h
  | flushIfDue now =>
    obtain rfl := Option.some.inj runs
    exact current_flushIfDue h now
  | commit =>
    obtain rfl := Option.some.inj runs
    exact current_commit h noted
  | _ => exact rest ⟨nofun, nofun, fun _ => nofun⟩ rfl

/-! ## Runs -/

/-- A catalog that is reached, with the files as its snapshot was last written, if it was since the catalog was opened. -/
inductive Flushed (allowed : Catalog → Operation → Prop) : Option FileSystem → Catalog → Prop where
  | opened {config : Config} {files files' : FileSystem} {identities : Identities} {c : Catalog}
      (reached : Reachable allowed c) (opens : openAt config files identities = (files', .ok c)) : Flushed allowed none c
  | next {last : Option FileSystem} {c c' : Catalog} {op : Operation} (flushed : Flushed allowed last c)
      (permitted : allowed c op) (runs : op.run? c = some c') : Flushed allowed ((op.snapshot? c).or last) c'

variable {last : Option FileSystem} {allowed : Catalog → Operation → Prop}

theorem Flushed.reachable (flushed : Flushed allowed last c) : Reachable allowed c := by
  induction flushed with
  | opened reached _ => exact reached
  | next _ permitted runs ih => exact .next ih permitted runs

theorem Flushed.current (flushed : Flushed Noted last c) : Current last c := by
  induction flushed with
  | opened _ opens =>
    rw [openAt] at opens
    split at opens
    · cases opens
    · obtain rfl := Except.ok.inj (Prod.mk.inj opens).2
      exact .inl rfl
  | next flushed noted runs ih => exact Operation.current flushed.reachable ih noted runs

/-- Over every run whose failures had nothing to choose and nothing to drop, a catalog that is not dirty has written its
snapshot, and what was written last is read back as its tables. -/
theorem load_eq_of_flushed (flushed : Flushed Noted last c) (clean : c.dirty = false) (bounded : c.db.Bounded) :
    ∃ files, last = some files ∧ Database.load files c.config.snapshotPath false = (c.db, files) := by
  obtain dirty | ⟨files, written, before, saved⟩ := flushed.current
  · cases clean.symm.trans dirty
  · exact ⟨files, written, load_save_of_reachable (fun _ _ _ permitted => permitted.1) flushed.reachable bounded saved⟩

/-- A catalog with a new bundle was flushed, and a file is where the directories of bundles would be. -/
theorem exists_flushed (permits : ∀ c, allowed c (.newBundle "A") ∧ allowed c .flush ∧ ∀ files, allowed c (.changeFiles files)) :
    ∃ c b files, Flushed allowed (some files) c ∧ c.Saved files ∧ c.Blocked b ∧ b.dirName = "" ∧ c.dirty = false ∧
      c.db.Bounded := by
  obtain ⟨empty, c, files, opens, same, bare⟩ := app_openAt { nth := fun _ => "U" }
  have opened : Flushed allowed none c := .opened (.opened empty opens) opens
  have added := opened.next (permits c).1 rfl
  have placed := added.next ((permits _).2.2 blockedFiles) rfl
  obtain ⟨b, blocked, unplaced⟩ := blocked_newBundle bare same
  have bounded : ({ (c.newBundle "A").1 with files := blockedFiles } : Catalog).db.Bounded := by
    obtain ⟨config, db, files, identities, dirty, lastFlush, pending, complete⟩ := c
    obtain rfl : db = {} := bare.tables
    refine ⟨(by decide : 1 ≤ 0x100000000), fun d member => ?_⟩
    obtain rfl := List.mem_singleton.1 (Array.mem_toList_iff.2 member)
    exact Document.fits_create "A" _ manifestName
  have dirty : ({ (c.newBundle "A").1 with files := blockedFiles } : Catalog).dirty = true := rfl
  generalize ({ (c.newBundle "A").1 with files := blockedFiles } : Catalog) = c₁ at placed blocked dirty bounded
  obtain ⟨written, saved⟩ : ∃ files, c₁.db.save c₁.files c₁.config.dataDir c₁.config.snapshotPath = (files, .ok ()) := by
    have here : appConfig.snapshotPath = "catalog.json" := isFileName_catalog.join_empty
    rw [blocked.files, blocked.home, here]
    exact exists_save_here _ rfl rfl fun _ _ => nofun
  have wrote : c₁.flush = ({ c₁ with files := written, dirty := false, lastFlush := written.clock }, .ok ()) := by
    rw [flush, if_pos dirty, saved]
  have flushed := placed.next (permits c₁).2.1 rfl
  have snapshot : Operation.snapshot? c₁ .flush = some written := by
    rw [Operation.snapshot?, wrote, dirty]
    rfl
  rw [snapshot, wrote] at flushed
  have again := flushed.next ((permits _).2.2 blockedFiles) rfl
  refine ⟨_, b, written, again, ⟨_, saved⟩, ?_, unplaced, rfl, bounded⟩
  exact ⟨rfl, blocked.home, blocked.row, blocked.owned, blocked.single, blocked.live, blocked.named⟩

/-- A new bundle is flushed, and its snapshot is read back. -/
theorem load_eq_of_flushed_new : ∃ c files, Flushed Noted (some files) c ∧ c.dirty = false ∧ c.db.Bounded ∧
    Database.load files c.config.snapshotPath false = (c.db, files) := by
  obtain ⟨c, -, files, flushed, -, -, -, clean, bounded⟩ := @exists_flushed Noted
    fun c => ⟨.inr nofun, .inr nofun, fun _ => .inr nofun⟩
  obtain ⟨files', written, loaded⟩ := load_eq_of_flushed flushed clean bounded
  obtain rfl := Option.some.inj written
  exact ⟨c, files, flushed, clean, bounded, loaded⟩

/-- Saving the bundle fails after it was given a directory. The catalog is not dirty, and the snapshot has the bundle
without one. -/
theorem load_ne_of_flushed : ∃ c files, Flushed WritesKeyed (some files) c ∧ c.dirty = false ∧ c.db.Bounded ∧
    Database.load files c.config.snapshotPath false ≠ (c.db, files) := by
  obtain ⟨c, b, files, flushed, ⟨before, saved⟩, blocked, unplaced, clean, bounded⟩ := @exists_flushed WritesKeyed
    fun c => ⟨fun _ _ => nofun, fun _ _ => nofun, fun _ _ _ => nofun⟩
  have loaded := load_save_of_reachable (fun _ doc content written => written doc content rfl) flushed.reachable bounded saved
  obtain ⟨c', b', ⟨ran⟩, blocked', placed, dirty, docs⟩ := blocked.saveBundle
  have failed := @Flushed.next _ _ _ _ (.saveBundle 0) flushed (fun _ _ => nofun) (congrArg (Option.map Prod.fst) ran)
  refine ⟨c', files, failed, dirty.trans clean, ⟨docs ▸ bounded.size, docs ▸ bounded.docs⟩, fun same => placed ?_⟩
  rw [blocked'.home, ← blocked.home, loaded] at same
  have row : b' = b := Option.some.inj (blocked'.row.symm.trans ((Prod.mk.inj same).1 ▸ blocked.row))
  exact row ▸ unplaced

end EditorBundles.Catalog
