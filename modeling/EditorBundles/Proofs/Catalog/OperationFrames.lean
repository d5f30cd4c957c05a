import EditorBundles.Proofs.Catalog.ScanFrames

/-!
# What an operation can change

An operation on a catalog writes to the user's own themes and bundles and to the snapshot, an export writes below its
target, and deleting a bundle takes out the directory of its installed version.
-/

namespace EditorBundles.Catalog
set_option autoImplicit false
open PropertyList
open EditorBundles.Path (IsPlain)

/-- The places that belong to the user: those below the directories of their own themes and bundles and the snapshot,
and those that the path to them passes. -/
def Config.Own (config : Config) (here : Place) : Prop :=
  Path.Passes config.dataDir here ∨ Path.place config.snapshotPath <+: here ∨ Path.place config.ownThemes <+: here ∨
    Path.place config.ownBundles <+: here

/-- A catalog whose files became what they are by nothing but writing to places that belong to the user. -/
abbrev Writing (config : Config) (fs : FileSystem) (c : Catalog) : Prop := Within (.at config.Own) config fs c

variable {T : Grant} {W : Place → Prop} {config : Config} {fs : FileSystem} {c c' : Catalog} {id doc owner : Nat}
  {kind : ItemKind} {here : Place} {dir dirName : String}

theorem Config.own_of_snapshot (reached : Path.Reaches config.snapshotPath here) : config.Own here := by
  rcases reached with passed | below
  · rcases isFileName_catalog.isPlain.passes_join passed with passed | rfl
    · exact .inl passed
    · exact .inr (.inl (List.prefix_refl _))
  · exact .inr (.inl below)

theorem Config.own_of_themes (reached : Path.Reaches config.ownThemes here) : config.Own here := by
  rcases reached with passed | below
  · rcases isFileName_themes.isPlain.passes_join passed with passed | rfl
    · exact .inl passed
    · exact .inr (.inr (.inl (List.prefix_refl _)))
  · exact .inr (.inr (.inl below))

theorem Config.own_of_bundles (reached : Path.Reaches config.ownBundles here) : config.Own here := by
  rcases reached with passed | below
  · rcases isFileName_bundles.isPlain.passes_join passed with passed | rfl
    · exact .inl passed
    · exact .inr (.inr (.inr (List.prefix_refl _)))
  · exact .inr (.inr (.inr below))

namespace Within

/-! ## Writing -/

theorem nameDoc (h : Within T config fs c) (doc : Nat) (choose : String → String) (plain : ∀ name, IsPlain (choose name)) :
    Within T config fs (c.nameDoc doc choose) := by
  rw [Catalog.nameDoc]
  split
  · exact h.withDocs (h.plain.docs.set doc (plain _))
  · exact h

theorem saveDoc_at (h : Within (.at W) config fs c) (doc : Nat) (inside : ∀ here, Path.Reaches dir here → W here) :
    Within (.at W) config fs (c.saveDoc doc dir).1 := by
  have plain := h.plain.docs doc
  refine h.saveDoc doc (FileSystem.touchesOnly_save_at _ plain fun here passed => inside here ?_)
  exact plain.reaches_of_join (.inl passed)

theorem createDirectories (h : Within (.at W) config fs c) (inside : ∀ here, Path.Passes dir here → W here)
    {files : FileSystem} {result : Except FileFault Unit} (made : c.files.createDirectories dir = (files, result)) :
    Within (.at W) config fs { c with files } := by
  have regular := h.regular.createDirectories dir
  have touched : c.files.TouchesOnly (.at W) (c.files.createDirectories dir).1 :=
    FileSystem.touchesOnly_createDirectories_at inside
  rw [made] at regular touched
  exact ⟨h.config, regular, h.plain, h.touched.trans touched⟩

/-- A directory of a bundle of the user's own, or of items in it. -/
theorem own_of_ownDir (h : Within T config fs c) (plain : IsPlain dirName) (reached : Path.Reaches (c.ownDir dirName) here) :
    config.Own here := by
  rw [ownDir, h.config] at reached
  exact Config.own_of_bundles (plain.reaches_of_join reached)

theorem own_of_ownItemDir (h : Within T config fs c) (plain : IsPlain dirName)
    (reached : Path.Reaches (c.ownItemDir kind dirName) here) : config.Own here :=
  h.own_of_ownDir plain (kind.isFileName_dirName.isPlain.reaches_of_join reached)

end Within

/-! ## Saving -/

/-- The directory that a bundle is saved into leads down. -/
theorem Saving.isPlain {b : Bundle} {own : Nat} (saving : c.Saving id b own dirName) (plain : c.db.Plain) : IsPlain dirName := by
  by_cases unplaced : b.dirName = ""
  · rw [saving.chosen unplaced]
    exact isPlain_freeName _ _ _ isExtension_bundle
  · rw [saving.kept unplaced]
    exact plain.dirs id b saving.found

theorem SavesBundle.within {result : Except Fault Unit} (saves : c.SavesBundle id c' result) (h : Writing config fs c) :
    Writing config fs c' := by
  have placed {b : Bundle} {own : Nat} {dirName : String} {files : FileSystem} {made : Except FileFault Unit}
      (saving : c.Saving id b own dirName) (creates : c.files.createDirectories (c.ownDir dirName) = (files, made)) :
      Writing config fs (c.placed id dirName files) := by
    have plain := saving.isPlain h.plain
    have moved := h.modifyBundle id (fun b => { b with dirName }) fun _ _ => plain
    exact moved.createDirectories (fun here passed => h.own_of_ownDir plain (.inl passed)) creates
  have written {b : Bundle} {own : Nat} {dirName : String} {files : FileSystem}
      (saving : c.Saving id b own dirName) (creates : c.files.createDirectories (c.ownDir dirName) = (files, .ok ())) :
      Writing config fs (((c.placed id dirName files).nameDoc own fun _ => manifestName).saveDoc own (c.ownDir dirName)).1 := by
    have named := (placed saving creates).nameDoc own (fun _ => manifestName) fun _ =>
      isFileName_manifestName.isPlain
    exact named.saveDoc_at own fun here reached => h.own_of_ownDir (saving.isPlain h.plain) reached
  cases saves with
  | refused => exact h
  | stuck saving made => exact placed saving made
  | unwritten saving made wrote =>
    have ended := written saving made
    rwa [wrote] at ended
  | saved saving made wrote =>
    have ended := written saving made
    rw [wrote] at ended
    have unmarked := ended.modifyBundle id (fun b => { b with entry := { b.entry with modified := false } })
      fun _ plain => plain
    exact ⟨unmarked.config, unmarked.regular, unmarked.plain, unmarked.touched⟩

theorem Readies.within {result : Except Fault Unit} (readies : c.Readies owner c' result) (h : Writing config fs c) :
    Writing config fs c' := by
  cases readies with
  | there => exact h
  | saved _ _ saves => exact saves.within h

theorem SavesItem.within {result : Except Fault Unit} (saves : c.SavesItem kind owner id c' result)
    (h : Writing config fs c) : Writing config fs c' := by
  have written {own : Nat} {dirName : String} {c₁ : Catalog} (readied : c.Readies owner c₁ (.ok ()))
      (home : c₁.bundleDirName? owner = some dirName) : Writing config fs
        ((c₁.namedItem kind own (c₁.ownItemDir kind dirName)).saveDoc own (c₁.ownItemDir kind dirName)).1 := by
    have ready := readied.within h
    obtain ⟨b, found, rfl⟩ := Option.map_eq_some_iff.1 home
    have named := ready.nameDoc own (fun name => freeName c₁.files (c₁.ownItemDir kind b.dirName) name kind.extension)
      fun _ => isPlain_freeName _ _ _ kind.isExtension
    exact named.saveDoc_at own fun here reached => ready.own_of_ownItemDir (ready.plain.dirs owner b found) reached
  cases saves with
  | refused => exact h
  | homeless _ _ readied => exact readied.within h
  | @unwritten _ own _ _ _ _ _ _ readied home wrote =>
    have ended := @written own _ _ readied home
    rwa [wrote] at ended
  | @saved _ own _ _ _ _ _ readied home wrote =>
    have ended := @written own _ _ readied home
    rw [wrote] at ended
    have unmarked := ended.modifyBundle owner (fun row => { row with
      items := row.items.set kind ((row.items.get kind).modifyEntry id fun e => { e with modified := false }) })
      fun _ plain => plain
    exact ⟨unmarked.config, unmarked.regular, unmarked.plain, unmarked.touched⟩

namespace Within

theorem saveThemes (h : Writing config fs c) (ids : List Nat) : Writing config fs (c.saveThemes ids).1 := by
  induction ids generalizing c with
  | nil => exact h
  | cons id ids ih =>
    rw [Catalog.saveThemes]
    split
    · exact ih h
    · rename_i own _
      have written : Writing config fs (c.saveDoc own c.config.ownThemes).1 :=
        h.saveDoc_at own fun here reached => Config.own_of_themes (h.config ▸ reached)
      generalize c.saveDoc own c.config.ownThemes = ending at written
      obtain ⟨c₁, result⟩ := ending
      cases result with
      | error fault => exact written
      | ok _ => exact ih ⟨written.config, written.regular, ⟨written.plain.dirs, written.plain.docs⟩, written.touched⟩

theorem flush (h : Writing config fs c) : Writing config fs c.flush.1 := by
  have saved : (c.db.save c.files c.config.dataDir c.config.snapshotPath).1.Regular ∧
      c.files.TouchesOnly (.at config.Own) (c.db.save c.files c.config.dataDir c.config.snapshotPath).1 := by
    have regular := h.regular.createDirectories c.config.dataDir
    have touched : c.files.TouchesOnly (.at config.Own) (c.files.createDirectories c.config.dataDir).1 :=
      FileSystem.touchesOnly_createDirectories_at fun here passed => .inl (h.config ▸ passed)
    rw [Database.save]
    generalize c.files.createDirectories c.config.dataDir = made at regular touched
    obtain ⟨files, made⟩ := made
    cases made with
    | error fault => exact ⟨regular, touched⟩
    | ok _ =>
      dsimp only
      split
      · rename_i replaced
        refine ⟨regular.replaceFile replaced, touched.trans (FileSystem.touchesOnly_replaceFile_at replaced ?_)⟩
        exact Config.own_of_snapshot (h.config ▸ .inr (List.prefix_refl _))
      · exact ⟨regular, touched⟩
  rw [Catalog.flush]
  split
  · generalize c.db.save c.files c.config.dataDir c.config.snapshotPath = ending at saved
    obtain ⟨files, result⟩ := ending
    cases result <;> exact ⟨h.config, saved.1, h.plain, h.touched.trans saved.2⟩
  · exact ⟨h.config, h.regular, h.plain, h.touched⟩

theorem flushIfDue (h : Writing config fs c) (now : Int) : Writing config fs (c.flushIfDue now).1 := by
  rw [Catalog.flushIfDue]
  split
  · exact h.flush
  · exact h

theorem commit (h : Writing config fs c) : Writing config fs c.commit.1 := by
  have saved := h.saveThemes (List.range c.db.themes.size)
  rw [Catalog.commit]
  generalize c.saveThemes (List.range c.db.themes.size) = ending at saved
  obtain ⟨c₁, result⟩ := ending
  cases result with
  | error fault => exact saved
  | ok _ => exact flush (c := c₁.markDirty) ⟨saved.config, saved.regular, saved.plain, saved.touched⟩

theorem saveTheme? {result : Except Fault Unit} (h : Writing config fs c) (saved : c.saveTheme? id = some (c', result)) :
    Writing config fs c' := by
  obtain ⟨e, -, saved⟩ := Option.bind_eq_some_iff.1 saved
  split at saved
  · obtain ⟨rfl, -⟩ := Prod.mk.inj (Option.some.inj saved)
    exact h
  · rename_i own _
    have written : Writing config fs (c.saveDoc own c.config.ownThemes).1 :=
      h.saveDoc_at own fun here reached => Config.own_of_themes (h.config ▸ reached)
    generalize c.saveDoc own c.config.ownThemes = ending at saved written
    obtain ⟨c₁, ended⟩ := ending
    cases ended <;> obtain ⟨rfl, -⟩ := Prod.mk.inj (Option.some.inj saved)
    · exact written
    · exact ⟨written.config, written.regular, ⟨written.plain.dirs, written.plain.docs⟩, written.touched⟩

end Within

/-! ## Deleting -/

/-- Deleting a version takes out its file, if it has one. -/
theorem EntryTable.files_delete {ρ : Type} [Row ρ] {t t' : EntryTable ρ} {docs docs' : DocumentTable}
    {files files' : FileSystem} (deleted : t.delete id dir docs files = .ok (t', docs', files')) :
    files' = files ∨ ∃ own, files.removeFile (Path.join dir (docs.get own).filename) = .ok files' := by
  have file {own : Nat} {left : FileSystem} (removed : deleteFile files dir (docs.get own).filename = .ok left) :
      left = files ∨ ∃ own, files.removeFile (Path.join dir (docs.get own).filename) = .ok left := by
    rw [deleteFile] at removed
    split at removed
    · exact .inl (Except.ok.inj removed).symm
    · split at removed
      · exact .inl (Except.ok.inj removed).symm
      · exact .inr ⟨own, removed⟩
  cases found : t.entryAt? id with
  | none =>
    rw [delete, found] at deleted
    obtain ⟨-, -, rfl⟩ := Except.ok.inj deleted
    exact .inl rfl
  | some e =>
    -- whether the row is hidden or removed, the files are what they were after that of the version was taken out
    have ending {hides : Bool} {hidden removed : EntryTable ρ} {docs₁ docs₂ : DocumentTable} {left : FileSystem}
        (ended : (if hides then .ok (hidden, docs₁, left) else .ok (removed, docs₂, left) :
          Except FileFault (EntryTable ρ × DocumentTable × FileSystem)) = .ok (t', docs', files')) : files' = left := by
      split at ended <;> exact (congrArg (fun result => result.2.2) (Except.ok.inj ended)).symm
    rw [delete, found] at deleted
    generalize named : (if e.locality.own then e.ownDoc else none) = own at deleted
    simp only [named] at deleted
    cases own with
    | none => exact .inl (ending deleted)
    | some own =>
      obtain ⟨left, removed, ended⟩ := bind_eq_ok deleted
      exact ending ended ▸ file removed

/-- The file is in the directory. -/
theorem EntryTable.touchesOnly_delete {ρ : Type} [Row ρ] {t t' : EntryTable ρ} {docs docs' : DocumentTable}
    {files files' : FileSystem} (regular : files.Regular) (plain : docs.Plain)
    (inside : ∀ here, Path.place dir <+: here → W here) (deleted : t.delete id dir docs files = .ok (t', docs', files')) :
    files'.Regular ∧ files.TouchesOnly (.at W) files' := by
  rcases EntryTable.files_delete deleted with rfl | ⟨own, removed⟩
  · exact ⟨regular, .refl _ _⟩
  · refine ⟨regular.removeFile removed, FileSystem.touchesOnly_removeFile_at removed fun below under => inside below ?_⟩
    exact ((plain own).prefix_join dir).trans under

theorem Within.deleteTheme? {result : Except Fault Unit} (h : Writing config fs c)
    (deleted : c.deleteTheme? id = some (c', result)) : Writing config fs c' := by
  obtain ⟨e, -, deleted⟩ := Option.bind_eq_some_iff.1 deleted
  split at deleted
  · obtain ⟨rfl, -⟩ := Prod.mk.inj (Option.some.inj deleted)
    exact h
  · rename_i removed
    obtain ⟨rfl, -⟩ := Prod.mk.inj (Option.some.inj deleted)
    have inside : ∀ here, Path.place c.config.ownThemes <+: here → config.Own here := fun here under =>
      Config.own_of_themes (.inr (by rwa [h.config] at under))
    obtain ⟨regular, touched⟩ := EntryTable.touchesOnly_delete h.regular h.plain.docs inside removed
    exact ⟨h.config, regular, ⟨h.plain.dirs, h.plain.docs.thin (EntryTable.thins_delete removed)⟩, h.touched.trans touched⟩

theorem Within.deleteItem? {result : Except Fault Reload} (h : Writing config fs c)
    (deleted : c.deleteItem? kind owner id = some (c', result)) : Writing config fs c' := by
  obtain ⟨b, found, deleted⟩ := Option.bind_eq_some_iff.1 deleted
  obtain ⟨e, -, deleted⟩ := Option.bind_eq_some_iff.1 deleted
  split at deleted
  · obtain ⟨rfl, -⟩ := Prod.mk.inj (Option.some.inj deleted)
    exact h
  · rename_i table docs files removed
    obtain ⟨rfl, -⟩ := Prod.mk.inj (Option.some.inj deleted)
    obtain ⟨regular, touched⟩ := EntryTable.touchesOnly_delete h.regular h.plain.docs
      (fun here under => h.own_of_ownItemDir (h.plain.dirs owner b found) (.inr under)) removed
    have left := (h.withDocs (h.plain.docs.thin (EntryTable.thins_delete removed))).modifyBundle owner
      (fun row => { row with items := row.items.set kind table }) fun _ plain => plain
    exact ⟨left.config, regular, left.plain, h.touched.trans touched⟩

theorem regular_removeDirectories {files : FileSystem} (h : files.Regular) (dirs : List String) :
    (removeDirectories files dirs).Regular := by
  induction dirs generalizing files with
  | nil => exact h
  | cons dir dirs ih =>
    rw [removeDirectories]
    split
    · rename_i removed
      exact ih (h.removeDirectory removed)
    · exact ih h

theorem touchesOnly_removeDirectories {files : FileSystem} {dirs : List String}
    (gone : ∀ dir ∈ dirs, (∀ below, Path.place dir <+: below → T below .gone) ∧ T (Path.place dir).dropLast .dated) :
    files.TouchesOnly T (removeDirectories files dirs) := by
  induction dirs generalizing files with
  | nil => exact .refl T files
  | cons dir dirs ih =>
    rw [List.forall_mem_cons] at gone
    rw [removeDirectories]
    split
    · rename_i removed
      rw [FileSystem.removeDirectory_eq_ok removed]
      exact (FileSystem.touchesOnly_dropNodes gone.1.1 gone.1.2).trans (ih gone.2)
    · exact ih gone.2

/-- Deleting a bundle takes out what belongs to the user and the directory of its installed version. -/
def deletion (config : Config) (b : Bundle) : Grant := fun here fate =>
  Grant.at config.Own here fate ∨ (b.entry.locality.installed = true ∧ b.dirName ≠ "" ∧
    Grant.removal (Path.place config.installedBundles ++ [b.dirName]) here fate)

section Deleting

variable {b released : Bundle} {docs : DocumentTable}

theorem Dropping.dirName_eq (dropping : c.Dropping id b released docs) : released.dirName = b.dirName := by
  have same : (Row.release { own := true, installed := true } b c.db.docs).1.dirName = b.dirName := rfl
  rwa [dropping.release] at same

theorem Dropping.plain (dropping : c.Dropping id b released docs) (h : c.db.docs.Plain) : docs.Plain := by
  have thins := Thinning.release { own := true, installed := true } b c.db.docs
  rw [dropping.release] at thins
  exact h.thin thins

theorem Within.uninstalled (h : Within T config fs c) (dropping : c.Dropping id b released docs) :
    Within T config fs (c.uninstalled id b released docs) := by
  refine h.withBundles (EntryTable.alters_setRow dropping.found dropping.dirName_eq) ?_
  split
  · exact (dropping.plain h.plain.docs).thin (thins_dropDoc _ _)
  · exact dropping.plain h.plain.docs

theorem Within.hidden (h : Within T config fs c) (dropping : c.Dropping id b released docs) :
    Within T config fs (c.hidden id b released docs) :=
  h.withBundles (EntryTable.alters_setRow dropping.found dropping.dirName_eq)
    ((dropping.plain h.plain.docs).thin (thins_dropDoc _ _))

/-- The directories of a bundle are taken out. -/
theorem Within.cleared {c₁ : Catalog} (h : Within (deletion config b) config fs c₁) (same : c.config = config)
    (plain : IsPlain b.dirName) : Within (deletion config b) config fs (c₁.cleared (c.doomedDirs b)) := by
  have gone : ∀ dir ∈ c.doomedDirs b, (∀ below, Path.place dir <+: below → deletion config b below .gone) ∧
      deletion config b (Path.place dir).dropLast .dated := by
    intro dir member
    rw [doomedDirs] at member
    split at member
    · cases member
    · rename_i present
      rw [String.isEmpty_iff] at present
      rcases List.mem_append.1 member with users | installed
      · split at users
        · obtain rfl := List.mem_singleton.1 users
          have inside : ∀ below, Path.place (c.ownDir b.dirName) <+: below → config.Own below := fun below under =>
            Config.own_of_bundles (plain.reaches_of_join (.inr (by rwa [ownDir, same] at under)))
          exact ⟨fun below under => .inl (inside below under), .inl ⟨_, inside _ (List.prefix_refl _), rfl⟩⟩
        · cases users
      · split at installed
        · rename_i there
          rw [Bool.and_eq_true] at there
          obtain rfl := List.mem_singleton.1 installed
          rw [same, plain.place_join present]
          exact ⟨fun below under => .inr ⟨there.1, present, under⟩, .inr ⟨there.1, present, rfl⟩⟩
        · cases installed
  exact ⟨h.config, regular_removeDirectories h.regular _, h.plain, h.touched.trans (touchesOnly_removeDirectories gone)⟩

theorem DeletesBundle.within {result : Except Fault Bool} (deletes : c.DeletesBundle id c' result)
    (found : c.db.bundles.row? id = some b) (h : Within (deletion config b) config fs c) :
    Within (deletion config b) config fs c' := by
  have plain := h.plain.dirs id b found
  have known {b' released : Bundle} {docs : DocumentTable} (dropping : c.Dropping id b' released docs) : b' = b :=
    Option.some.inj (dropping.found.symm.trans found)
  cases deletes with
  | hides dropping =>
    obtain rfl := known dropping
    exact (h.hidden dropping).cleared h.config plain
  | unplaced dropping =>
    obtain rfl := known dropping
    exact ((h.uninstalled dropping).dropBundle id Locality.sources).cleared h.config plain
  | stuck dropping =>
    obtain rfl := known dropping
    exact h.uninstalled dropping
  | deleted dropping _ _ deleted =>
    obtain rfl := known dropping
    have left := h.uninstalled dropping
    rw [dropping.dirName_eq] at deleted
    obtain ⟨regular, touched⟩ := EntryTable.touchesOnly_delete h.regular left.plain.docs
      (fun here under => h.own_of_ownDir plain (.inr under)) deleted
    have rows : SameDirs (c.uninstalled id _ _ _).db.bundles _ :=
      EntryTable.alters_delete evolves_sameDirs.mark (fun _ _ _ => rfl) deleted
    have tables := left.plain.withBundles rows (left.plain.docs.thin (EntryTable.thins_delete deleted))
    exact Within.cleared ⟨h.config, regular, tables, h.touched.trans (touched.mono fun _ _ => .inl)⟩ h.config plain

end Deleting

/-! ## What is done in memory -/

namespace Within

theorem newBundle (h : Within T config fs c) (name : String) : Within T config fs (c.newBundle name).1 := by
  have created := h.createDoc name (some manifestName) fun given same =>
    Option.some.inj same ▸ isFileName_manifestName.isPlain
  have new : SameDirs (c.createDoc name (some manifestName)).1.db.bundles (c.newBundle name).1.db.bundles :=
    EntryTable.alters_insert (by rfl) _
  have tables := created.plain.withBundles new created.plain.docs
  exact ⟨created.config, created.regular, tables, created.touched⟩

theorem editBundle? {own : Nat} (h : Within T config fs c) (edited : c.editBundle? id = some (c', own)) :
    Within T config fs c' := by
  obtain ⟨⟨bundles, docs, doc⟩, made, edited⟩ := Option.bind_eq_some_iff.1 edited
  obtain ⟨rfl, -⟩ := Prod.mk.inj (Option.some.inj edited)
  have same : SameDirs c.db.bundles bundles := EntryTable.alters_editable? made fun _ _ _ _ _ => rfl
  have tables := h.plain.withBundles same (EntryTable.plain_editable? h.plain.docs made)
  exact ⟨h.config, h.regular, tables, h.touched⟩

theorem restoreBundle? {result : Except Fault Bool} (h : Within T config fs c)
    (restored : c.restoreBundle? id = some (c', result)) : Within T config fs c' := by
  obtain ⟨b, -, restored⟩ := Option.bind_eq_some_iff.1 restored
  split at restored
  · dsimp only at restored
    split at restored
    · cases loaded : c.db.docs.load c.files (Path.join (Path.join c.config.pristineBundles b.dirName) manifestName) with
      | error fault =>
        rw [loaded] at restored
        obtain ⟨rfl, -⟩ := Prod.mk.inj (Option.some.inj restored)
        exact h
      | ok stored =>
        rw [loaded] at restored
        obtain ⟨rfl, -⟩ := Prod.mk.inj (Option.some.inj restored)
        have shown := (h.withDocs (h.plain.docs.load loaded)).modifyBundle id (fun b =>
          { b with entry := { b.entry with locality := { pristine := true } } }) fun _ plain => plain
        have synced := (shown.registerManifest id stored.2 { pristine := true }).syncItems
          (Path.join c.config.pristineBundles b.dirName) { pristine := true } id (ItemKind.all.filter ScanMode.full.covers)
        exact ⟨synced.config, synced.regular, synced.plain, synced.touched⟩
    · obtain ⟨rfl, -⟩ := Prod.mk.inj (Option.some.inj restored)
      exact h
  · obtain ⟨rfl, -⟩ := Prod.mk.inj (Option.some.inj restored)
    exact h

theorem withItems (h : Within T config fs c) (kind : ItemKind) (owner : Nat) (table : EntryTable Entry) :
    Within T config fs (c.withItems kind owner table) :=
  h.modifyBundle owner (fun row => { row with items := row.items.set kind table }) fun _ plain => plain

theorem newItem? {name : String} {i : Nat} (h : Within T config fs c) (made : c.newItem? kind owner name = some (c', i)) :
    Within T config fs c' := by
  obtain ⟨items, -, made⟩ := Option.bind_eq_some_iff.1 made
  obtain ⟨rfl, -⟩ := Prod.mk.inj (Option.some.inj made)
  have created := h.createDoc name none nofun
  have added := created.withItems kind owner
    (items.insert (c.createDoc name none).2 { own := true } (c.createDoc name none).1.db.docs).1
  exact ⟨added.config, added.regular, added.plain, added.touched⟩

theorem editItem? {own : Nat} (h : Within T config fs c) (edited : c.editItem? kind owner id = some (c', own)) :
    Within T config fs c' := by
  obtain ⟨items, -, edited⟩ := Option.bind_eq_some_iff.1 edited
  obtain ⟨⟨table, docs, doc⟩, made, edited⟩ := Option.bind_eq_some_iff.1 edited
  obtain ⟨rfl, -⟩ := Prod.mk.inj (Option.some.inj edited)
  have marked := (h.withDocs (EntryTable.plain_editable? h.plain.docs made)).withItems kind owner
    (table.modifyEntry id fun e => { e with modified := true })
  exact ⟨marked.config, marked.regular, marked.plain, marked.touched⟩

theorem restoreItem? {restored : Bool} (h : Within T config fs c)
    (shown : c.restoreItem? kind owner id = some (c', restored)) : Within T config fs c' := by
  obtain ⟨e, -, shown⟩ := Option.bind_eq_some_iff.1 shown
  obtain ⟨items, -, shown⟩ := Option.bind_eq_some_iff.1 shown
  generalize items.restore id = ending at shown
  obtain ⟨table, done⟩ := ending
  cases done <;> obtain ⟨rfl, -⟩ := Prod.mk.inj (Option.some.inj shown)
  · exact h
  · have put := h.withItems kind owner table
    exact ⟨put.config, put.regular, put.plain, put.touched⟩

theorem newTheme (h : Within T config fs c) (name : String) : Within T config fs (c.newTheme name).1 := by
  have plain : IsPlain (freeName c.files c.config.ownThemes name ".tmTheme") := isPlain_freeName _ _ _ isExtension_theme
  rw [Catalog.newTheme]
  generalize freeName c.files c.config.ownThemes name ".tmTheme" = filename at plain
  have created := h.createDoc name (some filename) fun given same => Option.some.inj same ▸ plain
  generalize c.createDoc name (some filename) = result at created
  have colored : (result.1.db.docs.modify result.2 addColors).Plain := by
    refine created.plain.docs.modify result.2 fun d plain => ?_
    rwa [(sameFile_addColors d).1]
  exact ⟨created.config, created.regular, ⟨created.plain.dirs, colored⟩, created.touched⟩

theorem editTheme? {own : Nat} (h : Within T config fs c) (edited : c.editTheme? id = some (c', own)) :
    Within T config fs c' := by
  obtain ⟨⟨themes, docs, doc⟩, made, edited⟩ := Option.bind_eq_some_iff.1 edited
  obtain ⟨rfl, -⟩ := Prod.mk.inj (Option.some.inj edited)
  exact ⟨h.config, h.regular, ⟨h.plain.dirs, EntryTable.plain_editable? h.plain.docs made⟩, h.touched⟩

theorem restoreTheme? {restored : Bool} (h : Within T config fs c) (shown : c.restoreTheme? id = some (c', restored)) :
    Within T config fs c' := by
  obtain ⟨e, -, shown⟩ := Option.bind_eq_some_iff.1 shown
  generalize c.db.themes.restore id = ending at shown
  obtain ⟨themes, done⟩ := ending
  cases done <;> obtain ⟨rfl, -⟩ := Prod.mk.inj (Option.some.inj shown)
  · exact h
  · exact ⟨h.config, h.regular, ⟨h.plain.dirs, h.plain.docs⟩, h.touched⟩

theorem write? {content : Document} (h : Within T config fs c) (wrote : c.write? doc content = some c') :
    Within T config fs c' := by
  obtain ⟨d, live, wrote⟩ := Option.bind_eq_some_iff.1 wrote
  obtain ⟨-, rfl⟩ := liveDoc?_eq_some.1 live
  split at wrote
  · cases wrote
  · obtain rfl := Option.some.inj wrote
    exact h.withDocs (h.plain.docs.set doc (h.plain.docs doc))

/-! ## Exports -/

variable {target : String} {result : Except Fault Unit}

theorem exportItem? (h : Within (.at W) config fs c) (inside : ∀ here, Path.Reaches target here → W here)
    (exported : c.exportItem? target kind owner id = some (c', result)) : Within (.at W) config fs c' := by
  obtain ⟨path, -, exported⟩ := Option.bind_eq_some_iff.1 exported
  cases path with
  | none =>
    obtain ⟨rfl, -⟩ := Prod.mk.inj (Option.some.inj exported)
    exact h
  | some source =>
    dsimp only at exported
    split at exported
    · rename_i copied
      obtain ⟨rfl, -⟩ := Prod.mk.inj (Option.some.inj exported)
      have touched := FileSystem.touchesOnly_copyFile_at copied (inside _ (.inr (List.prefix_refl _)))
      exact ⟨h.config, h.regular.copyFile copied, h.plain, h.touched.trans touched⟩
    · obtain ⟨rfl, -⟩ := Prod.mk.inj (Option.some.inj exported)
      exact h

theorem exportItems? {items : List Nat} (h : Within (.at W) config fs c) (inside : ∀ here, Path.Reaches dir here → W here)
    (exported : exportItems? c dir kind owner items = some (c', result)) : Within (.at W) config fs c' := by
  induction items generalizing c with
  | nil =>
    obtain ⟨rfl, -⟩ := Prod.mk.inj (Option.some.inj exported)
    exact h
  | cons i items ih =>
    obtain ⟨path, -, exported⟩ := Option.bind_eq_some_iff.1 exported
    split at exported
    · exact ih h exported
    · rename_i filename named
      obtain ⟨⟨c₁, ended⟩, first, exported⟩ := Option.bind_eq_some_iff.1 exported
      obtain ⟨source, -, last⟩ := Option.bind_eq_some_iff.1 named
      have copied := h.exportItem?
        (fun here reached => inside here ((Path.isPlain_of_fileName? last).reaches_of_join reached)) first
      cases ended with
      | error fault =>
        obtain ⟨rfl, -⟩ := Prod.mk.inj (Option.some.inj exported)
        exact copied
      | ok _ => exact ih copied exported

theorem exportKinds? {kinds : List ItemKind} (h : Within (.at W) config fs c)
    (inside : ∀ here, Path.Reaches target here → W here)
    (exported : exportKinds? c target owner kinds = some (c', result)) : Within (.at W) config fs c' := by
  induction kinds generalizing c with
  | nil =>
    obtain ⟨rfl, -⟩ := Prod.mk.inj (Option.some.inj exported)
    exact h
  | cons kind kinds ih =>
    obtain ⟨items, -, exported⟩ := Option.bind_eq_some_iff.1 exported
    have below : ∀ here, Path.Reaches (Path.join target kind.dirName) here → W here := fun here reached =>
      inside here (kind.isFileName_dirName.isPlain.reaches_of_join reached)
    split at exported
    · exact ih h exported
    · dsimp only at exported
      split at exported
      · rename_i made
        obtain ⟨rfl, -⟩ := Prod.mk.inj (Option.some.inj exported)
        exact h.createDirectories (fun here passed => below here (.inl passed)) made
      · rename_i made
        obtain ⟨⟨c₁, ended⟩, first, exported⟩ := Option.bind_eq_some_iff.1 exported
        have copied := (h.createDirectories (fun here passed => below here (.inl passed)) made).exportItems? below first
        cases ended with
        | error fault =>
          obtain ⟨rfl, -⟩ := Prod.mk.inj (Option.some.inj exported)
          exact copied
        | ok _ => exact ih copied exported

theorem exportSupport? (h : Within (.at W) config fs c) (inside : ∀ here, Path.Reaches target here → W here)
    (exported : c.exportSupport? target id = some (c', result)) : Within (.at W) config fs c' := by
  obtain ⟨path, -, exported⟩ := Option.bind_eq_some_iff.1 exported
  cases path with
  | none =>
    obtain ⟨rfl, -⟩ := Prod.mk.inj (Option.some.inj exported)
    exact h
  | some support =>
    obtain ⟨rfl, -⟩ := Prod.mk.inj (Option.some.inj exported)
    have plain : IsPlain supportName := ⟨by decide, by decide⟩
    have touched : c.files.TouchesOnly (.at W) (c.files.copyDirectory support (Path.join target supportName)).1 :=
      FileSystem.touchesOnly_copyDirectory_at h.regular fun here reached => inside here (plain.reaches_of_join reached)
    exact ⟨h.config, h.regular.copyDirectory _ _, h.plain, h.touched.trans touched⟩

/-- An export writes below its target. -/
theorem exportBundle? (h : Within (.at W) config fs c) (inside : ∀ here, Path.Reaches target here → W here)
    (exported : c.exportBundle? target id = some (c', result)) : Within (.at W) config fs c' := by
  have made {files : FileSystem} {made : Except FileFault Unit} (made : c.files.createDirectories target = (files, made)) :
      Within (.at W) config fs { c with files } :=
    h.createDirectories (fun here passed => inside here (.inl passed)) made
  rw [Catalog.exportBundle?] at exported
  split at exported
  · rename_i failed
    obtain ⟨rfl, -⟩ := Prod.mk.inj (Option.some.inj exported)
    exact made failed
  · rename_i created
    obtain ⟨b, -, exported⟩ := Option.bind_eq_some_iff.1 exported
    have start := made created
    split at exported
    · obtain ⟨rfl, -⟩ := Prod.mk.inj (Option.some.inj exported)
      exact start
    · split at exported
      · obtain ⟨rfl, -⟩ := Prod.mk.inj (Option.some.inj exported)
        exact start
      · split at exported
        · obtain ⟨rfl, -⟩ := Prod.mk.inj (Option.some.inj exported)
          exact start
        · rename_i files copied
          have named := inside _ (isFileName_manifestName.isPlain.reaches_of_join (.inr (List.prefix_refl _)))
          have touched := start.touched.trans (FileSystem.touchesOnly_copyFile_at copied named)
          have first : Within (.at W) config fs { c with files } :=
            ⟨h.config, start.regular.copyFile copied, h.plain, touched⟩
          obtain ⟨⟨c₁, ended⟩, kinds, exported⟩ := Option.bind_eq_some_iff.1 exported
          have second := first.exportKinds? inside kinds
          cases ended with
          | error fault =>
            obtain ⟨rfl, -⟩ := Prod.mk.inj (Option.some.inj exported)
            exact second
          | ok _ => exact second.exportSupport? inside exported

end Within

end EditorBundles.Catalog
