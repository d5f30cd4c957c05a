import EditorBundles.Proofs.Catalog.Concealment
import EditorBundles.Proofs.Catalog.OperationFrames

/-!
# Shipped files are read-only

What came with the editor is below one directory, and what was installed or is the user's own is below another one. As
long as the two are apart, no operation changes anything of the first, and of what was installed only the directory of a
bundle that is deleted goes. A scan writes only manifests into directories of the user's own bundles that have none.
-/

namespace EditorBundles.Catalog
set_option autoImplicit false
open PropertyList
open EditorBundles.Path (IsPlain)

variable {T T' : Grant} {W : Place → Prop} {config : Config} {fs : FileSystem} {c c' : Catalog} {here : Place}

theorem Within.mono (h : Within T config fs c) (wider : ∀ here fate, T here fate → T' here fate) : Within T' config fs c :=
  ⟨h.config, h.regular, h.plain, h.touched.mono wider⟩

/-! ## Operations -/

/-- What an operation may change. Others may change any file. -/
def Operation.grant (c : Catalog) : Operation → Grant
  | .update _ => .completing c.files (Path.place c.config.ownBundles)
  | .resume => .completing c.files (Path.place c.config.ownBundles)
  | .deleteBundle id => fun here fate => ∃ b, c.db.bundles.row? id = some b ∧ deletion c.config b here fate
  | .exportBundle target _ => .at (Path.Reaches target)
  | .exportItem target _ _ _ => .at (Path.Reaches target)
  | .changeFiles _ => fun _ _ => True
  | _ => .at c.config.Own

/-- An operation that gives a result next to the catalog. -/
theorem within_of_map {α : Type} {run : Option (Catalog × α)}
    (within : ∀ c' result, run = some (c', result) → Within T config fs c') (runs : run.map Prod.fst = some c') :
    Within T config fs c' := by
  obtain ⟨⟨c', result⟩, ran, rfl⟩ := Option.map_eq_some_iff.1 runs
  exact within c' result ran

/-- Every operation keeps to its grant, and leaves the files regular and the names plain. -/
theorem Operation.within {op : Operation} (regular : c.files.Regular) (plain : c.db.Plain)
    (internal : ∀ files, op ≠ .changeFiles files) (runs : op.run? c = some c') :
    Within (op.grant c) c.config c.files c' := by
  have start (T : Grant) : Within T c.config c.files c := ⟨rfl, regular, plain, .refl T c.files⟩
  cases op with
  | update mode =>
    obtain rfl := Option.some.inj runs
    exact (start (.completing c.files (Path.place c.config.ownBundles))).update mode
  | resume =>
    obtain rfl := Option.some.inj runs
    exact (start (.completing c.files (Path.place c.config.ownBundles))).resume
  | newBundle name =>
    obtain rfl := Option.some.inj runs
    exact (start _).newBundle name
  | editBundle id => exact within_of_map (fun _ _ ran => (start _).editBundle? ran) runs
  | saveBundle id =>
    exact within_of_map (fun _ _ ran => (savesBundle_of_saveBundle? ran).within (start (.at c.config.Own))) runs
  | deleteBundle id =>
    refine within_of_map (fun c' result ran => ?_) runs
    obtain ⟨b, found, -⟩ := Option.bind_eq_some_iff.1 ran
    have deleted := (deletesBundle_of_deleteBundle? ran).within found (start (deletion c.config b))
    exact deleted.mono fun _ _ granted => ⟨b, found, granted⟩
  | restoreBundle id => exact within_of_map (fun _ _ ran => (start _).restoreBundle? ran) runs
  | newItem kind owner name => exact within_of_map (fun _ _ ran => (start _).newItem? ran) runs
  | editItem kind owner id => exact within_of_map (fun _ _ ran => (start _).editItem? ran) runs
  | saveItem kind owner id =>
    exact within_of_map (fun _ _ ran => (savesItem_of_saveItem? ran).within (start (.at c.config.Own))) runs
  | deleteItem kind owner id => exact within_of_map (fun _ _ ran => (start (.at c.config.Own)).deleteItem? ran) runs
  | restoreItem kind owner id => exact within_of_map (fun _ _ ran => (start _).restoreItem? ran) runs
  | newTheme name =>
    obtain rfl := Option.some.inj runs
    exact (start _).newTheme name
  | editTheme id => exact within_of_map (fun _ _ ran => (start _).editTheme? ran) runs
  | markTheme id =>
    obtain ⟨e, -, marked⟩ := Option.bind_eq_some_iff.1 runs
    obtain rfl := Option.some.inj marked
    exact ⟨rfl, regular, ⟨plain.dirs, plain.docs⟩, .refl _ _⟩
  | saveTheme id => exact within_of_map (fun _ _ ran => (start (.at c.config.Own)).saveTheme? ran) runs
  | deleteTheme id => exact within_of_map (fun _ _ ran => (start (.at c.config.Own)).deleteTheme? ran) runs
  | restoreTheme id => exact within_of_map (fun _ _ ran => (start _).restoreTheme? ran) runs
  | write doc content => exact (start _).write? runs
  | setSyntax ext name =>
    obtain rfl := Option.some.inj runs
    exact ⟨rfl, regular, ⟨plain.dirs, plain.docs⟩, .refl _ _⟩
  | commit =>
    obtain rfl := Option.some.inj runs
    exact (start (.at c.config.Own)).commit
  | flush =>
    obtain rfl := Option.some.inj runs
    exact (start (.at c.config.Own)).flush
  | flushIfDue now =>
    obtain rfl := Option.some.inj runs
    exact (start (.at c.config.Own)).flushIfDue now
  | exportBundle target id =>
    exact within_of_map (fun _ _ ran => (start (.at (Path.Reaches target))).exportBundle? (fun _ reached => reached) ran) runs
  | exportItem target kind owner id =>
    exact within_of_map (fun _ _ ran => (start (.at (Path.Reaches target))).exportItem? (fun _ reached => reached) ran) runs
  | changeFiles files => exact absurd rfl (internal files)

/-! ## Opening -/

/-- What is done to a manifest of the user's own is done below the directory of their bundles. -/
theorem own_of_completing {files : FileSystem} {fate : Fate}
    (granted : Grant.completing files (Path.place config.ownBundles) here fate) : Grant.at config.Own here fate := by
  obtain ⟨dirName, -, -, -, -, ⟨rfl, rfl, -⟩ | ⟨rfl, rfl⟩⟩ := granted
  · exact .inr (.inr (.inr ((List.prefix_append _ _).trans (List.prefix_append _ _))))
  · exact ⟨Path.place config.ownBundles ++ [dirName] ++ [manifestName],
      .inr (.inr (.inr ((List.prefix_append _ _).trans (List.prefix_append _ _)))), List.dropLast_concat⟩

/-- A snapshot that cannot be used is taken out. -/
theorem touchesOnly_load (files : FileSystem) (config : Config) :
    files.TouchesOnly (.at config.Own) (Database.load files config.snapshotPath config.rebuild).2 := by
  rcases FileSystem.snd_load files config.snapshotPath config.rebuild with same | removed
  · exact same.symm ▸ .refl _ files
  · exact FileSystem.touchesOnly_removeFile_at removed fun below under => Config.own_of_snapshot (.inr under)

/-- Where its directory can be made, a catalog is opened. -/
theorem openAt_eq {files files₁ : FileSystem} (made : files.createDirectories config.dataDir = (files₁, .ok ()))
    (identities : Identities) : ∃ start : Catalog, start.config = config ∧ start.db = openingTables config files ∧
      start.files = (Database.load files₁ config.snapshotPath config.rebuild).2 ∧ start.pending = some .languages ∧
      openAt config files identities = (start.resume.1.files, .ok start.resume.1) := by
  rw [openAt, openingTables, made]
  exact ⟨_, rfl, rfl, rfl, rfl, rfl⟩

/-- Opening a catalog changes only what belongs to the user. -/
theorem touchesOnly_openAt {files files' : FileSystem} {identities : Identities} {result : Except Fault Catalog}
    (regular : files.Regular) (plain : (openingTables config files).Plain)
    (opens : openAt config files identities = (files', result)) : files.TouchesOnly (.at config.Own) files' := by
  have regular₁ := regular.createDirectories config.dataDir
  have touched : files.TouchesOnly (.at config.Own) (files.createDirectories config.dataDir).1 :=
    FileSystem.touchesOnly_createDirectories_at fun here passed => .inl passed
  rcases made : files.createDirectories config.dataDir with ⟨files₁, ended⟩
  rw [made] at regular₁ touched
  cases ended with
  | error fault =>
    rw [openAt, made] at opens
    obtain ⟨rfl, -⟩ := Prod.mk.inj opens
    exact touched
  | ok _ =>
    obtain ⟨start, rfl, tables, found, -, opened⟩ := openAt_eq made identities
    obtain ⟨rfl, -⟩ := Prod.mk.inj (opened.symm.trans opens)
    have loaded : files₁.TouchesOnly (.at start.config.Own) start.files := found ▸ touchesOnly_load files₁ start.config
    have regular₂ : start.files.Regular := found ▸ regular₁.load _ _
    have scanned : Scanning start.config start.files start.resume.1 :=
      Within.resume ⟨rfl, regular₂, tables ▸ plain, .refl _ _⟩
    exact (touched.trans loaded).trans (scanned.touched.mono fun _ _ => own_of_completing)

/-! ## Runs -/

/-- The catalogs that are reached over regular file systems from no tables. -/
inductive Grounded : Catalog → Prop where
  | opened {config : Config} {files files' : FileSystem} {identities : Identities} {c : Catalog} (regular : files.Regular)
      (empty : openingTables config files = {}) (opens : openAt config files identities = (files', .ok c)) : Grounded c
  | reopened {config : Config} {files files' : FileSystem} {identities : Identities} {before c : Catalog}
      (regular : files.Regular) (reached : Grounded before) (same : openingTables config files = before.db)
      (opens : openAt config files identities = (files', .ok c)) : Grounded c
  | next {c c' : Catalog} {op : Operation} (reached : Grounded c)
      (regular : ∀ files, op = .changeFiles files → files.Regular) (runs : op.run? c = some c') : Grounded c'

/-- The files stay regular, and no name of a directory or a file leads up. -/
theorem Grounded.regular_plain (h : Grounded c) : c.files.Regular ∧ c.db.Plain := by
  have resumed {start : Catalog} (regular : start.files.Regular) (plain : start.db.Plain) :
      start.resume.1.files.Regular ∧ start.resume.1.db.Plain := by
    have scanned : Scanning start.config start.files start.resume.1 := Within.resume ⟨rfl, regular, plain, .refl _ _⟩
    exact ⟨scanned.regular, scanned.plain⟩
  induction h with
  | @opened config files _ _ _ regular empty opens =>
    obtain ⟨start, tables, rfl, found⟩ := resume_of_openAt opens
    have regular₁ := (regular.createDirectories config.dataDir).load config.snapshotPath config.rebuild
    exact resumed (found ▸ regular₁) ((tables.trans empty) ▸ Database.plain_empty)
  | @reopened config files _ _ before _ regular _ same opens ih =>
    obtain ⟨start, tables, rfl, found⟩ := resume_of_openAt opens
    have regular₁ := (regular.createDirectories config.dataDir).load config.snapshotPath config.rebuild
    exact resumed (found ▸ regular₁) ((tables.trans same) ▸ ih.2)
  | @next c c' op _ regular runs ih =>
    by_cases internal : ∀ files, op ≠ .changeFiles files
    · have stays := Operation.within ih.1 ih.2 internal runs
      exact ⟨stays.regular, stays.plain⟩
    · simp only [ne_eq, not_forall, not_not] at internal
      obtain ⟨files, rfl⟩ := internal
      obtain rfl := Option.some.inj runs
      exact ⟨regular files rfl, ih.2⟩

/-! ## Configurations -/

/-- Neither what came with the editor nor the data is below the other one, and the way to the data does not lead into
either. -/
structure Config.Apart (config : Config) : Prop where
  bundled : ∀ here, Path.Passes config.dataDir here → ¬Path.place config.bundledDir <+: here
  data : ¬Path.place config.dataDir <+: Path.place config.bundledDir
  straight : ∀ here, Path.Passes config.dataDir here → Path.place config.dataDir <+: here →
    here = Path.place config.dataDir

/-- For a path to the data that never leads up, it is enough that neither is below the other one. -/
theorem Config.apart_iff (down : ".." ∉ Path.parts config.dataDir) : config.Apart ↔
    ¬Path.place config.bundledDir <+: Path.place config.dataDir ∧
      ¬Path.place config.dataDir <+: Path.place config.bundledDir := by
  have passed (here : Place) (h : Path.Passes config.dataDir here) : here <+: Path.place config.dataDir := by
    obtain ⟨front, sooner, rfl⟩ := h
    exact Path.prefix_place down sooner
  constructor
  · intro h
    exact ⟨h.bundled _ (Path.passes_place _), h.data⟩
  · rintro ⟨bundled, data⟩
    refine ⟨fun here way inside => bundled (inside.trans (passed here way)), data, fun here way inside => ?_⟩
    exact (passed here way).eq_of_length_le inside.length_le

/-- Nothing that a path passes, or that is below it, is below what came with the editor or below the data. -/
def Config.Outside (config : Config) (path : String) : Prop :=
  ∀ here, Path.Reaches path here → ¬Path.place config.bundledDir <+: here ∧ ¬Path.place config.dataDir <+: here

/-- What is below two names is below one name. -/
theorem eq_of_below {root : Place} {name other : String} (inside : root ++ [name] <+: here) (below : root ++ [other] <+: here) :
    name = other := by
  have same := (List.prefix_or_prefix_of_prefix inside below).elim
    (fun sooner => sooner.eq_of_length (by simp)) (fun sooner => (sooner.eq_of_length (by simp)).symm)
  exact List.singleton_inj.1 (List.append_cancel_left same)

namespace Config

theorem place_installedBundles (config : Config) :
    Path.place config.installedBundles = Path.place config.dataDir ++ ["InstalledBundles"] :=
  isFileName_installedBundles.isPlain.place_join isFileName_installedBundles.present _

/-- What belongs to the user is on the way to the data, or below another name than what was installed. -/
theorem cases_own (own : config.Own here) : Path.Passes config.dataDir here ∨
    ∃ name, name ≠ "InstalledBundles" ∧ Path.place config.dataDir ++ [name] <+: here := by
  rcases own with passed | below | below | below
  · exact .inl passed
  · rw [snapshotPath, isFileName_catalog.isPlain.place_join isFileName_catalog.present] at below
    exact .inr ⟨_, by decide, below⟩
  · rw [ownThemes, isFileName_themes.isPlain.place_join isFileName_themes.present] at below
    exact .inr ⟨_, by decide, below⟩
  · rw [ownBundles, isFileName_bundles.isPlain.place_join isFileName_bundles.present] at below
    exact .inr ⟨_, by decide, below⟩

namespace Apart

/-- What is below the data is not below what came with the editor. -/
theorem not_bundled (h : config.Apart) (below : Path.place config.dataDir <+: here) :
    ¬Path.place config.bundledDir <+: here := fun inside =>
  (List.prefix_or_prefix_of_prefix inside below).elim (h.bundled _ (Path.passes_place _)) h.data

theorem not_bundled_of_own (h : config.Apart) (own : config.Own here) : ¬Path.place config.bundledDir <+: here := by
  rcases cases_own own with passed | ⟨name, -, below⟩
  · exact h.bundled here passed
  · exact h.not_bundled ((List.prefix_append _ _).trans below)

/-- The way to the data leads below no name in it. -/
theorem not_below_of_passes (h : config.Apart) (passed : Path.Passes config.dataDir here) (name : String) :
    ¬Path.place config.dataDir ++ [name] <+: here := by
  intro below
  have length := below.length_le
  rw [h.straight here passed ((List.prefix_append _ _).trans below), List.length_append, List.length_singleton] at length
  omega

theorem not_installed_of_own (h : config.Apart) (own : config.Own here) :
    ¬Path.place config.installedBundles <+: here := by
  rw [place_installedBundles]
  intro inside
  rcases cases_own own with passed | ⟨name, ne, below⟩
  · exact h.not_below_of_passes passed _ inside
  · exact ne (eq_of_below below inside)

/-- The way to an installed bundle leads past no bundle of the user's own. -/
theorem not_own_of_passes (h : config.Apart) {dirName : String} (plain : IsPlain dirName)
    (passed : Path.Passes (Path.join config.installedBundles dirName) here) : ¬Path.place config.ownBundles <+: here := by
  rw [ownBundles, isFileName_bundles.isPlain.place_join isFileName_bundles.present]
  intro below
  have outside : ¬Path.place config.installedBundles <+: here := by
    rw [place_installedBundles]
    exact fun inside => absurd (eq_of_below below inside) (by decide)
  rcases plain.passes_join passed with passed | rfl
  · rcases isFileName_installedBundles.isPlain.passes_join passed with passed | rfl
    · exact h.not_below_of_passes passed _ below
    · exact outside (List.prefix_refl _)
  · exact outside (plain.prefix_join _)

end Apart

end Config

/-! ## What stays -/

/-- What came with the editor stays, and what was installed stays but for the directories that are removed. -/
structure Config.Spares (config : Config) (removed : String → Prop) (fs fs' : FileSystem) : Prop where
  bundled : ∀ here, Path.place config.bundledDir <+: here → fs'.node? here = fs.node? here
  installed : ∀ dirName inner,
    fs'.node? (Path.place config.installedBundles ++ dirName :: inner) =
        fs.node? (Path.place config.installedBundles ++ dirName :: inner) ∨
      (removed dirName ∧ fs'.node? (Path.place config.installedBundles ++ dirName :: inner) = none)

/-- The directories that an operation removes of what was installed: that of the bundle it deletes. -/
def Operation.Removes (c : Catalog) (op : Operation) (dirName : String) : Prop :=
  ∃ id b, op = .deleteBundle id ∧ c.db.bundles.row? id = some b ∧ b.entry.locality.installed = true ∧ b.dirName = dirName

/-- An operation of the catalog, which exports to a path outside of what came with the editor and the data. -/
def Operation.Outward (c : Catalog) : Operation → Prop
  | .exportBundle target _ => c.config.Outside target
  | .exportItem target _ _ _ => c.config.Outside target
  | .changeFiles _ => False
  | _ => True

/-- Where nothing around a place is granted, nothing becomes of it. -/
theorem Grant.not_at {fate : Fate} (refused : ∀ inner, here <+: inner → ¬W inner) : ¬Grant.at W here fate := by
  cases fate with
  | dated =>
    rintro ⟨inner, granted, rfl⟩
    exact refused inner (List.dropLast_prefix _) granted
  | gone => exact refused here (List.prefix_refl _)
  | file => exact refused here (List.prefix_refl _)
  | directory => exact refused here (List.prefix_refl _)

variable {files files' : FileSystem} {removed : String → Prop}

/-- What is not written to stays. -/
theorem Config.spares_at (touched : files.TouchesOnly (.at W) files')
    (bundled : ∀ here, W here → ¬Path.place config.bundledDir <+: here)
    (installed : ∀ here, W here → ¬Path.place config.installedBundles <+: here) : config.Spares removed files files' where
  bundled _ inside := touched.node?_eq fun _ =>
    Grant.not_at fun inner below granted => bundled inner granted (inside.trans below)
  installed _ _ := .inl (touched.node?_eq fun _ =>
    Grant.not_at fun inner below granted => installed inner granted ((List.prefix_append _ _).trans below))

theorem Config.Apart.spares_own (apart : config.Apart) (touched : files.TouchesOnly (.at config.Own) files') :
    config.Spares removed files files' :=
  Config.spares_at touched (fun _ => apart.not_bundled_of_own) fun _ => apart.not_installed_of_own

theorem Config.Outside.spares {target : String} (outside : config.Outside target)
    (touched : files.TouchesOnly (.at (Path.Reaches target)) files') : config.Spares removed files files' := by
  refine Config.spares_at touched (fun here reached => (outside here reached).1) fun here reached inside => ?_
  rw [Config.place_installedBundles] at inside
  exact (outside here reached).2 ((List.prefix_append _ _).trans inside)

/-- A removal is granted at and below the place alone, but for the time of the directory around it. -/
theorem Grant.removal_cases {root : Place} {fate : Fate} (granted : Grant.removal root here fate) :
    (fate = .gone ∧ root <+: here) ∨ (fate = .dated ∧ here = root.dropLast) := by
  cases fate with
  | gone => exact .inl ⟨rfl, granted⟩
  | dated => exact .inr ⟨rfl, granted⟩
  | file => exact granted.elim
  | directory => exact granted.elim

/-- Deleting a bundle spares the installed versions of all the others. -/
theorem Config.Apart.spares_deletion {b : Bundle} (apart : config.Apart)
    (touched : files.TouchesOnly (deletion config b) files') :
    config.Spares (fun dirName => b.entry.locality.installed = true ∧ b.dirName = dirName) files files' where
  bundled here inside := touched.node?_eq fun fate granted => by
    have outside : ¬Path.place config.dataDir <+: here := fun data => apart.not_bundled data inside
    rcases granted with own | ⟨-, -, removal⟩
    · exact Grant.not_at (fun inner below own => apart.not_bundled_of_own own (inside.trans below)) own
    · rw [place_installedBundles] at removal
      obtain ⟨-, below⟩ | ⟨-, same⟩ := Grant.removal_cases removal
      · exact outside (((List.prefix_append _ _).trans (List.prefix_append _ _)).trans below)
      · rw [List.dropLast_concat] at same
        exact outside (same ▸ List.prefix_append _ _)
  installed dirName inner := by
    rcases touched (Path.place config.installedBundles ++ dirName :: inner) with same | ⟨fate, granted, meets⟩
    · exact .inl same
    · rcases granted with own | ⟨installed, -, removal⟩
      · exact absurd own (Grant.not_at fun inner below own =>
          apart.not_installed_of_own own ((List.prefix_append _ _).trans below))
      · obtain ⟨rfl, below⟩ | ⟨-, same⟩ := Grant.removal_cases removal
        · have named : b.dirName = dirName := (List.cons_prefix_cons.1 ((List.prefix_append_right_inj _).1 below)).1
          generalize files'.node? (Path.place config.installedBundles ++ dirName :: inner) = after at meets ⊢
          cases meets with
          | gone => exact .inr ⟨⟨installed, named⟩, rfl⟩
        · rw [List.dropLast_concat] at same
          exact absurd (List.append_right_eq_self.1 same) (List.cons_ne_nil _ _)

theorem Config.Spares.mono {removed' : String → Prop} (h : config.Spares removed files files')
    (wider : ∀ dirName, removed dirName → removed' dirName) : config.Spares removed' files files' :=
  ⟨h.bundled, fun dirName inner => (h.installed dirName inner).imp_right fun gone => ⟨wider dirName gone.1, gone.2⟩⟩

/-- An operation that keeps to its grant spares what is shipped. -/
theorem Operation.spares {op : Operation} (apart : c.config.Apart) (outward : op.Outward c)
    (touched : c.files.TouchesOnly (op.grant c) files') : c.config.Spares (op.Removes c) c.files files' := by
  cases op with
  | update mode => exact apart.spares_own (touched.mono fun _ _ => own_of_completing)
  | resume => exact apart.spares_own (touched.mono fun _ _ => own_of_completing)
  | deleteBundle id =>
    cases found : c.db.bundles.row? id with
    | none => exact apart.spares_own (touched.mono fun _ _ ⟨b, found', _⟩ => by simp [found] at found')
    | some b =>
      have deleted : c.files.TouchesOnly (deletion c.config b) files' := touched.mono fun _ _ ⟨b', found', granted⟩ => by
        obtain rfl := Option.some.inj (found.symm.trans found')
        exact granted
      exact (apart.spares_deletion deleted).mono fun dirName gone => ⟨id, b, rfl, found, gone.1, gone.2⟩
  | exportBundle target id => exact Config.Outside.spares outward touched
  | exportItem target kind owner id => exact Config.Outside.spares outward touched
  | changeFiles files => exact outward.elim
  | _ => exact apart.spares_own touched

/-! ## The directory of a deleted bundle -/

theorem removeDirectories_append (files : FileSystem) (dirs rest : List String) :
    removeDirectories files (dirs ++ rest) = removeDirectories (removeDirectories files dirs) rest := by
  induction dirs generalizing files with
  | nil => rfl
  | cons dir dirs ih =>
    rw [List.cons_append, removeDirectories, removeDirectories]
    split
    · exact ih _
    · exact ih _

/-- The last of the directories that are taken out leaves nothing. -/
theorem node?_removeDirectories_concat {dirs : List String} {dir : String}
    (there : (removeDirectories files dirs).isDirectory dir = true) (below : Path.place dir <+: here) :
    (removeDirectories files (dirs ++ [dir])).node? here = none := by
  obtain ⟨place, mode, modified, located⟩ := FileSystem.isDirectory_iff.1 there
  have removed : (removeDirectories files dirs).removeDirectory dir = .ok ((removeDirectories files dirs).dropNodes place) := by
    rw [FileSystem.removeDirectory, located]
  rw [removeDirectories_append, removeDirectories, removed]
  dsimp only
  rw [removeDirectories, FileSystem.place_of_locate located, FileSystem.node?_dropNodes, if_pos below]

/-- The installed version of a deleted bundle is gone, with all that was in its directory. -/
theorem Config.Apart.none_of_deleteBundle? {id : Nat} {b : Bundle} {done : Bool} (apart : c.config.Apart)
    (regular : c.files.Regular) (plain : c.db.Plain) (found : c.db.bundles.row? id = some b) (installed : b.entry.locality.installed = true)
    (placed : b.dirName ≠ "") (there : c.files.isDirectory (Path.join c.config.installedBundles b.dirName) = true)
    (deleted : c.deleteBundle? id = some (c', .ok done)) (inner : Place) :
    c'.files.node? (Path.place c.config.installedBundles ++ b.dirName :: inner) = none := by
  have name := plain.dirs id b found
  have spelled := name.place_join placed c.config.installedBundles
  -- the own version goes first, and its directory is not on the way
  have cleared {files : FileSystem} {dirs : List String} (doomed : c.doomedDirs b = dirs ++
      [Path.join c.config.installedBundles b.dirName]) (own : ∀ dir ∈ dirs, dir = c.ownDir b.dirName)
      (touched : c.files.TouchesOnly (.at (Path.place (c.ownDir b.dirName) <+: ·)) files) :
      (removeDirectories files (c.doomedDirs b)).node? (Path.place c.config.installedBundles ++ b.dirName :: inner) = none := by
    have first := touched.trans (touchesOnly_removeDirectories fun dir member => by
      rw [own dir member]
      exact ⟨fun _ below => below, _, List.prefix_refl _, rfl⟩)
    rw [doomed]
    refine node?_removeDirectories_concat (first.isDirectory (fun here passed fate granted => ?_) there) ?_
    · have inside : ¬Path.place (c.ownDir b.dirName) <+: here := fun below =>
        apart.not_own_of_passes name passed ((name.prefix_join _).trans below)
      cases fate with
      | dated => rfl
      | gone => exact absurd granted inside
      | file => exact absurd granted inside
      | directory => exact absurd granted inside
    · rw [spelled, List.append_cons _ b.dirName inner]
      exact List.prefix_append _ _
  have doomed : ∃ dirs, c.doomedDirs b = dirs ++ [Path.join c.config.installedBundles b.dirName] ∧
      ∀ dir ∈ dirs, dir = c.ownDir b.dirName := by
    rw [doomedDirs, if_neg (mt String.isEmpty_iff.1 placed), installed, there]
    refine ⟨_, rfl, fun dir member => ?_⟩
    split at member
    · exact List.mem_singleton.1 member
    · cases member
  obtain ⟨dirs, doomed, own⟩ := doomed
  have known {b' released : Bundle} {docs : DocumentTable} (dropping : c.Dropping id b' released docs) : b' = b :=
    Option.some.inj (dropping.found.symm.trans found)
  generalize same : (Except.ok done : Except Fault Bool) = result at deleted
  cases deletesBundle_of_deleteBundle? deleted with
  | hides dropping =>
    obtain rfl := known dropping
    exact cleared doomed own (.refl _ _)
  | unplaced dropping _ none_ =>
    obtain rfl := known dropping
    exact absurd (dropping.dirName_eq.symm.trans none_) placed
  | stuck => cases same
  | deleted dropping _ _ removed =>
    obtain rfl := known dropping
    rw [dropping.dirName_eq] at removed
    have start : Within (fun _ _ => True) c.config c.files c := ⟨rfl, regular, plain, .refl _ c.files⟩
    have kept := (start.uninstalled dropping).plain.docs
    exact cleared doomed own (EntryTable.touchesOnly_delete regular kept (fun _ below => below) removed).2

/-! ## A bundle that was installed -/

/-- The configuration of an editor with its own directory and one for the data. -/
def homeConfig : Config := { bundledDir := "app", dataDir := "data", rebuild := true }

/-- A file system with these directories, and that of a bundle that was installed. -/
def homeFiles : FileSystem := { nodes := [([], .directory 0o755 0), (["app"], .directory 0o755 0),
  (["data"], .directory 0o755 0), (["data", "InstalledBundles"], .directory 0o755 0),
  (["data", "InstalledBundles", "A.tmbundle"], .directory 0o755 0),
  (["data", "InstalledBundles", "A.tmbundle", "info.plist"], .file appText 0o644 1000000000)] }

theorem isFileName_data : IsFileName "data" := ⟨by decide, by decide, by decide, by decide, by decide⟩

theorem place_fileName {name : String} (h : IsFileName name) : Path.place name = [name] := by
  rw [Path.place, h.parts]
  exact if_neg h.down.2

theorem apart_home : homeConfig.Apart := by
  have parts : Path.parts homeConfig.dataDir = ["data"] := isFileName_data.parts
  refine (Config.apart_iff (by rw [parts]; decide)).2 ?_
  rw [show Path.place homeConfig.dataDir = ["data"] from place_fileName isFileName_data,
    show Path.place homeConfig.bundledDir = ["app"] from place_fileName isFileName_app]
  decide

theorem isFileName_bundle : IsFileName "A.tmbundle" := ⟨by decide, by decide, by decide, by decide, by decide⟩

theorem regular_homeFiles : homeFiles.Regular where
  single := by decide
  named := by
    simp [homeFiles, Entries.keys, isFileName_app, isFileName_data, isFileName_installedBundles, isFileName_bundle,
      show IsFileName "info.plist" from isFileName_manifestName]

theorem locate_home : homeFiles.locate homeConfig.installedBundles = .ok (["data", "InstalledBundles"], .directory 0o755 0) :=
  locate_join (locate_name isFileName_data rfl rfl rfl rfl) rfl isFileName_installedBundles rfl

theorem locate_homeBundle : homeFiles.locate (Path.join homeConfig.installedBundles "A.tmbundle") =
    .ok (["data", "InstalledBundles", "A.tmbundle"], .directory 0o755 0) :=
  locate_join locate_home rfl isFileName_bundle rfl

theorem locate_homeManifest : homeFiles.locate (Path.join (Path.join homeConfig.installedBundles "A.tmbundle") manifestName) =
    .ok (["data", "InstalledBundles", "A.tmbundle", "info.plist"], .file appText 0o644 1000000000) :=
  locate_join locate_homeBundle rfl isFileName_manifestName rfl

theorem load_home : ∃ d, Document.load homeFiles
    (Path.join (Path.join homeConfig.installedBundles "A.tmbundle") manifestName) = .ok d := by
  obtain ⟨d, parsed, -⟩ := exists_parse_appText
  exact ⟨_, Document.load_of_locate locate_homeManifest parsed (isFileName_manifestName.fileName?_join _)⟩

/-- What is recorded of the bundle. -/
def homeBundle (d : Document) : Bundle :=
  { entry := (Entry.new { installed := true } 0).identify d, dirName := "A.tmbundle" }

/-- Tables with the bundle and nothing else. -/
def homeTables (d : Document) : Database := { bundles := ⟨[homeBundle d]⟩, docs := { documents := #[d] } }

/-- A scan finds the bundle that was installed. -/
theorem updateBundles_home (files : c.files = homeFiles) (empty : c.db = {}) :
    ∃ d, c.updateBundles homeConfig.installedBundles { installed := true } .languages = c.withDb (homeTables d) := by
  obtain ⟨config, db, fs, identities, dirty, lastFlush, pending, complete⟩ := c
  obtain rfl : fs = homeFiles := files
  obtain rfl : db = {} := empty
  obtain ⟨d, loaded⟩ := load_home
  have root : homeFiles.isDirectory homeConfig.installedBundles = true :=
    FileSystem.isDirectory_iff.2 ⟨_, _, _, locate_home⟩
  have listed : listDir homeFiles homeConfig.installedBundles true (fun name => hasExtension name ".tmbundle") =
      ["A.tmbundle"] := by
    have kept : hasExtension "A.tmbundle" ".tmbundle" = true := by decide +kernel
    rw [listDir, FileSystem.children_eq locate_home rfl,
      show homeFiles.childrenAt ["data", "InstalledBundles"] = [("A.tmbundle", .directory 0o755 0)] from rfl]
    simp [FileNode.isDirectory, kept]
  have isFile : homeFiles.isFile (Path.join (Path.join homeConfig.installedBundles "A.tmbundle") manifestName) = true := by
    rw [FileSystem.isFile, locate_homeManifest]
    rfl
  have read : DocumentTable.load {} homeFiles
      (Path.join (Path.join homeConfig.installedBundles "A.tmbundle") manifestName) = .ok ({ documents := #[d] }, 0) := by
    rw [DocumentTable.load, loaded]
    rfl
  have items : homeFiles.isDirectory (Path.join (Path.join homeConfig.installedBundles "A.tmbundle")
      ItemKind.language.dirName) = false :=
    not_isDirectory_join locate_homeBundle rfl ItemKind.language.isFileName_dirName rfl
  have synced (docs : DocumentTable) : EntryTable.sync ({} : EntryTable Entry) docs homeFiles
      (Path.join (Path.join homeConfig.installedBundles "A.tmbundle") ItemKind.language.dirName) { installed := true }
      ItemKind.language.extension = ({}, docs) := by
    rw [EntryTable.sync, if_neg (Bool.eq_false_iff.1 items)]
    rfl
  refine ⟨d, ?_⟩
  rw [updateBundles, if_pos root, listed]
  change addBundles _ _ _ _ ["A.tmbundle"] = _
  have made : newManifest? { config, db := {}, files := homeFiles, identities, dirty, lastFlush, pending, complete }
      (Path.join homeConfig.installedBundles "A.tmbundle") "A.tmbundle" { installed := true } none =
      some ({ config, files := homeFiles, identities, dirty, lastFlush, pending, complete,
              db := { docs := { documents := #[d] } } }, 0) := by
    rw [newManifest?, if_pos isFile, read]
    rfl
  rw [addBundles, show findDir? _ "A.tmbundle" = none from rfl]
  dsimp only
  rw [made, if_neg (by decide)]
  dsimp only
  rw [addBundles]
  change syncItems { config, files := homeFiles, identities, dirty, lastFlush, pending, complete, db := homeTables d }
    (Path.join homeConfig.installedBundles "A.tmbundle") { installed := true } 0 [.language] = _
  rw [syncItems, show (homeTables d).bundles.row? 0 = some (homeBundle d) from rfl]
  dsimp only
  rw [show (homeBundle d).items.get .language = {} from rfl, synced, syncItems]
  rfl

theorem dropVanished_home (d : Document) (docs : DocumentTable) {loc : Locality}
    (apart : ({ installed := true } : Locality).meets loc = false) :
    (⟨[homeBundle d]⟩ : EntryTable Bundle).dropVanished loc docs = (⟨[homeBundle d]⟩, docs) := by
  have size : (⟨[homeBundle d]⟩ : EntryTable Bundle).size = 1 := rfl
  rw [EntryTable.dropVanished, size, List.range_one, EntryTable.dropWhere,
    show (⟨[homeBundle d]⟩ : EntryTable Bundle).entryAt? 0 = some (homeBundle d).entry from rfl, Option.any_some,
    show (homeBundle d).entry.locality = { installed := true } from rfl, apart]
  rfl

/-- The bundle stays when a scan looks for others. -/
theorem updateBundles_homeTables {d : Document} (tables : c.db = homeTables d) {root : String} {loc : Locality}
    (apart : ({ installed := true } : Locality).meets loc = false) (missing : c.files.isDirectory root = false)
    (mode : ScanMode) : c.updateBundles root loc mode = c := by
  obtain ⟨config, db, fs, identities, dirty, lastFlush, pending, complete⟩ := c
  obtain rfl : db = homeTables d := tables
  rw [updateBundles, if_neg (Bool.eq_false_iff.1 missing), show (homeTables d).bundles = ⟨[homeBundle d]⟩ from rfl,
    dropVanished_home d _ apart]
  rfl

theorem exists_update_home (config : c.config = homeConfig) (files : c.files = homeFiles) (empty : c.db = {}) :
    ∃ d, c.update .languages = (c.withDb (homeTables d)).markDirty := by
  have app {name : String} (h : IsFileName name) (missing : homeFiles.node? ["app", name] = none) :
      homeFiles.isDirectory (Path.join "app" name) = false :=
    not_isDirectory_join (locate_name isFileName_app rfl rfl rfl rfl) rfl h missing
  have data {name : String} (h : IsFileName name) (missing : homeFiles.node? ["data", name] = none) :
      homeFiles.isDirectory (Path.join "data" name) = false :=
    not_isDirectory_join (locate_name isFileName_data rfl rfl rfl rfl) rfl h missing
  have themes {dir : String} (loc : Locality) (missing : homeFiles.isDirectory dir = false) : c.updateThemes dir loc = c := by
    refine updateThemes_same ?_
    rw [files, EntryTable.sync, if_neg (Bool.eq_false_iff.1 missing), empty]
    rfl
  obtain ⟨d, found⟩ := updateBundles_home files empty
  have pristine : (c.withDb (homeTables d)).updateBundles homeConfig.pristineBundles { pristine := true } .languages =
      c.withDb (homeTables d) :=
    updateBundles_homeTables rfl rfl (files ▸ app isFileName_bundles rfl) .languages
  have own : (c.withDb (homeTables d)).updateBundles homeConfig.ownBundles { own := true } .languages =
      c.withDb (homeTables d) :=
    updateBundles_homeTables rfl rfl (files ▸ data isFileName_bundles rfl) .languages
  have themed : (if ScanMode.languages = .rest then c else
      (c.updateThemes c.config.pristineThemes { pristine := true }).updateThemes c.config.ownThemes { own := true }) = c := by
    have first : c.updateThemes homeConfig.pristineThemes { pristine := true } = c := themes _ (app isFileName_themes rfl)
    have second : c.updateThemes homeConfig.ownThemes { own := true } = c := themes _ (data isFileName_themes rfl)
    rw [if_neg (by decide), config, first, second]
  have kept : (c.withDb (homeTables d)).config = homeConfig := config
  refine ⟨d, ?_⟩
  rw [update, themed, config, found, kept, pristine, kept, own]
  rfl

/-! ## Shipped files are read-only -/

/-- In every catalog that is reached, an operation changes nothing of what came with the editor, and of what was installed
only deleting a bundle removes its directory, with all that is in it. A scan does nothing but write manifests that bundles of
the user's own do not have. Opening a catalog with no tables, or with those of the one that was reached, spares everything. -/
theorem spares_of_grounded (reached : Grounded c) (apart : c.config.Apart) :
    (∀ (op : Operation) (c' : Catalog), op.Outward c → op.run? c = some c' → c.config.Spares (op.Removes c) c.files c'.files) ∧
      (∀ id b c' done, c.db.bundles.row? id = some b → b.entry.locality.installed = true → b.dirName ≠ "" →
        c.files.isDirectory (Path.join c.config.installedBundles b.dirName) = true →
        c.deleteBundle? id = some (c', .ok done) →
        ∀ inner, c'.files.node? (Path.place c.config.installedBundles ++ b.dirName :: inner) = none) ∧
      (∀ mode, c.files.TouchesOnly (.completing c.files (Path.place c.config.ownBundles)) (c.update mode).files) ∧
      ∀ (config : Config) (files files' : FileSystem) (identities : Identities) (result : Except Fault Catalog),
        config.Apart → files.Regular → openingTables config files = {} ∨ openingTables config files = c.db →
        openAt config files identities = (files', result) → config.Spares (fun _ => False) files files' := by
  obtain ⟨regular, plain⟩ := reached.regular_plain
  refine ⟨fun op c' outward runs => ?_, fun id b c' done found installed placed there deleted inner => ?_, fun mode => ?_,
    fun config files files' identities result apart regular tables opens => ?_⟩
  · have internal : ∀ files, op ≠ .changeFiles files := by
      rintro files rfl
      exact outward
    exact Operation.spares apart outward (Operation.within regular plain internal runs).touched
  · exact apart.none_of_deleteBundle? regular plain found installed placed there deleted inner
  · have start : Scanning c.config c.files c := ⟨rfl, regular, plain, .refl _ _⟩
    exact (start.update mode).touched
  · have plain : (openingTables config files).Plain := by
      rcases tables with empty | same
      · exact empty ▸ Database.plain_empty
      · exact same ▸ plain
    exact apart.spares_own (touchesOnly_openAt regular plain opens)

/-- A bundle that was installed is found when a catalog is opened. When it is deleted its directory goes, and that of the
editor stays. -/
theorem spares_of_grounded_home : ∃ c c' : Catalog, Grounded c ∧ c.config.Apart ∧ c.deleteBundle? 0 = some (c', .ok true) ∧
    c.files.node? ["app"] = some (.directory 0o755 0) ∧ c'.files.node? ["app"] = some (.directory 0o755 0) ∧
    c.files.node? ["data", "InstalledBundles", "A.tmbundle"] = some (.directory 0o755 0) ∧
    c'.files.node? ["data", "InstalledBundles", "A.tmbundle"] = none := by
  have made : homeFiles.createDirectories homeConfig.dataDir = (homeFiles, .ok ()) :=
    FileSystem.createDirectories_of_locate (locate_name isFileName_data rfl rfl rfl rfl) rfl
  have missing : homeFiles.pathExists homeConfig.snapshotPath = false := by
    have resolved : homeFiles.resolve homeConfig.snapshotPath = .ok ["data", "catalog.json"] :=
      FileSystem.resolve_join (locate_name isFileName_data rfl rfl rfl rfl) rfl isFileName_catalog
    rw [FileSystem.pathExists, FileSystem.locate, resolved]
    rfl
  have fresh : Database.load homeFiles homeConfig.snapshotPath homeConfig.rebuild = ({}, homeFiles) := by
    rw [Database.load, missing]
    rfl
  have empty : openingTables homeConfig homeFiles = {} := by rw [openingTables, made, fresh]
  obtain ⟨start, config, none_, found, pending, opens⟩ := openAt_eq made { nth := fun _ => "A" }
  rw [fresh] at found
  rw [empty] at none_
  have reached : Grounded start.resume.1 := .opened regular_homeFiles empty opens
  obtain ⟨d, scanned⟩ := exists_update_home (c := { start with pending := none }) config found none_
  have resumed : start.resume.1 =
      { (({ start with pending := none } : Catalog).withDb (homeTables d)).markDirty with pending := some .rest } := by
    rw [resume, pending, ← scanned]
  generalize start.resume.1 = c at reached resumed
  have config : c.config = homeConfig := resumed ▸ config
  have files : c.files = homeFiles := resumed ▸ found
  have tables : c.db = homeTables d := resumed ▸ rfl
  have apart : c.config.Apart := config ▸ apart_home
  obtain ⟨runs, removes, -⟩ := spares_of_grounded reached apart
  obtain ⟨c', deleted⟩ : ∃ c', c.deleteBundle? 0 = some (c', .ok true) := by
    obtain ⟨config, db, fs, identities, dirty, lastFlush, pending, complete⟩ := c
    obtain rfl : db = homeTables d := tables
    exact ⟨_, rfl⟩
  have spared := runs (.deleteBundle 0) c' trivial (by rw [Operation.run?, deleted]; rfl)
  have there : c.files.isDirectory (Path.join c.config.installedBundles "A.tmbundle") = true := by
    rw [files, config]
    exact FileSystem.isDirectory_iff.2 ⟨_, _, _, locate_homeBundle⟩
  have gone := removes 0 (homeBundle d) c' true (tables ▸ rfl) rfl (show "A.tmbundle" ≠ "" by decide) there deleted []
  have app : Path.place c.config.bundledDir = ["app"] := config ▸ place_fileName isFileName_app
  have data : Path.place c.config.dataDir = ["data"] := config ▸ place_fileName isFileName_data
  rw [Config.place_installedBundles, data] at gone
  have kept := spared.bundled ["app"] (app ▸ List.prefix_refl _)
  rw [files] at kept
  exact ⟨c, c', reached, apart, deleted, files ▸ rfl, kept, files ▸ rfl, gone⟩

end EditorBundles.Catalog
