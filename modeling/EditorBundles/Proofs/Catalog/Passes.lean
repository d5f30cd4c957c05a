import EditorBundles.Proofs.Catalog.OwnVersions
import EditorBundles.Proofs.Catalog.ScanAlike

/-!
# Passes over the directories of bundles

A pass brings the bundles with a version at one locality in line with their directories below a root, one after
the other, and adds the bundles in the other directories. One bundle is followed here: steps that are about other
bundles leave it, and the step that is about it brings it in line with its directory or takes its version away.
-/

namespace EditorBundles.Catalog
set_option autoImplicit false
open PropertyList

variable {fs : FileSystem} {root bundleDir dirName : String} {loc : Locality} {mode : ScanMode} {id other : Nat}
  {b : BundleView} {v v' : CatalogView} {dirs dirs' : List String} {files : FileSystem} {identities : Identities}
  {reading : Reading}

theorem ScanAlike.syncItems_eq {fs' : FileSystem} (alike : ScanAlike fs fs') (bundleDir : String) (loc : Locality)
    (kinds : List ItemKind) (b : BundleView) : b.syncItems fs' bundleDir loc kinds = b.syncItems fs bundleDir loc kinds := by
  unfold BundleView.syncItems
  congr 2
  funext kind table
  rw [alike.items]

/-! ## Rows that are dropped in turn -/

namespace TableView

section
variable {ν : Type} [RowView ν] {t : TableView ν} {row : ν} {p : EntryView → Bool} {ids : List Nat}

theorem dropWhere_append (p : EntryView → Bool) (loc : Locality) (t : TableView ν) (front back : List Nat) :
    dropWhere p loc t (front ++ back) = dropWhere p loc (dropWhere p loc t front) back := by
  induction front generalizing t with
  | nil => rfl
  | cons id front ih =>
    rw [List.cons_append, dropWhere, dropWhere]
    split <;> exact ih _

theorem row?_dropWhere_of_notMem (absent : id ∉ ids) (there : t.row? id = some row)
    (here : (RowView.entry row).locality.deleted = false) : (dropWhere p loc t ids).row? id = some row := by
  induction ids generalizing t with
  | nil => exact there
  | cons other ids ih =>
    have rest := List.not_mem_of_not_mem_cons absent
    rw [dropWhere]
    split
    · exact ih rest (row?_drop_of_ne (List.ne_of_not_mem_cons absent).symm there here loc)
    · exact ih rest there

/-- A row that keeps a version without those that are dropped is there after rows have been dropped. -/
theorem row?_dropWhere [LawfulRowView ν] (there : t.row? id = some row) (here : (RowView.entry row).locality.deleted = false)
    (single : ids.Nodup)
    (left : p (RowView.entry row) = true → ((RowView.entry row).dropVersions loc).1.locality.hasSource = true) :
    ∃ row', (dropWhere p loc t ids).row? id = some row' ∧
      (row' = row ∨ p (RowView.entry row) = true ∧ row' = dropRow row loc) := by
  by_cases member : id ∈ ids
  · obtain ⟨front, back, rfl⟩ := List.append_of_mem member
    obtain ⟨-, after, apart⟩ := List.nodup_append.1 single
    have before : (dropWhere p loc t front).row? id = some row :=
      row?_dropWhere_of_notMem (fun inside => apart id inside id List.mem_cons_self rfl) there here
    have after := (List.nodup_cons.1 after).1
    rw [dropWhere_append, dropWhere, entryAt?, before, Option.map_some, Option.any_some]
    split
    · next chosen =>
      refine ⟨_, row?_dropWhere_of_notMem after (row?_drop_self before (left chosen)) ?_, .inr ⟨chosen, rfl⟩⟩
      rw [dropRow, LawfulRowView.entry_release, LawfulRowView.entry_withEntry]
      exact EntryView.deleted_dropVersions here loc
    · exact ⟨row, row?_dropWhere_of_notMem after before here, .inl rfl⟩
  · exact ⟨row, row?_dropWhere_of_notMem member there here, .inl rfl⟩

end

end TableView

/-! ## Names of bundles -/

namespace TableView

variable {t : TableView BundleView}

/-- The bundle in a row has a directory of that name. -/
def Names (t : TableView BundleView) (id : Nat) (dirName : String) : Prop :=
  dirName ≠ "" ∧ ∃ b, t.row? id = some b ∧ b.dirName = dirName

/-- No other bundle has a directory of that name. -/
def Alone (t : TableView BundleView) (id : Nat) (dirName : String) : Prop := ∀ other, t.Names other dirName → other = id

theorem Names.of_modifyRow {change : BundleView → BundleView} (h : (t.modifyRow id change).Names other dirName)
    (same : ∀ b, (change b).dirName = b.dirName) : t.Names other dirName := by
  obtain ⟨present, b', found, named⟩ := h
  rw [row?_modifyRow] at found
  split at found
  · obtain ⟨b, found', rfl⟩ := Option.map_eq_some_iff.1 found
    exact ⟨present, b, found', (same b).symm.trans named⟩
  · exact ⟨present, b', found, named⟩

theorem Names.of_drop (h : (t.drop id loc).Names other dirName) : t.Names other dirName := by
  obtain ⟨present, b', found, named⟩ := h
  obtain ⟨-, found⟩ | ⟨rfl, b, before, rfl | rfl⟩ := row?_of_row?_drop found
  · exact ⟨present, b', found, named⟩
  · exact ⟨present, b, before, named⟩
  · exact absurd named.symm present

theorem Names.of_dropWhere {p : EntryView → Bool} {ids : List Nat} (h : (dropWhere p loc t ids).Names other dirName) :
    t.Names other dirName := by
  induction ids generalizing t with
  | nil => exact h
  | cons id ids ih =>
    rw [dropWhere] at h
    split at h
    · exact (ih h).of_drop
    · exact ih h

end TableView

/-! ## Bundles that are brought in line -/

namespace BundleView

variable {b' : BundleView}

/-- The bundle has got another manifest or none, and the items of some kinds are in line with its directory. -/
def Scanned (fs : FileSystem) (bundleDir : String) (loc : Locality) (b b' : BundleView) : Prop :=
  ∃ e kinds, (e = b.entry ∨ ∃ d, e = b.entry.register d loc) ∧
    b' = ({ b with entry := e } : BundleView).syncItems fs bundleDir loc kinds

/-- What a pass makes of a bundle: it is brought in line with its directory, or has lost a factory version and has
another one. -/
inductive Outcome (fs : FileSystem) (root : String) (loc : Locality) (b : BundleView) : BundleView → Prop where
  | scanned {b' : BundleView} (listed : b.dirName ∈ CatalogView.bundleDirs fs root)
    (h : Scanned fs (Path.join root b.dirName) loc b b') : Outcome fs root loc b b'
  | dropped (factory : loc.own = false) (left : (b.entry.dropVersions loc).1.locality.hasSource = true) :
    Outcome fs root loc b (TableView.dropRow b loc)

theorem Outcome.dirName_eq (h : b.Outcome fs root loc b') : b'.dirName = b.dirName := by
  cases h with
  | scanned listed scanned =>
    obtain ⟨e, kinds, -, rfl⟩ := scanned
    rfl
  | dropped factory left => rfl

theorem Outcome.here (h : b.Outcome fs root loc b') (source : loc.IsSource) (here : b.entry.locality.deleted = false) :
    b'.entry.locality.deleted = false := by
  cases h with
  | scanned listed scanned =>
    obtain ⟨e, kinds, rfl | ⟨d, rfl⟩, rfl⟩ := scanned
    · exact here
    · exact EntryView.deleted_register here source d
  | dropped factory left => exact EntryView.deleted_dropVersions here loc

end BundleView

namespace CatalogView

/-- What is known in a pass: it goes on in a file system that is scanned as the one in which it began, and the
directories that are left are below its root. -/
structure Underway (fs : FileSystem) (root : String) (loc : Locality) (v : CatalogView) (dirs : List String) : Prop where
  regular : v.files.Regular
  alike : ScanAlike fs v.files
  factory : loc.own = false → v.files = fs
  listed : dirs ⊆ bundleDirs fs root
  single : dirs.Nodup

/-- A step has left a bundle as it is, and the bundle still waits for its own. -/
structure Frame (fs : FileSystem) (root : String) (loc : Locality) (id : Nat) (b : BundleView) (v : CatalogView)
    (dirs : List String) (v' : CatalogView) (dirs' : List String) : Prop where
  under : Underway fs root loc v' dirs'
  names : ∀ other, v'.bundles.Names other b.dirName → v.bundles.Names other b.dirName
  row : v'.bundles.row? id = some b
  subset : dirs' ⊆ dirs
  waiting : v.bundles.Alone id b.dirName → b.dirName ∈ dirs → HasManifest loc v.files (Path.join root b.dirName) →
    b.dirName ∈ dirs' ∧ HasManifest loc v'.files (Path.join root b.dirName)

theorem Frame.refl (under : Underway fs root loc v dirs) (there : v.bundles.row? id = some b) :
    Frame fs root loc id b v dirs v dirs :=
  ⟨under, fun _ named => named, there, List.Subset.refl dirs, fun _ listed manifest => ⟨listed, manifest⟩⟩

theorem Frame.trans {v₁ v₂ v₃ : CatalogView} {dirs₁ dirs₂ dirs₃ : List String}
    (first : Frame fs root loc id b v₁ dirs₁ v₂ dirs₂) (second : Frame fs root loc id b v₂ dirs₂ v₃ dirs₃) :
    Frame fs root loc id b v₁ dirs₁ v₃ dirs₃ where
  under := second.under
  names other named := first.names other (second.names other named)
  row := second.row
  subset := List.Subset.trans second.subset first.subset
  waiting alone listed manifest := by
    obtain ⟨listed, manifest⟩ := first.waiting alone listed manifest
    exact second.waiting (fun other named => alone other (first.names other named)) listed manifest

/-- Why a pass leaves a bundle that has its version: the directory is there with a manifest that can be read, or no
file holds the version yet, or the bundle has another version to stand on. -/
inductive Held (root : String) (loc : Locality) (id : Nat) (b : BundleView) (v : CatalogView) (dirs : List String) : Prop where
  | listed (member : b.dirName ∈ dirs) (manifest : HasManifest loc v.files (Path.join root b.dirName))
    (alone : v.bundles.Alone id b.dirName)
  | unsaved (own : loc = { own := true }) (unsaved : b.entry.hasUnsavedOwn = true) (missing : b.dirName ∉ dirs)
  | backed (factory : loc.own = false) (left : (b.entry.dropVersions loc).1.locality.hasSource = true)

theorem Held.frame (h : Held root loc id b v dirs) (step : Frame fs root loc id b v dirs v' dirs') :
    Held root loc id b v' dirs' := by
  cases h with
  | listed member manifest alone =>
    obtain ⟨member, manifest⟩ := step.waiting alone member manifest
    exact .listed member manifest fun other named => alone other (step.names other named)
  | unsaved own unsaved missing => exact .unsaved own unsaved fun member => missing (step.subset member)
  | backed factory left => exact .backed factory left

/-- What a pass leaves: the bundle is as it was, or what became of it is settled. -/
structure Passed (fs : FileSystem) (root : String) (loc : Locality) (id : Nat) (b : BundleView) (v : CatalogView)
    (v' : CatalogView) (dirs' : List String) : Prop where
  under : Underway fs root loc v' dirs'
  names : ∀ other, v'.bundles.Names other b.dirName → v.bundles.Names other b.dirName
  row : ∃ b', v'.bundles.row? id = some b' ∧
    (b' = b ∨ b.dirName ∉ dirs' ∧ b.Outcome fs root loc b')

theorem Frame.passed {v₁ v₂ : CatalogView} {dirs₁ dirs₂ : List String} (frame : Frame fs root loc id b v dirs v₁ dirs₁)
    (passed : Passed fs root loc id b v₁ v₂ dirs₂) : Passed fs root loc id b v v₂ dirs₂ :=
  ⟨passed.under, fun other named => frame.names other (passed.names other named), passed.row⟩

theorem Passed.frame {v₁ v₂ : CatalogView} {dirs₁ dirs₂ : List String} (passed : Passed fs root loc id b v v₁ dirs₁)
    (source : loc.IsSource) (here : b.entry.locality.deleted = false)
    (frame : ∀ b', v₁.bundles.row? id = some b' → b'.dirName = b.dirName → b'.entry.locality.deleted = false →
      Frame fs root loc id b' v₁ dirs₁ v₂ dirs₂) : Passed fs root loc id b v v₂ dirs₂ := by
  obtain ⟨b', there, rfl | ⟨missing, outcome⟩⟩ := passed.row
  · have next := frame b' there rfl here
    exact ⟨next.under, fun other named => passed.names other (next.names other named), b',
      next.row, .inl rfl⟩
  · have same := outcome.dirName_eq
    have next := frame b' there same (outcome.here source here)
    exact ⟨next.under, fun other named => passed.names other (same ▸ next.names other (same.symm ▸ named)), b', next.row,
      .inr ⟨fun member => missing (next.subset member), outcome⟩⟩

theorem ne_of_mem_bundleDirs (listed : dirName ∈ bundleDirs fs root) : dirName ≠ "" := by
  rintro rfl
  exact absurd (FileSystem.mem_listDir.1 listed).1 (by decide)

/-- Only bundles, files and identities are changed. -/
def ChangesBundles (v v' : CatalogView) : Prop := ∃ bundles files identities, v' = { v with bundles, files, identities }

theorem ChangesBundles.refl (v : CatalogView) : ChangesBundles v v := ⟨v.bundles, v.files, v.identities, rfl⟩

theorem ChangesBundles.trans {v₁ v₂ v₃ : CatalogView} (first : ChangesBundles v₁ v₂) (second : ChangesBundles v₂ v₃) :
    ChangesBundles v₁ v₃ := by
  obtain ⟨bundles₂, files₂, identities₂, rfl⟩ := first
  obtain ⟨bundles, files, identities, rfl⟩ := second
  exact ⟨bundles, files, identities, rfl⟩

theorem ChangesBundles.config (h : ChangesBundles v v') : v'.config = v.config := by
  obtain ⟨bundles, files, identities, rfl⟩ := h
  rfl

theorem ChangesBundles.themes (h : ChangesBundles v v') : v'.themes = v.themes := by
  obtain ⟨bundles, files, identities, rfl⟩ := h
  rfl

/-! ## Steps on bundles with a version -/

theorem takeIn_bundles (id : Nat) (loc : Locality) (reading : Reading) :
    v.takeIn id loc reading = { v with bundles := (v.takeIn id loc reading).bundles } := by
  cases reading <;> rfl

/-- What is made of one bundle and its directory. -/
theorem exists_updateInDir (v : CatalogView) (id : Nat) (bundleDir dirName : String) (loc : Locality) (mode : ScanMode) :
    ∃ files identities reading kinds,
      v.updateInDir id bundleDir dirName loc mode =
        (if reading.keeps then
          (({ v with files, identities } : CatalogView).takeIn id loc reading).syncItems bundleDir loc id kinds
        else ({ v with files, identities } : CatalogView).takeIn id loc reading) ∧
      (files = v.files ∨ loc.own = true ∧ files = (v.makeManifest bundleDir dirName (v.factoryManifest? id)).1.files) ∧
      (reading = .lost → ¬ HasManifest loc v.files bundleDir) := by
  by_cases rest : mode = .rest
  · refine ⟨v.files, v.identities, .kept, ItemKind.all.filter mode.covers, ?_, .inl rfl, fun lost => by cases lost⟩
    rw [updateInDir, if_pos rest]
    rfl
  · obtain ⟨files, identities, reading, eq, wrote, lost⟩ := v.exists_reading id bundleDir dirName loc
    refine ⟨files, identities, reading, ItemKind.all.filter mode.covers, ?_, wrote, lost⟩
    rw [updateInDir, if_neg rest, eq v.bundles rfl]

/-- What is done with one bundle that may have a version at the locality of a pass. -/
def updateOne (v : CatalogView) (root : String) (loc : Locality) (mode : ScanMode) (dirs : List String) (id : Nat) :
    CatalogView × List String :=
  match (v.bundles.row? id).filter fun b => b.entry.locality.contains loc with
  | none => (v, dirs)
  | some b =>
    if dirs.contains b.dirName then
      if b.entry.locality.isHidden || loc = { pristine := true } && b.entry.locality.installed then
        (v, dirs.erase b.dirName)
      else (v.updateInDir id (Path.join root b.dirName) b.dirName loc mode, dirs.erase b.dirName)
    else if loc = { own := true } && b.entry.hasUnsavedOwn then (v, dirs)
    else (v.dropBundle id loc, dirs)

theorem changesBundles_updateOne (v : CatalogView) (root : String) (loc : Locality) (mode : ScanMode) (dirs : List String)
    (id : Nat) : ChangesBundles v (v.updateOne root loc mode dirs id).1 := by
  rw [updateOne]
  split
  · exact .refl v
  · next b found =>
    split
    · split
      · exact .refl v
      · obtain ⟨files, identities, reading, kinds, eq, -⟩ :=
          exists_updateInDir v id (Path.join root b.dirName) b.dirName loc mode
        dsimp only
        rw [eq, takeIn_bundles]
        split <;> exact ⟨_, _, _, rfl⟩
    · split
      · exact .refl v
      · exact ⟨_, _, _, rfl⟩

theorem updateKnown_cons (v : CatalogView) (root : String) (loc : Locality) (mode : ScanMode) (dirs : List String)
    (id : Nat) (ids : List Nat) : v.updateKnown root loc mode dirs (id :: ids) =
      (v.updateOne root loc mode dirs id).1.updateKnown root loc mode (v.updateOne root loc mode dirs id).2 ids := by
  rw [updateKnown, updateOne]
  cases (v.bundles.row? id).filter fun b => b.entry.locality.contains loc with
  | none => rfl
  | some b =>
    dsimp only
    cases dirs.contains b.dirName
    · cases decide (loc = { own := true }) && b.entry.hasUnsavedOwn <;> rfl
    · cases b.entry.locality.isHidden || decide (loc = { pristine := true }) && b.entry.locality.installed <;> rfl

theorem changesBundles_updateKnown (v : CatalogView) (root : String) (loc : Locality) (mode : ScanMode) (dirs : List String)
    (ids : List Nat) : ChangesBundles v (v.updateKnown root loc mode dirs ids).1 := by
  induction ids generalizing v dirs with
  | nil => exact .refl v
  | cons id ids ih =>
    rw [updateKnown_cons]
    exact (v.changesBundles_updateOne root loc mode dirs id).trans (ih _ _)

theorem Underway.subset (h : Underway fs root loc v dirs) (fewer : dirs'.Sublist dirs) : Underway fs root loc v dirs' :=
  ⟨h.regular, h.alike, h.factory, List.Subset.trans fewer.subset h.listed, h.single.sublist fewer⟩

/-- A step writes at most one manifest, to the directory that it is about. -/
theorem Underway.write (h : Underway fs root loc v dirs) (listed : dirName ∈ bundleDirs fs root) {factory : Option Document}
    (wrote : files = v.files ∨ loc.own = true ∧ files = (v.makeManifest (Path.join root dirName) dirName factory).1.files)
    (fewer : dirs'.Sublist dirs) (same : v'.files = files) :
    Underway fs root loc v' dirs' ∧ ∀ other ∈ bundleDirs fs root, other ≠ dirName →
      HasManifest loc v.files (Path.join root other) → HasManifest loc v'.files (Path.join root other) := by
  subst same
  rcases wrote with same | ⟨own, same⟩
  · rw [same]
    exact ⟨⟨same ▸ h.regular, same ▸ h.alike, fun factory => same.trans (h.factory factory),
      List.Subset.trans fewer.subset h.listed, h.single.sublist fewer⟩, fun _ _ _ manifest => manifest⟩
  · have wrote := v.makeManifest_wrote h.regular (h.alike.bundles root ▸ listed) factory
    rw [← same] at wrote
    refine ⟨⟨wrote.regular, h.alike.trans wrote.alike, fun factory => ?_, List.Subset.trans fewer.subset h.listed,
      h.single.sublist fewer⟩, fun other member different manifest => ⟨fun factory => ?_, ?_⟩⟩
    · rw [own] at factory
      cases factory
    · rw [own] at factory
      cases factory
    · exact wrote.readable other (h.alike.bundles root ▸ member) different manifest.readable

theorem updateInDir_eq_files (v : CatalogView) (id : Nat) (root dirName : String) (loc : Locality) (mode : ScanMode) :
    ∃ factory, (v.updateInDir id (Path.join root dirName) dirName loc mode).files = v.files ∨ loc.own = true ∧
      (v.updateInDir id (Path.join root dirName) dirName loc mode).files =
        (v.makeManifest (Path.join root dirName) dirName factory).1.files := by
  obtain ⟨files, identities, reading, kinds, eq, wrote, -⟩ := exists_updateInDir v id (Path.join root dirName) dirName loc mode
  refine ⟨v.factoryManifest? id, ?_⟩
  rw [eq, takeIn_bundles]
  split <;> exact wrote

/-- Taking in what was made of one manifest leaves the other bundles. -/
theorem row?_updateInDir_of_ne (different : other ≠ id) (there : v.bundles.row? id = some b)
    (here : b.entry.locality.deleted = false) (bundleDir dirName : String) (loc : Locality) (mode : ScanMode) :
    (v.updateInDir other bundleDir dirName loc mode).bundles.row? id = some b := by
  obtain ⟨files, identities, reading, kinds, eq, -, -⟩ := exists_updateInDir v other bundleDir dirName loc mode
  have taken : (({ v with files, identities } : CatalogView).takeIn other loc reading).bundles.row? id = some b := by
    cases reading with
    | kept => exact there
    | renewed manifest =>
      change (v.bundles.register other manifest loc).row? id = some b
      rw [TableView.row?_register, if_neg different, there]
    | lost => exact TableView.row?_drop_of_ne different there here loc
  rw [eq]
  split
  · change (TableView.modifyRow _ other _).row? id = some b
    rw [TableView.row?_modifyRow, if_neg different, taken]
  · exact taken

/-- Bringing one bundle in line names no other directory. -/
theorem names_updateInDir (bundleDir dirName : String) (loc : Locality) (mode : ScanMode) {n : String}
    (named : (v.updateInDir id bundleDir dirName loc mode).bundles.Names other n) : v.bundles.Names other n := by
  obtain ⟨files, identities, reading, kinds, eq, -, -⟩ := exists_updateInDir v id bundleDir dirName loc mode
  have taken (h : (({ v with files, identities } : CatalogView).takeIn id loc reading).bundles.Names other n) :
      v.bundles.Names other n := by
    cases reading with
    | kept => exact h
    | renewed manifest => exact TableView.Names.of_modifyRow h fun _ => rfl
    | lost => exact TableView.Names.of_drop h
  rw [eq] at named
  split at named
  · exact taken (TableView.Names.of_modifyRow named fun _ => rfl)
  · exact taken named

/-- What is done with a directory below the root of a pass that no bundle has. -/
def addOne (v : CatalogView) (root : String) (loc : Locality) (mode : ScanMode) (dirName : String) : CatalogView :=
  if (loc = { pristine := true } && (v.findDir? dirName).any fun id => (v.bundles.entryAt? id).any (·.locality.installed))
      || mode = .rest then v
  else match v.newManifest? (Path.join root dirName) dirName loc (v.findDir? dirName) with
    | none => v
    | some (v', manifest) =>
      let (added, id) := v'.addBundle dirName manifest loc (v.findDir? dirName)
      added.syncItems (Path.join root dirName) loc id (ItemKind.all.filter mode.covers)

theorem addBundles_cons (v : CatalogView) (root : String) (loc : Locality) (mode : ScanMode) (dirName : String)
    (dirs : List String) : v.addBundles root loc mode (dirName :: dirs) =
      (v.addOne root loc mode dirName).addBundles root loc mode dirs := by
  rw [addBundles, addOne]
  dsimp only
  split
  · rfl
  · cases v.newManifest? (Path.join root dirName) dirName loc (v.findDir? dirName) <;> rfl

/-- What is made of a new directory: nothing, or a bundle is added with the items in it. -/
theorem addOne_eq (v : CatalogView) (root : String) (loc : Locality) (mode : ScanMode) (dirName : String) :
    v.addOne root loc mode dirName = v ∨ ∃ files identities manifest,
      (files = v.files ∨ loc.own = true ∧
        files = (v.makeManifest (Path.join root dirName) dirName ((v.findDir? dirName).bind v.factoryManifest?)).1.files) ∧
      v.addOne root loc mode dirName =
        let added := ({ v with files, identities } : CatalogView).addBundle dirName manifest loc (v.findDir? dirName)
        added.1.syncItems (Path.join root dirName) loc added.2 (ItemKind.all.filter mode.covers) := by
  rw [addOne]
  split
  · exact .inl rfl
  · obtain ⟨made, eq, wrote⟩ := v.exists_newManifest (Path.join root dirName) dirName loc (v.findDir? dirName)
    rw [show v.newManifest? (Path.join root dirName) dirName loc (v.findDir? dirName) = _ from eq v.bundles fun _ => rfl]
    cases made with
    | none => exact .inl rfl
    | some made => exact .inr ⟨made.1, made.2.1, made.2.2, wrote made rfl, rfl⟩

theorem changesBundles_addBundles (v : CatalogView) (root : String) (loc : Locality) (mode : ScanMode) (dirs : List String) :
    ChangesBundles v (v.addBundles root loc mode dirs) := by
  induction dirs generalizing v with
  | nil => exact .refl v
  | cons dirName dirs ih =>
    have step : ChangesBundles v (v.addOne root loc mode dirName) := by
      obtain eq | ⟨files, identities, manifest, -, eq⟩ := v.addOne_eq root loc mode dirName
      · rw [eq]
        exact .refl v
      · rw [eq]
        cases v.findDir? dirName <;> exact ⟨_, _, _, rfl⟩
    rw [addBundles_cons]
    exact step.trans (ih _)

theorem findDir?_eq_some (found : v.findDir? dirName = some id) : ∃ b, v.bundles.row? id = some b ∧ b.dirName = dirName := by
  obtain ⟨bound, chosen, -⟩ := List.findIdx?_eq_some_iff_getElem.1 found
  rw [Bool.and_eq_true, decide_eq_true_eq] at chosen
  exact ⟨_, List.getElem?_eq_getElem bound, chosen.2⟩

/-- A bundle that is not gone is found by its directory, unless another one is. -/
theorem findDir?_ne_none (there : v.bundles.row? id = some b) (here : b.entry.locality.deleted = false) :
    v.findDir? b.dirName ≠ none := by
  intro missing
  have nothing := List.findIdx?_eq_none_iff.1 missing b (List.mem_of_getElem? there)
  simp [EntryView.isTombstone, here] at nothing

/-- Adding a bundle leaves the other bundles. -/
theorem row?_addBundle_of_ne {existing : Option Nat} (different : existing ≠ some id) (there : v.bundles.row? id = some b)
    (here : b.entry.locality.deleted = false) (dirName : String) (manifest : Document) (loc : Locality) :
    (v.addBundle dirName manifest loc existing).1.bundles.row? id = some b ∧
      (v.addBundle dirName manifest loc existing).2 ≠ id := by
  cases existing with
  | some other =>
    have apart : other ≠ id := fun same => different (congrArg some same)
    refine ⟨?_, apart⟩
    change (v.bundles.register other manifest loc).row? id = some b
    rw [TableView.row?_register, if_neg apart, there]
  | none =>
    have apart : (v.bundles.insert manifest loc).2 ≠ id := by
      rintro rfl
      have gone := (v.bundles.row?_insert manifest loc).2 b there
      exact absurd gone (by simp [EntryView.isTombstone, show (RowView.entry b).locality.deleted = false from here])
    refine ⟨?_, apart⟩
    change ((v.bundles.insert manifest loc).1.modifyRow (v.bundles.insert manifest loc).2 _).row? id = some b
    rw [TableView.row?_modifyRow, if_neg apart, TableView.row?_insert_of_row? there here]

/-- A bundle that is added names no directory but its own. -/
theorem names_addBundle {existing : Option Nat} {n : String} {manifest : Document} (apart : existing = none → n ≠ dirName)
    (named : (v.addBundle dirName manifest loc existing).1.bundles.Names other n) : v.bundles.Names other n := by
  cases existing with
  | some id => exact TableView.Names.of_modifyRow named fun _ => rfl
  | none =>
    obtain ⟨present, b, found, named⟩ := named
    change ((v.bundles.insert manifest loc).1.modifyRow (v.bundles.insert manifest loc).2
      fun b => { b with dirName }).row? other = some b at found
    rw [TableView.row?_modifyRow, (v.bundles.row?_insert manifest loc).1] at found
    split at found
    · cases found
      exact absurd named.symm (apart rfl)
    · exact ⟨present, b, found, named⟩

theorem changesBundles_updateBundles (v : CatalogView) (root : String) (loc : Locality) (mode : ScanMode) :
    ChangesBundles v (v.updateBundles root loc mode) := by
  rw [updateBundles]
  split
  · exact (v.changesBundles_updateKnown root loc mode _ _).trans (changesBundles_addBundles _ root loc mode _)
  · exact ⟨_, _, _, rfl⟩

/-- The themes after a scan, and the bundles after its passes. -/
theorem update_eq (v : CatalogView) (mode : ScanMode) :
    let themes := if mode = .rest then v.themes
      else (v.themes.sync v.files v.config.pristineThemes { pristine := true } ".tmTheme").sync v.files v.config.ownThemes
        { own := true } ".tmTheme"
    let start : CatalogView := { v with themes }
    let factory := (start.updateBundles v.config.installedBundles { installed := true } mode).updateBundles
      v.config.pristineBundles { pristine := true } mode
    (v.update mode).config = v.config ∧ (v.update mode).themes = themes ∧
      (v.update mode).bundles = (factory.updateBundles v.config.ownBundles { own := true } mode).bundles := by
  intro themes start factory
  have begun : (if mode = .rest then v
      else (v.updateThemes v.config.pristineThemes { pristine := true }).updateThemes v.config.ownThemes
        { own := true }) = start := by
    dsimp only [start, themes]
    split <;> rfl
  have installed := start.changesBundles_updateBundles v.config.installedBundles { installed := true } mode
  have pristine := changesBundles_updateBundles (start.updateBundles v.config.installedBundles { installed := true } mode)
    v.config.pristineBundles { pristine := true } mode
  have own := factory.changesBundles_updateBundles v.config.ownBundles { own := true } mode
  have passes := (installed.trans pristine).trans own
  have scanned : (v.update mode).config = (factory.updateBundles v.config.ownBundles { own := true } mode).config ∧
      (v.update mode).themes = (factory.updateBundles v.config.ownBundles { own := true } mode).themes ∧
      (v.update mode).bundles = (factory.updateBundles v.config.ownBundles { own := true } mode).bundles := by
    rw [update, begun]
    dsimp only
    rw [installed.config, show start.config = v.config from rfl, pristine.config, installed.config,
      show start.config = v.config from rfl]
    split <;> exact ⟨rfl, rfl, rfl⟩
  exact ⟨scanned.1.trans passes.config, scanned.2.1.trans passes.themes, scanned.2.2⟩

end CatalogView

end EditorBundles.Catalog
