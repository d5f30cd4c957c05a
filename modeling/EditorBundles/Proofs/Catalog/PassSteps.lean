import EditorBundles.Proofs.Catalog.Passes

/-!
# Steps of passes

What a pass does with one bundle or with one directory depends on the entries of the bundles and on the names of their
directories, and on none of their items. Which items are read then depends on the mode alone. So a pass of one mode
takes the same steps as a pass of another one, as long as manifests are read in both.
-/

namespace EditorBundles.Catalog
set_option autoImplicit false
open PropertyList

/-- What a pass looks at in a bundle. -/
def BundleView.outline (b : BundleView) : EntryView × String := (b.entry, b.dirName)

namespace CatalogView

variable {v : CatalogView} {root bundleDir dirName : String} {loc : Locality} {mode : ScanMode} {dirs dirs' : List String}
  {id : Nat} {b : BundleView}

/-- What is done with a bundle that a pass knows: it is left, or what was made of its manifest is taken in and its items
are read, in a file system to which the manifest may have been written. -/
inductive Deed where
  | leave
  | take (bundleDir : String) (files : FileSystem) (identities : Identities) (reading : Reading)

/-- A deed is done. Items of some kinds are read if the bundle keeps its version. -/
def perform (v : CatalogView) (id : Nat) (loc : Locality) (kinds : List ItemKind) : Deed → CatalogView
  | .leave => v
  | .take bundleDir files identities reading =>
    let taken := ({ v with files, identities } : CatalogView).takeIn id loc reading
    if reading.keeps then taken.syncItems bundleDir loc id kinds else taken

/-- What a pass finds at the number of a bundle, with the directories that are left for others and what it does. -/
inductive Visit (v : CatalogView) (root : String) (loc : Locality) (dirs : List String) (id : Nat) :
    List String → Deed → Prop where
  | absent (without : ∀ b, v.bundles.row? id = some b → b.entry.locality.contains loc = false) :
    Visit v root loc dirs id dirs .leave
  | unsaved {b : BundleView} (there : v.bundles.row? id = some b) (contains : b.entry.locality.contains loc = true)
    (missing : b.dirName ∉ dirs) (own : loc = { own := true }) (unsaved : b.entry.hasUnsavedOwn = true) :
    Visit v root loc dirs id dirs .leave
  | passed {b : BundleView} (there : v.bundles.row? id = some b) (contains : b.entry.locality.contains loc = true)
    (listed : b.dirName ∈ dirs)
    (skipped : b.entry.locality.isHidden = true ∨ loc = { pristine := true } ∧ b.entry.locality.installed = true) :
    Visit v root loc dirs id (dirs.erase b.dirName) .leave
  | read {b : BundleView} {files : FileSystem} {identities : Identities} {reading : Reading}
    (there : v.bundles.row? id = some b) (contains : b.entry.locality.contains loc = true) (listed : b.dirName ∈ dirs)
    (visible : b.entry.locality.isHidden = false)
    (plain : ¬ (loc = { pristine := true } ∧ b.entry.locality.installed = true))
    (wrote : files = v.files ∨ loc.own = true ∧
      files = (v.makeManifest (Path.join root b.dirName) b.dirName (v.factoryManifest? id)).1.files)
    (lost : reading = .lost → ¬ HasManifest loc v.files (Path.join root b.dirName)) :
    Visit v root loc dirs id (dirs.erase b.dirName) (.take (Path.join root b.dirName) files identities reading)
  | gone {b : BundleView} (there : v.bundles.row? id = some b) (contains : b.entry.locality.contains loc = true)
    (missing : b.dirName ∉ dirs) (saved : ¬ (loc = { own := true } ∧ b.entry.hasUnsavedOwn = true)) :
    Visit v root loc dirs id dirs (.take (Path.join root b.dirName) v.files v.identities .lost)

/-- A step on a bundle is the same for all catalogs that look alike at its number, and for all modes that read manifests. -/
theorem exists_visit (v : CatalogView) (root : String) (loc : Locality) (dirs : List String) (id : Nat) :
    ∃ dirs' deed, Visit v root loc dirs id dirs' deed ∧ ∀ (bundles : TableView BundleView) (mode : ScanMode), mode ≠ .rest →
      (bundles.row? id).map BundleView.outline = (v.bundles.row? id).map BundleView.outline →
      ({ v with bundles } : CatalogView).updateOne root loc mode dirs id =
        (({ v with bundles } : CatalogView).perform id loc (ItemKind.all.filter mode.covers) deed, dirs') := by
  have rows {bundles : TableView BundleView} (b : BundleView) (there : v.bundles.row? id = some b)
      (same : (bundles.row? id).map BundleView.outline = (v.bundles.row? id).map BundleView.outline) :
      ∃ b', bundles.row? id = some b' ∧ b'.entry = b.entry ∧ b'.dirName = b.dirName := by
    rw [there] at same
    obtain ⟨b', found, outline⟩ := Option.map_eq_some_iff.1 same
    exact ⟨b', found, congrArg Prod.fst outline, congrArg Prod.snd outline⟩
  cases there : v.bundles.row? id with
  | none =>
    refine ⟨dirs, .leave, .absent fun b found => ?_, fun bundles mode _ same => ?_⟩
    · rw [there] at found
      cases found
    · rw [Option.map_none, Option.map_eq_none_iff] at same
      rw [updateOne, same]
      rfl
  | some b =>
    cases contains : b.entry.locality.contains loc with
    | false =>
      refine ⟨dirs, .leave, .absent fun b' found => ?_, fun bundles mode _ same => ?_⟩
      · rw [there] at found
        cases found
        exact contains
      · obtain ⟨b', found, entry, -⟩ := rows b there (there ▸ same)
        rw [updateOne, found, Option.filter_some, entry, contains]
        rfl
    | true =>
      by_cases listed : b.dirName ∈ dirs
      · by_cases skipped : b.entry.locality.isHidden = true ∨ loc = { pristine := true } ∧ b.entry.locality.installed = true
        · refine ⟨_, _, .passed there contains listed skipped, fun bundles mode _ same => ?_⟩
          obtain ⟨b', found, entry, named⟩ := rows b there (there ▸ same)
          rw [updateOne, found, Option.filter_some, entry, if_pos contains]
          dsimp only
          rw [named, entry, if_pos (List.contains_iff_mem.2 listed), if_pos (by simpa using skipped)]
          rfl
        · obtain ⟨visible, plain⟩ := not_or.1 skipped
          obtain ⟨files, identities, reading, eq, wrote, lost⟩ :=
            v.exists_reading id (Path.join root b.dirName) b.dirName loc
          refine ⟨_, .take (Path.join root b.dirName) files identities reading,
            .read there contains listed (Bool.not_eq_true _ ▸ visible) plain wrote lost, fun bundles mode reads same => ?_⟩
          obtain ⟨b', found, entry, named⟩ := rows b there (there ▸ same)
          have seen : bundles.entryAt? id = v.bundles.entryAt? id := by
            rw [TableView.entryAt?, TableView.entryAt?, found, there]
            exact congrArg some entry
          rw [updateOne, found, Option.filter_some, entry, if_pos contains]
          dsimp only
          rw [named, entry, if_pos (List.contains_iff_mem.2 listed), if_neg (by simpa using skipped), updateInDir, if_neg reads,
            eq bundles seen]
          rfl
      · by_cases unsaved : loc = { own := true } ∧ b.entry.hasUnsavedOwn = true
        · refine ⟨_, _, .unsaved there contains listed unsaved.1 unsaved.2, fun bundles mode _ same => ?_⟩
          obtain ⟨b', found, entry, named⟩ := rows b there (there ▸ same)
          rw [updateOne, found, Option.filter_some, entry, if_pos contains]
          dsimp only
          rw [named, entry, if_neg (fun member => listed (List.contains_iff_mem.1 member)), if_pos (by simpa using unsaved)]
          rfl
        · refine ⟨_, _, .gone there contains listed unsaved, fun bundles mode _ same => ?_⟩
          obtain ⟨b', found, entry, named⟩ := rows b there (there ▸ same)
          rw [updateOne, found, Option.filter_some, entry, if_pos contains]
          dsimp only
          rw [named, entry, if_neg (fun member => listed (List.contains_iff_mem.1 member)), if_neg (by simpa using unsaved)]
          rfl

/-- A bundle is added for a directory, if anything was made of its manifest, and items of some kinds are read. -/
def accept (v : CatalogView) (root : String) (loc : Locality) (kinds : List ItemKind) (dirName : String)
    (existing : Option Nat) : Option (FileSystem × Identities × Document) → CatalogView
  | none => v
  | some (files, identities, manifest) =>
    let added := ({ v with files, identities } : CatalogView).addBundle dirName manifest loc existing
    added.1.syncItems (Path.join root dirName) loc added.2 kinds

theorem findDir?_eq (v : CatalogView) (dirName : String) : v.findDir? dirName =
    (v.bundles.rows.map BundleView.outline).findIdx? fun o => !o.1.isTombstone && o.2 = dirName := by
  rw [List.findIdx?_map]
  rfl

/-- A step on a directory that no bundle has is the same for all catalogs that look alike, and for all modes that read
manifests. -/
theorem exists_addition (v : CatalogView) (root : String) (loc : Locality) (dirName : String) :
    ∃ made : Option (FileSystem × Identities × Document),
      (∀ m ∈ made, ¬ (loc = { pristine := true } ∧
          ∃ id b, v.findDir? dirName = some id ∧ v.bundles.row? id = some b ∧ b.entry.locality.installed = true) ∧
        (m.1 = v.files ∨ loc.own = true ∧ m.1 =
          (v.makeManifest (Path.join root dirName) dirName ((v.findDir? dirName).bind v.factoryManifest?)).1.files)) ∧
      ∀ (bundles : TableView BundleView) (mode : ScanMode), mode ≠ .rest →
        bundles.rows.map BundleView.outline = v.bundles.rows.map BundleView.outline →
        ({ v with bundles } : CatalogView).addOne root loc mode dirName =
          ({ v with bundles } : CatalogView).accept root loc (ItemKind.all.filter mode.covers) dirName (v.findDir? dirName)
            made := by
  have alike {bundles : TableView BundleView}
      (same : bundles.rows.map BundleView.outline = v.bundles.rows.map BundleView.outline) :
      ({ v with bundles } : CatalogView).findDir? dirName = v.findDir? dirName ∧
        ∀ id, bundles.entryAt? id = v.bundles.entryAt? id := by
    refine ⟨by rw [findDir?_eq, findDir?_eq]; exact congrArg _ same, fun id => ?_⟩
    have at_id := congrArg (fun outlines => (outlines[id]?).map Prod.fst) same
    rwa [List.getElem?_map, List.getElem?_map, Option.map_map, Option.map_map] at at_id
  let shadowed : Bool := loc = { pristine := true } &&
    (v.findDir? dirName).any fun id => (v.bundles.entryAt? id).any (·.locality.installed)
  cases hidden : shadowed with
  | true =>
    refine ⟨none, fun m member => (by cases member), fun bundles mode _ same => ?_⟩
    obtain ⟨found, entries⟩ := alike same
    rw [addOne, found]
    simp only [entries]
    rw [if_pos (by rw [show (_ && _) = shadowed from rfl, hidden, Bool.true_or])]
    rfl
  | false =>
    obtain ⟨made, eq, wrote⟩ := v.exists_newManifest (Path.join root dirName) dirName loc (v.findDir? dirName)
    refine ⟨made, fun m member => ⟨?_, wrote m member⟩, fun bundles mode reads same => ?_⟩
    · rintro ⟨rfl, id, b, found, there, installed⟩
      have none_ : ((v.findDir? dirName).any fun id => (v.bundles.entryAt? id).any (·.locality.installed)) = false := hidden
      rw [found, Option.any_some, TableView.entryAt?, there] at none_
      exact absurd installed (Bool.not_eq_true _ ▸ none_)
    · obtain ⟨found, entries⟩ := alike same
      rw [addOne, found]
      simp only [entries]
      rw [if_neg (by rw [show (_ && _) = shadowed from rfl, hidden]; simpa using reads), eq bundles entries]
      cases made <;> rfl

end CatalogView
end EditorBundles.Catalog
