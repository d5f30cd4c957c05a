import EditorBundles.Catalog.Scan
import EditorBundles.Proofs.FileSystem.Regularity

/-!
# File systems after scans

A scan writes the manifests that bundles of the user's own do not have. The file system stays regular.
-/

namespace EditorBundles.Catalog
set_option autoImplicit false
open PropertyList

variable {c c' : Catalog} {loc : Locality}

/-- Writing a document keeps the file system regular. -/
theorem regular_saveDoc (h : c.files.Regular) (doc : Nat) (dir : String) : (c.saveDoc doc dir).1.files.Regular := by
  have written := h.save (c.db.docs.get doc) dir
  rw [saveDoc, DocumentTable.save]
  generalize (c.db.docs.get doc).save c.files dir = ending at written
  obtain ⟨files, result⟩ := ending
  cases result <;> exact written

theorem regular_makeManifest (h : c.files.Regular) (bundleDir dirName : String) (factory : Option Nat) :
    (c.makeManifest bundleDir dirName factory).1.files.Regular := by
  -- whichever document is stored is named and written
  have ending (c : Catalog) (h : c.files.Regular) (manifest : Nat) :
      let named := c.withDocs (c.db.docs.modify manifest fun d => { d with filename := manifestName })
      (named.saveDoc manifest bundleDir).1.files.Regular := by
    intro named
    have same : named.files.Regular := h
    exact regular_saveDoc same manifest bundleDir
  cases factory with
  | none =>
    have same : (c.createDoc (displayName dirName) (some manifestName)).1.files.Regular := h
    rw [makeManifest]
    generalize c.createDoc (displayName dirName) (some manifestName) = created at same
    dsimp only
    exact ending created.1 same created.2
  | some factory =>
    rw [makeManifest]
    generalize c.db.docs.copy factory = copied
    dsimp only
    exact ending (c.withDocs copied.1) h copied.2

theorem regular_updateManifest (h : c.files.Regular) (id : Nat) (bundleDir dirName : String) :
    (c.updateManifest id bundleDir dirName loc).1.files.Regular := by
  rw [updateManifest]
  dsimp only
  split
  · cases (c.db.bundles.entryAt? id).bind (·.docFor loc) with
    | none => exact h
    | some current =>
      dsimp only
      split
      · cases c.db.docs.load c.files (Path.join bundleDir manifestName) with
        | error fault => exact h
        | ok result => exact h
      · exact h
  · split
    · have made := regular_makeManifest h bundleDir dirName (c.factoryManifest? id)
      generalize c.makeManifest bundleDir dirName (c.factoryManifest? id) = result at made
      exact made
    · exact h

theorem regular_newManifest? {bundleDir dirName : String} {existing : Option Nat} {manifest : Nat} (h : c.files.Regular)
    (made : c.newManifest? bundleDir dirName loc existing = some (c', manifest)) : c'.files.Regular := by
  rw [newManifest?] at made
  split at made
  · split at made
    · obtain ⟨rfl, -⟩ := Prod.mk.inj (Option.some.inj made)
      exact h
    · cases made
  · split at made
    · have regular := regular_makeManifest h bundleDir dirName (existing.bind c.factoryManifest?)
      rwa [Option.some.inj made] at regular
    · cases made

theorem files_syncItems (c : Catalog) (bundleDir : String) (loc : Locality) (id : Nat) (kinds : List ItemKind) :
    (c.syncItems bundleDir loc id kinds).files = c.files := by
  induction kinds generalizing c with
  | nil => rfl
  | cons kind kinds ih =>
    rw [syncItems]
    split
    · rfl
    · exact ih _

theorem regular_updateKnown (h : c.files.Regular) (root : String) (mode : ScanMode) (dirs : List String) (ids : List Nat) :
    (c.updateKnown root loc mode dirs ids).1.files.Regular := by
  induction ids generalizing c dirs with
  | nil => exact h
  | cons id ids ih =>
    rw [updateKnown]
    split
    · exact ih h dirs
    · rename_i b _
      dsimp only
      split
      · split
        · exact ih h _
        · have read : (if mode = .rest then (c, true) else
              c.updateManifest id (Path.join root b.dirName) b.dirName loc).1.files.Regular := by
            split
            · exact h
            · exact regular_updateManifest h id _ _
          generalize (if mode = .rest then (c, true) else
            c.updateManifest id (Path.join root b.dirName) b.dirName loc) = result at read
          refine ih ?_ _
          split
          · rwa [syncBundleItems, files_syncItems]
          · exact read
      · split
        · exact ih h dirs
        · exact ih (c := c.dropBundle id loc) h dirs

theorem regular_addBundles (h : c.files.Regular) (root : String) (mode : ScanMode) (dirs : List String) :
    (c.addBundles root loc mode dirs).files.Regular := by
  induction dirs generalizing c with
  | nil => exact h
  | cons dirName dirs ih =>
    rw [addBundles]
    dsimp only
    split
    · exact ih h
    · split
      · exact ih h
      · rename_i made
        have regular := regular_newManifest? h made
        split <;> refine ih ?_ <;> rwa [syncBundleItems, files_syncItems]

theorem regular_updateBundles (h : c.files.Regular) (root : String) (mode : ScanMode) :
    (c.updateBundles root loc mode).files.Regular := by
  rw [updateBundles]
  split
  · exact regular_addBundles (regular_updateKnown h root mode _ _) root mode _
  · exact h

end EditorBundles.Catalog
