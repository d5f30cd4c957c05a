import EditorBundles.Proofs.Catalog.CatalogRuns
import EditorBundles.Proofs.Catalog.CatalogViewKeeping
import EditorBundles.Proofs.Catalog.Passes

/-!
# Versions that no file holds yet

A scan keeps the themes of the user's own that no file holds yet, the manifests of bundles without a directory of
their own, and the items of bundles that have a home: a directory that is there, with a manifest that can be read.
What is kept stays as it is, or a file of the user's own with the same identity takes its place.
-/

namespace EditorBundles.Catalog
set_option autoImplicit false
open PropertyList FileSystem

variable {fs : FileSystem} {root bundleDir : String} {loc : Locality} {mode : ScanMode} {row : Nat} {b b' : BundleView}
  {v : CatalogView} {d : Document}

namespace BundleView

/-- All that is the user's own in a bundle stays. -/
structure Keeps (b b' : BundleView) : Prop where
  dirName : b'.dirName = b.dirName
  here : b.entry.locality.deleted = false → b'.entry.locality.deleted = false
  flag : b'.entry.locality.own = b.entry.locality.own
  manifest : ∀ d, b.entry.Owns d → b'.entry.Owns d
  items : ∀ kind item d, (b.items.get kind).Owns item d → (b'.items.get kind).Owns item d

theorem Keeps.refl (b : BundleView) : b.Keeps b := ⟨rfl, id, rfl, fun _ owns => owns, fun _ _ _ owns => owns⟩

theorem Keeps.trans {b₁ b₂ b₃ : BundleView} (first : b₁.Keeps b₂) (second : b₂.Keeps b₃) : b₁.Keeps b₃ where
  dirName := second.dirName.trans first.dirName
  here here := second.here (first.here here)
  flag := second.flag.trans first.flag
  manifest d owns := second.manifest d (first.manifest d owns)
  items kind item d owns := second.items kind item d (first.items kind item d owns)

theorem Scanned.keeps (h : b.Scanned fs bundleDir loc b') (source : loc.IsSource) (factory : loc.own = false) : b.Keeps b' := by
  obtain ⟨e, kinds, taken, rfl⟩ := h
  refine ⟨rfl, fun here => ?_, ?_, fun d owns => ?_, fun kind item d owns => ?_⟩
  · rcases taken with rfl | ⟨x, rfl⟩
    · exact here
    · exact EntryView.deleted_register here source x
  · rcases taken with rfl | ⟨x, rfl⟩
    · rfl
    · exact EntryView.own_register source factory x
  · rcases taken with rfl | ⟨x, rfl⟩
    · exact owns
    · exact owns.register_factory source factory x
  · rw [get_syncItems]
    split
    · obtain ⟨d', owns', rfl | ⟨own, -⟩⟩ :=
        TableView.Owns.sync owns source (.inl factory) fs (Path.join bundleDir kind.dirName) kind.extension
      · exact owns'
      · rw [factory] at own
        cases own
    · exact owns

theorem keeps_dropRow (factory : loc.own = false) : b.Keeps (TableView.dropRow b loc) := by
  have still : (b.entry.dropVersions loc).2.own = false := by simp [EntryView.dropVersions, apply_ite Locality.own, factory]
  refine ⟨rfl, fun here => EntryView.deleted_dropVersions here loc, EntryView.own_dropVersions factory,
    fun d owns => owns.dropVersions factory, fun kind item d owns => ?_⟩
  · change TableView.Owns ((b.items.map fun _ table => table.dropAll (b.entry.dropVersions loc).2).get kind) item d
    rw [PerKind.get_map]
    exact owns.dropAll still

theorem Outcome.keeps (h : b.Outcome fs root loc b') (source : loc.IsSource) (factory : loc.own = false) : b.Keeps b' := by
  cases h with
  | scanned listed scanned => exact scanned.keeps source factory
  | dropped factory left => exact keeps_dropRow factory

end BundleView

/-! ## Whole scans -/

/-- A bundle that only had an installed version is still installed if it is there after the pass. -/
theorem BundleView.Outcome.installed (h : b.Outcome fs root { installed := true } b') (own : b.entry.locality.own = false)
    (installed : b.entry.locality.installed = true) : b'.entry.locality.installed = true := by
  cases h with
  | scanned listed scanned =>
    obtain ⟨e, kinds, rfl | ⟨d, rfl⟩, rfl⟩ := scanned
    · exact installed
    · change (b.entry.register d { installed := true }).locality.installed = true
      simp [EntryView.register, EntryView.identify, Locality.union]
  | dropped factory left => simp [EntryView.dropVersions, Locality.without, Locality.hasSource, own, installed] at left

namespace CatalogView

/-- The version that holds a bundle in its place, with the root of the directories for such versions: the user's own,
or else the installed one, or else the pristine one. -/
def home (config : Config) (b : BundleView) : Locality × String :=
  if b.entry.locality.own then ({ own := true }, config.ownBundles)
  else if b.entry.locality.installed then ({ installed := true }, config.installedBundles)
  else ({ pristine := true }, config.pristineBundles)

variable (v mode)

variable {v} {row : Nat} {b : BundleView}

end CatalogView

variable {c : Catalog}

end EditorBundles.Catalog
