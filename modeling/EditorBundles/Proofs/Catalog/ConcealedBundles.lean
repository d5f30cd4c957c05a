import EditorBundles.Proofs.Catalog.ConcealedRows
import EditorBundles.Proofs.Catalog.Unsaved

/-!
# Passes and what holds of a bundle

A pass leaves a bundle as it is, brings it in line with its directory, or takes a version from it. What holds of a bundle
whose directory is no other one's, and goes on to hold whatever of that is done to it, holds after the pass. A hidden
bundle stays hidden in this way, and so does a hidden item in a bundle that has its shipped directory.
-/

namespace EditorBundles.Catalog
set_option autoImplicit false
open PropertyList FileSystem

namespace CatalogView

/-- What goes on to hold of a bundle with a directory in a pass, whatever the pass does to it. -/
structure Lasts (fs : FileSystem) (root : String) (loc : Locality) (dirName : String) (holds : BundleView → Prop) : Prop where
  here : ∀ b, holds b → b.entry.locality.deleted = false
  dropped : ∀ b, holds b → b.entry.locality.contains loc = true →
    (loc.own = false → dirName ∈ bundleDirs fs root → b.entry.locality.isHidden = false ∧
      ¬HasManifest loc fs (Path.join root dirName)) →
    (b.entry.dropVersions loc).1.locality.hasSource = true ∧ holds (TableView.dropRow b loc)
  scanned : ∀ b, holds b → dirName ∈ bundleDirs fs root → ∀ e files kinds, e = b.entry ∨ (∃ d, e = b.entry.register d loc) →
    (loc.own = false → files = fs) →
      holds (({ b with entry := e } : BundleView).syncItems files (Path.join root dirName) loc kinds)

/-- Something holds of a bundle whose directory is no other one's. -/
structure Stands (v : CatalogView) (id : Nat) (dirName : String) (holds : BundleView → Prop) : Prop where
  row : ∃ b, v.bundles.row? id = some b ∧ b.dirName = dirName ∧ holds b
  alone : v.bundles.Alone id dirName

variable {fs files : FileSystem} {root dirName : String} {loc : Locality} {mode : ScanMode} {holds : BundleView → Prop}
  {v v' : CatalogView} {id other : Nat} {dirs : List String} {identities : Identities}

theorem Stands.imp {weaker : BundleView → Prop} (h : v.Stands id dirName holds) (less : ∀ b, holds b → weaker b) :
    v.Stands id dirName weaker :=
  ⟨h.row.imp fun b ⟨found, named, holds⟩ => ⟨found, named, less b holds⟩, h.alone⟩

/-- A bundle whose directory is listed is brought in line or loses its version. -/
theorem Stands.updateInDir (lasts : Lasts fs root loc dirName holds) (h : v.Stands id dirName holds)
    (same : loc.own = false → v.files = fs) (listed : dirName ∈ bundleDirs fs root)
    (shown : ∀ b, v.bundles.row? id = some b → b.entry.locality.contains loc = true ∧ b.entry.locality.isHidden = false)
    (mode : ScanMode) :
    (v.updateInDir id (Path.join root dirName) dirName loc mode).Stands id dirName holds := by
  refine ⟨?_, fun other named => h.alone other (names_updateInDir _ _ _ _ named)⟩
  obtain ⟨b, found, rfl, holds'⟩ := h.row
  obtain ⟨files, identities, reading, kinds, eq, wrote, lost⟩ :=
    exists_updateInDir v id (Path.join root b.dirName) b.dirName loc mode
  have read (factory : loc.own = false) : files = fs := by
    rcases wrote with rfl | ⟨own, -⟩
    · exact same factory
    · exact Bool.noConfusion (factory.symm.trans own)
  rw [eq]
  cases reading with
  | kept =>
    have after := lasts.scanned b holds' listed b.entry files kinds (.inl rfl) read
    refine ⟨({ b with entry := b.entry } : BundleView).syncItems files _ loc kinds, ?_, rfl, after⟩
    change (v.bundles.modifyRow id _).row? id = _
    rw [TableView.row?_modifyRow, if_pos rfl, found]
    rfl
  | renewed manifest =>
    have after := lasts.scanned b holds' listed (b.entry.register manifest loc) files kinds (.inr ⟨manifest, rfl⟩) read
    refine ⟨({ b with entry := b.entry.register manifest loc } : BundleView).syncItems files _ loc kinds, ?_, rfl, after⟩
    change ((v.bundles.register id manifest loc).modifyRow id _).row? id = _
    rw [TableView.row?_modifyRow, if_pos rfl, TableView.row?_register, if_pos rfl, found]
    rfl
  | lost =>
    obtain ⟨contains, hidden⟩ := shown b found
    obtain ⟨left, holds'⟩ := lasts.dropped b holds' contains fun factory _ => ⟨hidden, same factory ▸ lost rfl⟩
    exact ⟨_, TableView.row?_drop_self found left, rfl, holds'⟩

/-- The files of a pass for factory versions stay as they are. -/
theorem files_updateOne (factory : loc.own = false) (v : CatalogView) (root : String) (mode : ScanMode) (dirs : List String)
    (id : Nat) : (v.updateOne root loc mode dirs id).1.files = v.files := by
  rw [updateOne]
  split
  · rfl
  · next b found =>
    split
    · split
      · rfl
      · obtain ⟨made, same | ⟨own, -⟩⟩ := v.updateInDir_eq_files id root b.dirName loc mode
        · exact same
        · exact Bool.noConfusion (factory.symm.trans own)
    · split <;> rfl

theorem Stands.updateOne (lasts : Lasts fs root loc dirName holds) (h : v.Stands id dirName holds)
    (same : loc.own = false → v.files = fs) (inside : dirs ⊆ bundleDirs fs root)
    (waiting : other = id → dirName ∈ bundleDirs fs root → dirName ∈ dirs) (mode : ScanMode) :
    (v.updateOne root loc mode dirs other).1.Stands id dirName holds ∧
      (v.updateOne root loc mode dirs other).2 ⊆ bundleDirs fs root ∧
      (other ≠ id → dirName ∈ dirs → dirName ∈ (v.updateOne root loc mode dirs other).2) := by
  obtain ⟨b, there, named, holds'⟩ := h.row
  have here := lasts.here b holds'
  rw [CatalogView.updateOne]
  cases found : (v.bundles.row? other).filter fun b => b.entry.locality.contains loc with
  | none => exact ⟨h, inside, fun _ member => member⟩
  | some b₁ =>
    obtain ⟨there₁, contains⟩ := Option.filter_eq_some_iff.1 found
    dsimp only
    split
    · next listed =>
      have listed : b₁.dirName ∈ dirs := List.contains_iff_mem.1 listed
      have fewer : dirs.erase b₁.dirName ⊆ bundleDirs fs root := List.Subset.trans List.erase_subset inside
      have left (different : other ≠ id) (member : dirName ∈ dirs) : dirName ∈ dirs.erase b₁.dirName :=
        (List.mem_erase_of_ne fun named₁ =>
          different (h.alone other ⟨ne_of_mem_bundleDirs (inside member), b₁, there₁, named₁.symm⟩)).2 member
      split
      · exact ⟨h, fewer, left⟩
      · next loose =>
        refine ⟨?_, fewer, left⟩
        by_cases self : other = id
        · subst self
          obtain rfl := Option.some.inj (there.symm.trans there₁)
          rw [named]
          refine h.updateInDir lasts same (named ▸ inside listed) (fun b' there' => ?_) mode
          obtain rfl := Option.some.inj (there.symm.trans there')
          rw [Bool.or_eq_true, not_or] at loose
          exact ⟨contains, Bool.not_eq_true _ ▸ loose.1⟩
        · exact ⟨⟨b, row?_updateInDir_of_ne self there here _ _ loc mode, named, holds'⟩,
            fun third named => h.alone third (names_updateInDir _ _ _ _ named)⟩
    · next missing =>
      split
      · exact ⟨h, inside, fun _ member => member⟩
      · refine ⟨⟨?_, fun third named => h.alone third (TableView.Names.of_drop named)⟩, inside, fun _ member => member⟩
        by_cases self : other = id
        · subst self
          obtain rfl := Option.some.inj (there.symm.trans there₁)
          have missing : dirName ∉ dirs := fun member => missing (List.contains_iff_mem.2 (named.symm ▸ member))
          obtain ⟨left, after⟩ := lasts.dropped b holds' contains fun _ listed => absurd (waiting rfl listed) missing
          exact ⟨TableView.dropRow b loc, TableView.row?_drop_self there left, named, after⟩
        · exact ⟨b, TableView.row?_drop_of_ne self there here loc, named, holds'⟩

/-- Known bundles are gone over. -/
theorem Stands.updateKnown (lasts : Lasts fs root loc dirName holds) (h : v.Stands id dirName holds)
    (same : loc.own = false → v.files = fs) (inside : dirs ⊆ bundleDirs fs root) {ids : List Nat} (single : ids.Nodup)
    (waiting : id ∈ ids → dirName ∈ bundleDirs fs root → dirName ∈ dirs) (mode : ScanMode) :
    (v.updateKnown root loc mode dirs ids).1.Stands id dirName holds ∧
      (v.updateKnown root loc mode dirs ids).2 ⊆ bundleDirs fs root ∧
      (loc.own = false → (v.updateKnown root loc mode dirs ids).1.files = fs) := by
  induction ids generalizing v dirs with
  | nil => exact ⟨h, inside, same⟩
  | cons other ids ih =>
    obtain ⟨after, single⟩ := List.nodup_cons.1 single
    obtain ⟨step, inside', left⟩ := h.updateOne lasts same inside (fun self => waiting (self ▸ List.mem_cons_self)) mode
    rw [updateKnown_cons]
    refine ih step (fun factory => (files_updateOne factory v root mode dirs other).trans (same factory)) inside' single ?_
    intro member listed
    exact left (fun self => after (self ▸ member)) (waiting (List.mem_cons_of_mem _ member) listed)

/-- A directory is taken in that no bundle has at the locality. -/
theorem Stands.addOne (lasts : Lasts fs root loc dirName holds) (h : v.Stands id dirName holds)
    (same : loc.own = false → v.files = fs) {name : String} (listed : name ∈ bundleDirs fs root) (mode : ScanMode) :
    (v.addOne root loc mode name).Stands id dirName holds ∧ (loc.own = false → (v.addOne root loc mode name).files = fs) := by
  obtain ⟨b, there, named, holds'⟩ := h.row
  have here := lasts.here b holds'
  obtain eq | ⟨files, identities, manifest, wrote, eq⟩ := v.addOne_eq root loc mode name
  · rw [eq]
    exact ⟨h, same⟩
  have read (factory : loc.own = false) : files = fs := by
    rcases wrote with rfl | ⟨own, -⟩
    · exact same factory
    · exact Bool.noConfusion (factory.symm.trans own)
  rw [eq]
  by_cases found : v.findDir? name = some id
  · -- the directory is that of the bundle, which the others do not have
    obtain ⟨b', there', rfl⟩ := findDir?_eq_some found
    obtain rfl := Option.some.inj (there.symm.trans there')
    subst named
    rw [found]
    have after := lasts.scanned b holds' listed (b.entry.register manifest loc) files (ItemKind.all.filter mode.covers)
      (.inr ⟨manifest, rfl⟩) read
    refine ⟨⟨⟨({ b with entry := b.entry.register manifest loc } : BundleView).syncItems files _ loc _, ?_, rfl, after⟩,
      fun third named => h.alone third ?_⟩, read⟩
    · change ((v.bundles.register id manifest loc).modifyRow id _).row? id = _
      rw [TableView.row?_modifyRow, if_pos rfl, TableView.row?_register, if_pos rfl, there]
      rfl
    · exact TableView.Names.of_modifyRow (TableView.Names.of_modifyRow named fun _ => rfl) fun _ => rfl
  · have other : name ≠ dirName := by
      rintro rfl
      cases looked : v.findDir? name with
      | none => exact findDir?_ne_none there here (named ▸ looked)
      | some third =>
        obtain ⟨b', there', named'⟩ := findDir?_eq_some looked
        have self := h.alone third ⟨ne_of_mem_bundleDirs listed, b', there', named'⟩
        exact found (self ▸ looked)
    obtain ⟨row, apart⟩ := row?_addBundle_of_ne (v := { v with files, identities }) found there here name manifest loc
    refine ⟨⟨⟨b, ?_, named, holds'⟩, fun third named => h.alone third ?_⟩, fun factory => ?_⟩
    · change (TableView.modifyRow _ _ _).row? id = some b
      rw [TableView.row?_modifyRow, if_neg apart, row]
    · have added := TableView.Names.of_modifyRow named fun _ => rfl
      exact names_addBundle (v := { v with files, identities }) (fun _ => other.symm) added
    · rw [← read factory]
      cases v.findDir? name <;> rfl

theorem Stands.addBundles (lasts : Lasts fs root loc dirName holds) (h : v.Stands id dirName holds)
    (same : loc.own = false → v.files = fs) (inside : dirs ⊆ bundleDirs fs root) (mode : ScanMode) :
    (v.addBundles root loc mode dirs).Stands id dirName holds ∧
      (loc.own = false → (v.addBundles root loc mode dirs).files = fs) := by
  induction dirs generalizing v with
  | nil => exact ⟨h, same⟩
  | cons name dirs ih =>
    obtain ⟨step, same'⟩ := h.addOne lasts same (inside List.mem_cons_self) mode
    rw [addBundles_cons]
    exact ih step same' fun _ member => inside (List.mem_cons_of_mem _ member)

/-- What lasts in a pass holds after it. -/
theorem Stands.updateBundles (source : loc.IsSource) (lasts : Lasts v.files root loc dirName holds)
    (h : v.Stands id dirName holds) (mode : ScanMode) :
    (v.updateBundles root loc mode).Stands id dirName holds ∧
      (loc.own = false → (v.updateBundles root loc mode).files = v.files) := by
  rw [CatalogView.updateBundles]
  split
  · obtain ⟨known, inside, same⟩ := h.updateKnown lasts (fun _ => rfl) (List.Subset.refl (bundleDirs v.files root))
      (List.nodup_range (n := v.bundles.size)) (fun _ listed => listed) mode
    exact known.addBundles lasts same inside mode
  · next missing =>
    refine ⟨⟨?_, fun third named => h.alone third (TableView.Names.of_dropWhere named)⟩, fun _ => rfl⟩
    obtain ⟨b, there, named, holds'⟩ := h.row
    have empty : bundleDirs v.files root = [] := listDir_of_not_isDirectory (Bool.not_eq_true _ ▸ missing)
    have dropped (chosen : (b.entry.locality.meets loc && !(loc.own && b.entry.hasUnsavedOwn)) = true) :=
      lasts.dropped b holds' (source.contains_of_meets (Bool.and_eq_true_iff.1 chosen).1) fun _ listed => by
        rw [empty] at listed
        cases listed
    obtain ⟨b', there', same | ⟨chosen, rfl⟩⟩ := TableView.row?_dropWhere
      (p := fun e => e.locality.meets loc && !(loc.own && e.hasUnsavedOwn)) there (lasts.here b holds')
      (List.nodup_range (n := v.bundles.size)) fun chosen => (dropped chosen).1
    · exact ⟨b', there', same ▸ named, same ▸ holds'⟩
    · exact ⟨_, there', named, (dropped chosen).2⟩

/-- What lasts in the passes for factory versions holds after them. -/
theorem Stands.factoryPasses (h : v.Stands id dirName holds)
    (installed : Lasts v.files v.config.installedBundles { installed := true } dirName holds)
    (pristine : Lasts v.files v.config.pristineBundles { pristine := true } dirName holds) (mode : ScanMode) :
    ((v.updateBundles v.config.installedBundles { installed := true } mode).updateBundles v.config.pristineBundles
      { pristine := true } mode).Stands id dirName holds := by
  obtain ⟨first, files⟩ := h.updateBundles .installed installed mode
  have files := files rfl
  exact (first.updateBundles .pristine (files.symm ▸ pristine) mode).1

/-- What lasts in the passes of a scan holds after it, as far as the user's own pass goes on with it. -/
theorem Stands.update {after : BundleView → Prop} (h : v.Stands id dirName holds)
    (installed : Lasts v.files v.config.installedBundles { installed := true } dirName holds)
    (pristine : Lasts v.files v.config.pristineBundles { pristine := true } dirName holds)
    (weaker : ∀ b, holds b → after b) (own : ∀ fs, Lasts fs v.config.ownBundles { own := true } dirName after)
    (mode : ScanMode) : (v.update mode).Stands id dirName after := by
  have eq := (v.update_eq mode).2.2
  generalize (if mode = .rest then v.themes else _) = themes at eq
  have start : ({ v with themes } : CatalogView).Stands id dirName holds := ⟨h.row, h.alone⟩
  have factory := (start.factoryPasses installed pristine mode).imp weaker
  have scanned := (factory.updateBundles .own (own _) mode).1
  refine ⟨?_, ?_⟩
  · rw [eq]
    exact scanned.row
  · rw [eq]
    exact scanned.alone

end CatalogView

/-! ## Hidden bundles -/

namespace EntryView

variable {e : EntryView} {d : Document} {loc : Locality}

/-- The entry of a bundle is hidden, and the bundle is shipped. -/
structure Veiled (e : EntryView) : Prop where
  here : e.locality.deleted = false
  disabled : e.locality.disabled = true
  pristine : e.locality.pristine = true

theorem Veiled.register (h : e.Veiled) (source : loc.IsSource) (d : Document) : (e.register d loc).Veiled := by
  obtain ⟨here, disabled, pristine⟩ := h
  cases source <;> constructor <;>
    simp [EntryView.register, identify, Locality.union, apply_ite EntryView.locality, here, disabled, pristine]

theorem Veiled.dropVersions_own (h : e.Veiled) : (e.dropVersions { own := true }).1.Veiled := by
  obtain ⟨here, disabled, pristine⟩ := h
  constructor <;> cases there : e.locality.installed <;>
    simp [dropVersions, Locality.without, here, disabled, pristine, there]

theorem Veiled.hasSource (h : e.Veiled) : e.locality.hasSource = true := by simp [Locality.hasSource, h.pristine]

theorem Veiled.isHidden (h : e.Veiled) : e.locality.isHidden = true := by simp [Locality.isHidden, h.disabled]

theorem installed_register (source : loc.IsSource) (e : EntryView) (d : Document) :
    (e.register d loc).locality.installed = (e.locality.installed || loc.installed) := by
  cases source <;> simp [register, identify, Locality.union, apply_ite EntryView.locality]

theorem pristine_register (source : loc.IsSource) (e : EntryView) (d : Document) :
    (e.register d loc).locality.pristine = (e.locality.pristine || loc.pristine) := by
  cases source <;> simp [register, identify, Locality.union, apply_ite EntryView.locality]

/-- A version that is not an installed one leaves an entry with its shipped version and without an installed one. -/
theorem shipped_of_taken {e' : EntryView} (source : loc.IsSource) (apart : loc.installed = false)
    (taken : e' = e ∨ ∃ d, e' = e.register d loc) (here : e.locality.deleted = false) (pristine : e.locality.pristine = true)
    (installed : e.locality.installed = false) :
    e'.locality.deleted = false ∧ e'.locality.pristine = true ∧ e'.locality.installed = false := by
  rcases taken with rfl | ⟨d, rfl⟩
  · exact ⟨here, pristine, installed⟩
  · rw [pristine_register source, installed_register source, pristine, installed, apart]
    exact ⟨deleted_register here source d, rfl, rfl⟩

end EntryView

namespace CatalogView

variable {fs : FileSystem} {root dirName : String} {loc : Locality}

/-- A hidden bundle is left by the pass for installed versions if its directory is there in case that it has one. -/
theorem lasts_veiled_installed : Lasts fs root { installed := true } dirName fun b =>
    b.entry.Veiled ∧ (b.entry.locality.installed = true → dirName ∈ bundleDirs fs root) where
  here _ holds := holds.1.here
  dropped b holds contains lost := by
    have installed : b.entry.locality.installed = true := by simpa [Locality.contains] using contains
    have shown := (lost rfl (holds.2 installed)).1
    exact Bool.noConfusion (holds.1.isHidden.symm.trans shown)
  scanned b holds listed e _ _ taken _ := by
    refine ⟨?_, fun _ => listed⟩
    rcases taken with rfl | ⟨d, rfl⟩
    · exact holds.1
    · exact holds.1.register .installed d

theorem lasts_veiled_pristine {installedRoot : String} (listed : dirName ∈ bundleDirs fs root) :
    Lasts fs root { pristine := true } dirName fun b =>
      b.entry.Veiled ∧ (b.entry.locality.installed = true → dirName ∈ bundleDirs fs installedRoot) where
  here _ holds := holds.1.here
  dropped b holds _ lost := by
    have shown := (lost rfl listed).1
    exact Bool.noConfusion (holds.1.isHidden.symm.trans shown)
  scanned b holds _ e _ _ taken _ := by
    rcases taken with rfl | ⟨d, rfl⟩
    · exact holds
    · refine ⟨holds.1.register .pristine d, fun installed => holds.2 ?_⟩
      change (b.entry.register d { pristine := true }).locality.installed = true at installed
      rwa [EntryView.installed_register .pristine, Bool.or_false] at installed

/-- The user's own version may come and go. -/
theorem lasts_veiled_own : Lasts fs root { own := true } dirName (·.entry.Veiled) where
  here _ veiled := veiled.here
  dropped _ veiled _ _ := ⟨veiled.dropVersions_own.hasSource, veiled.dropVersions_own⟩
  scanned b veiled _ e _ _ taken _ := by
    rcases taken with rfl | ⟨d, rfl⟩
    · exact veiled
    · exact veiled.register .own d

/-- A bundle that is hidden stays hidden in a scan, as long as its shipped directory is there and so is that of an
installed version that it has. -/
theorem Stands.update_veiled {v : CatalogView} {id : Nat} (h : v.Stands id dirName (·.entry.Veiled))
    (listed : dirName ∈ bundleDirs v.files v.config.pristineBundles)
    (installed : ∀ b, v.bundles.row? id = some b → b.entry.locality.installed = true →
      dirName ∈ bundleDirs v.files v.config.installedBundles) (mode : ScanMode) :
    (v.update mode).Stands id dirName (·.entry.Veiled) := by
  obtain ⟨b, there, named, veiled⟩ := h.row
  have start : v.Stands id dirName fun b => b.entry.Veiled ∧
      (b.entry.locality.installed = true → dirName ∈ bundleDirs v.files v.config.installedBundles) :=
    ⟨⟨b, there, named, veiled, installed b there⟩, h.alone⟩
  exact start.update lasts_veiled_installed (lasts_veiled_pristine listed) (fun _ holds => holds.1)
    (fun _ => lasts_veiled_own) mode

end CatalogView

/-! ## Hidden items -/

/-- A bundle has its shipped version and no installed one, and one of its items is hidden. -/
structure BundleView.Conceals (kind : ItemKind) (item : Nat) (file : String) (known : String → Prop) (b : BundleView) : Prop where
  here : b.entry.locality.deleted = false
  pristine : b.entry.locality.pristine = true
  installed : b.entry.locality.installed = false
  items : (b.items.get kind).Conceals item file known

namespace CatalogView

variable {fs : FileSystem} {root dirName file : String} {loc : Locality} {kind : ItemKind} {item : Nat} {known : String → Prop}

theorem lasts_conceals_installed (missing : dirName ∉ bundleDirs fs root) :
    Lasts fs root { installed := true } dirName (BundleView.Conceals kind item file known) where
  here _ conceals := conceals.here
  dropped b conceals contains _ := by
    have installed : b.entry.locality.installed = true := by simpa [Locality.contains] using contains
    exact Bool.noConfusion (conceals.installed.symm.trans installed)
  scanned _ _ listed := absurd listed missing

theorem lasts_conceals_pristine (regular : fs.Regular) (listed : dirName ∈ bundleDirs fs root)
    (manifest : HasManifest { pristine := true } fs (Path.join root dirName))
    (shipped : TableView.Shipped fs (Path.join (Path.join root dirName) kind.dirName) kind.extension file known) :
    Lasts fs root { pristine := true } dirName (BundleView.Conceals kind item file known) where
  here _ conceals := conceals.here
  dropped _ _ _ lost := absurd manifest (lost rfl listed).2
  scanned b conceals _ e files kinds taken same := by
    obtain rfl := same rfl
    obtain ⟨here, pristine, installed, items⟩ := conceals
    obtain ⟨here, pristine, installed⟩ := EntryView.shipped_of_taken .pristine rfl taken here pristine installed
    refine ⟨here, pristine, installed, ?_⟩
    rw [BundleView.get_syncItems]
    split
    · exact items.sync_pristine regular shipped
    · exact items

theorem lasts_conceals_own :
    Lasts fs root { own := true } dirName (BundleView.Conceals kind item file fun _ => True) where
  here _ conceals := conceals.here
  dropped b conceals _ _ := by
    obtain ⟨here, pristine, installed, items⟩ := conceals
    have still : (b.entry.dropVersions { own := true }).2 = { own := true } := by simp [EntryView.dropVersions, installed]
    have kept : (b.entry.dropVersions { own := true }).1.locality.pristine = true := by
      simp [EntryView.dropVersions, Locality.without, pristine, installed]
    refine ⟨by simp [Locality.hasSource, kept], EntryView.deleted_dropVersions here _, kept, ?_, ?_⟩
    · change (b.entry.dropVersions { own := true }).1.locality.installed = false
      simp [EntryView.dropVersions, Locality.without, installed]
    · change TableView.Conceals ((b.items.map fun _ table =>
        table.dropAll (b.entry.dropVersions { own := true }).2).get kind) item file _
      rw [PerKind.get_map, still]
      exact items.dropAll_own
  scanned b conceals _ e files kinds taken _ := by
    obtain ⟨here, pristine, installed, items⟩ := conceals
    obtain ⟨here, pristine, installed⟩ := EntryView.shipped_of_taken .own rfl taken here pristine installed
    refine ⟨here, pristine, installed, ?_⟩
    rw [BundleView.get_syncItems]
    split
    · exact items.sync_own _ _ _
    · exact items

/-- An item that is hidden stays hidden in a scan, in a bundle that has its shipped directory and no installed version. -/
theorem Stands.update_conceals {v : CatalogView} {id : Nat} (h : v.Stands id dirName (BundleView.Conceals kind item file known))
    (regular : v.files.Regular) (listed : dirName ∈ bundleDirs v.files v.config.pristineBundles)
    (manifest : HasManifest { pristine := true } v.files (Path.join v.config.pristineBundles dirName))
    (missing : dirName ∉ bundleDirs v.files v.config.installedBundles)
    (shipped : TableView.Shipped v.files (Path.join (Path.join v.config.pristineBundles dirName) kind.dirName)
      kind.extension file known) (mode : ScanMode) :
    (v.update mode).Stands id dirName (BundleView.Conceals kind item file fun _ => True) :=
  h.update (lasts_conceals_installed missing) (lasts_conceals_pristine regular listed manifest shipped)
    (fun _ ⟨here, pristine, installed, items⟩ => ⟨here, pristine, installed, items.imp fun _ _ => trivial⟩)
    (fun _ => lasts_conceals_own) mode

/-- A theme that is hidden stays hidden in a scan. -/
theorem conceals_update {v : CatalogView} {id : Nat} (h : v.themes.Conceals id file known) (regular : v.files.Regular)
    (shipped : TableView.Shipped v.files v.config.pristineThemes ".tmTheme" file known) (mode : ScanMode) :
    (v.update mode).themes.Conceals id file fun _ => True := by
  rw [(v.update_eq mode).2.1]
  split
  · exact h.imp fun _ _ => trivial
  · exact (h.sync_pristine regular shipped).sync_own _ _ _

end CatalogView

end EditorBundles.Catalog
