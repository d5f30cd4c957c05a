import EditorBundles.Proofs.Catalog.PassCourses

/-!
# Bundles that can wait

The items of a bundle can be read by a later scan if no pass takes away a version after an earlier one has read the bundle, and
if no hidden bundle gets a version, which is read where it is new and not where it is known. Both are said of the bundle and
of the directories of its name as they are before a scan, and passes leave them so.
-/

namespace EditorBundles.Catalog
set_option autoImplicit false
open PropertyList
open CatalogView (bundleDirs Visit Deed)

/-- The items of the bundle can be read later. If it is hidden, it has each version whose directory is there, and a pristine
version whose directory is there does not go with an installed one. Else a pristine version and one of the user's own that
other directories may be put beside are there to stay. -/
structure BundleView.Calm (fs : FileSystem) (config : Config) (b : BundleView) : Prop where
  gained : b.entry.locality.isHidden = true → ∀ pass ∈ config.passes, b.dirName ∈ bundleDirs fs pass.root →
    b.entry.locality.contains pass.loc = true
  based : b.entry.locality.isHidden = true → b.entry.locality.installed = true →
    b.dirName ∈ bundleDirs fs config.pristineBundles → b.dirName ∈ bundleDirs fs config.installedBundles
  shadowed : b.entry.locality.isHidden = false → b.entry.locality.pristine = true →
    b.dirName ∈ bundleDirs fs config.installedBundles → b.dirName ∈ bundleDirs fs config.pristineBundles
  owned : b.entry.locality.isHidden = false → b.entry.locality.own = true →
    b.dirName ∈ bundleDirs fs config.installedBundles ∨ b.dirName ∈ bundleDirs fs config.pristineBundles →
    b.dirName ∈ bundleDirs fs config.ownBundles ∨ b.entry.hasUnsavedOwn = true

namespace EntryView

variable {e : EntryView} {loc : Locality} {d : Document}

/-- A version that is dropped takes no other one along, but for a pristine version behind an installed one. -/
theorem contains_dropVersions {other : Locality} (source : loc.IsSource) (source' : other.IsSource) (apart : other ≠ loc)
    (behind : ¬ (loc = { installed := true } ∧ other = { pristine := true })) (e : EntryView) :
    (e.dropVersions loc).1.locality.contains other = e.locality.contains other := by
  cases installed : e.locality.installed <;> cases source <;> cases source' <;>
    first
      | exact absurd rfl apart
      | exact absurd ⟨rfl, rfl⟩ behind
      | simp [dropVersions, Locality.without, Locality.contains, installed]

theorem hasUnsavedOwn_register (source : loc.IsSource) (factory : loc.own = false) (e : EntryView) (d : Document) :
    (e.register d loc).hasUnsavedOwn = e.hasUnsavedOwn := by
  have version : (e.register d loc).own = e.own := by
    rw [register, if_neg (Bool.not_eq_true _ ▸ factory)]
    split <;> rfl
  rw [hasUnsavedOwn, hasUnsavedOwn, own_register source factory, version]

theorem hasUnsavedOwn_dropVersions (factory : loc.own = false) (e : EntryView) :
    (e.dropVersions loc).1.hasUnsavedOwn = e.hasUnsavedOwn := by
  have version : (e.dropVersions loc).1.own = e.own := by simp [EntryView.dropVersions, apply_ite Locality.own, factory]
  rw [hasUnsavedOwn, hasUnsavedOwn, own_dropVersions factory, version]

end EntryView

namespace BundleView

variable {fs : FileSystem} {config : Config} {done : List Pass} {pass : Pass} {b b' : BundleView} {d : Document}

/-- A bundle that is in no directory can wait. -/
theorem calm_of_unlisted (unlisted : ∀ pass ∈ config.passes, b.dirName ∉ bundleDirs fs pass.root) : b.Calm fs config where
  gained _ pass member listed := absurd listed (unlisted pass member)
  based _ _ listed := absurd listed (unlisted config.pristinePass (by simp [Config.passes]))
  shadowed _ _ listed := absurd listed (unlisted config.installedPass (by simp [Config.passes]))
  owned _ _ listed := by
    rcases listed with listed | listed
    · exact absurd listed (unlisted config.installedPass (by simp [Config.passes]))
    · exact absurd listed (unlisted config.pristinePass (by simp [Config.passes]))

/-- A version that is recorded does not change which directories earlier passes have read. -/
theorem due_register (turn : Turn config done pass) (b : BundleView) (d : Document) :
    ∀ before ∈ done, ({ b with entry := b.entry.register d pass.loc } : BundleView).due fs before = b.due fs before := by
  intro before member
  unfold due
  rw [EntryView.locality_register]
  cases turn with
  | installed => cases member
  | pristine =>
    obtain rfl := List.mem_singleton.1 member
    simp [Locality.union, Locality.contains, Locality.isHidden, Config.installedPass, Config.pristinePass]
  | own =>
    rcases List.mem_pair.1 member with rfl | rfl <;>
      simp [Locality.union, Locality.contains, Locality.isHidden, Config.installedPass, Config.pristinePass, Config.ownPass]

/-- A bundle that can wait can do so with a version that is recorded. -/
theorem Calm.register (h : b.Calm fs config) (turn : Turn config done pass) (visible : b.entry.locality.isHidden = false)
    (listed : b.dirName ∈ bundleDirs fs pass.root) (d : Document)
    (entry : b'.entry = b.entry.register d pass.loc) (dirName : b'.dirName = b.dirName) : b'.Calm fs config := by
  have same : b'.entry.locality.isHidden = false := by rw [entry, EntryView.isHidden_register turn.source, visible]
  constructor
  · intro hidden
    rw [same] at hidden
    cases hidden
  · intro hidden
    rw [same] at hidden
    cases hidden
  · intro _ pristine
    rw [dirName]
    cases turn with
    | pristine => exact fun _ => listed
    | _ =>
      refine h.shadowed visible ?_
      rw [entry, EntryView.locality_register] at pristine
      simpa [Locality.union, Config.installedPass, Config.ownPass] using pristine
  · intro _ own beside
    rw [dirName] at beside ⊢
    cases factory : pass.loc.own with
    | true =>
      obtain rfl := turn.eq_ownPass factory
      exact .inl listed
    | false =>
      rw [entry, EntryView.own_register turn.source factory] at own
      rw [entry, EntryView.hasUnsavedOwn_register turn.source factory]
      exact h.owned visible own beside

/-- A bundle that can wait can do so without a version whose directory is gone, or which cannot be read. -/
theorem Calm.drop (h : b.Calm fs config) (turn : Turn config done pass)
    (known : b.entry.locality.contains pass.loc = true)
    (lost : b.entry.locality.isHidden = true → b.dirName ∉ bundleDirs fs pass.root) :
    (TableView.dropRow b pass.loc).Calm fs config := by
  have hidden : (TableView.dropRow b pass.loc).entry.locality.isHidden = b.entry.locality.isHidden :=
    EntryView.isHidden_dropVersions turn.source b.entry
  have fewer : (TableView.dropRow b pass.loc).entry.locality = b.entry.locality.without (b.entry.dropVersions pass.loc).2 := rfl
  constructor
  · intro veiled other member listed
    rw [hidden] at veiled
    have missing := lost veiled
    have behind : ¬ (pass.loc = { installed := true } ∧ other.loc = { pristine := true }) := by
      rintro ⟨installed, pristine⟩
      obtain rfl := Config.eq_of_loc_eq turn.mem_passes (show config.installedPass ∈ config.passes by simp [Config.passes]) installed
      obtain rfl := Config.eq_of_loc_eq member (show config.pristinePass ∈ config.passes by simp [Config.passes]) pristine
      exact missing (h.based veiled (by simpa [Locality.contains, Config.installedPass] using known) listed)
    have apart : other.loc ≠ pass.loc := by
      intro same
      obtain rfl := Config.eq_of_loc_eq member turn.mem_passes same
      exact missing listed
    exact (EntryView.contains_dropVersions turn.source (Config.source_of_mem_passes member) apart behind b.entry).trans
      (h.gained veiled other member listed)
  · intro veiled installed
    rw [fewer, Locality.without, Bool.and_eq_true] at installed
    exact h.based (hidden ▸ veiled) installed.1
  · intro visible pristine
    rw [fewer, Locality.without, Bool.and_eq_true] at pristine
    exact h.shadowed (hidden ▸ visible) pristine.1
  · intro visible own beside
    rw [fewer, Locality.without, Bool.and_eq_true] at own
    refine (h.owned (hidden ▸ visible) own.1 beside).imp_right fun unsaved => ?_
    cases factory : pass.loc.own with
    | true =>
      obtain rfl := turn.eq_ownPass factory
      simp [EntryView.dropVersions, Config.ownPass] at own
    | false => exact (EntryView.hasUnsavedOwn_dropVersions factory b.entry).trans unsaved

/-- A new bundle can wait. -/
theorem calm_new (turn : Turn config done pass) (listed : b.dirName ∈ bundleDirs fs pass.root)
    (entry : b.entry = (EntryView.new pass.loc d).identify d) : b.Calm fs config := by
  have visible : b.entry.locality.isHidden = false := by
    rw [entry]
    cases turn <;> rfl
  constructor
  · intro hidden
    rw [visible] at hidden
    cases hidden
  · intro hidden
    rw [visible] at hidden
    cases hidden
  · intro _ pristine
    rw [entry] at pristine
    cases turn with
    | pristine => exact fun _ => listed
    | _ => cases pristine
  · intro _ own
    rw [entry] at own
    cases turn with
    | own => exact fun _ => .inl listed
    | _ => cases own

/-- Nothing waits in a bundle that loses a version whose directory is gone. -/
theorem Calm.not_due_of_missing (h : b.Calm fs config) (turn : Turn config done pass)
    (known : b.entry.locality.contains pass.loc = true) (missing : b.dirName ∉ bundleDirs fs pass.root)
    (saved : ¬ (pass.loc = { own := true } ∧ b.entry.hasUnsavedOwn = true)) : ∀ before ∈ done, b.due fs before = false := by
  intro before member
  by_contra due
  obtain ⟨contains, visible, -, listed⟩ := due_iff.1 (Bool.not_eq_false _ ▸ due)
  cases turn with
  | installed => cases member
  | pristine =>
    obtain rfl := List.mem_singleton.1 member
    exact missing (h.shadowed visible (by simpa [Locality.contains, Config.pristinePass] using known) listed)
  | own =>
    have beside : b.dirName ∈ bundleDirs fs config.installedBundles ∨ b.dirName ∈ bundleDirs fs config.pristineBundles := by
      rcases List.mem_pair.1 member with rfl | rfl
      · exact .inl listed
      · exact .inr listed
    rcases h.owned visible (by simpa [Locality.contains, Config.ownPass] using known) beside with there | unsaved
    · exact missing there
    · exact saved ⟨rfl, unsaved⟩

/-- Nothing waits in a bundle whose manifest a pass cannot read. -/
theorem not_due_of_lost (turn : Turn config done pass)
    (plain : ¬ (pass.loc = { pristine := true } ∧ b.entry.locality.installed = true))
    (readable : pass.loc.own = true → b.dirName ∈ bundleDirs fs config.installedBundles ∨
      b.dirName ∈ bundleDirs fs config.pristineBundles → False) : ∀ before ∈ done, b.due fs before = false := by
  intro before member
  by_contra due
  obtain ⟨contains, visible, -, listed⟩ := due_iff.1 (Bool.not_eq_false _ ▸ due)
  cases turn with
  | installed => cases member
  | pristine =>
    obtain rfl := List.mem_singleton.1 member
    exact plain ⟨rfl, by simpa [Locality.contains, Config.installedPass] using contains⟩
  | own =>
    rcases List.mem_pair.1 member with rfl | rfl
    · exact readable rfl (.inl listed)
    · exact readable rfl (.inr listed)

/-- A new bundle is read by the pass that adds it. -/
theorem due_new (turn : Turn config done pass) (listed : b.dirName ∈ bundleDirs fs pass.root)
    (entry : b.entry = (EntryView.new pass.loc d).identify d) : b.due fs pass = true := by
  have flags : b.entry.locality = pass.loc := by
    rw [entry]
    cases turn <;> rfl
  have source := turn.source
  rw [due_iff, flags]
  generalize pass.loc = loc at source
  refine ⟨?_, ?_, ?_, listed⟩
  · cases source <;> decide
  · cases source <;> rfl
  · cases source <;> simp

/-- A new bundle has been read by no earlier pass. -/
theorem not_due_new (turn : Turn config done pass) (entry : b.entry = (EntryView.new pass.loc d).identify d) :
    ∀ before ∈ done, b.due fs before = false := by
  intro before member
  by_contra due
  obtain ⟨contains, -⟩ := due_iff.1 (Bool.not_eq_false _ ▸ due)
  rw [entry] at contains
  cases turn with
  | installed => cases member
  | pristine =>
    obtain rfl := List.mem_singleton.1 member
    cases contains
  | own => rcases List.mem_pair.1 member with rfl | rfl <;> cases contains

/-- Which directories earlier passes have read does not change when a version is dropped. -/
theorem due_dropRow (turn : Turn config done pass) (b : BundleView) :
    ∀ before ∈ done, (TableView.dropRow b pass.loc).due fs before = b.due fs before := by
  intro before member
  have hidden : (TableView.dropRow b pass.loc).entry.locality.isHidden = b.entry.locality.isHidden :=
    EntryView.isHidden_dropVersions turn.source b.entry
  have behind : ¬ (pass.loc = { installed := true } ∧ before.loc = { pristine := true }) := by
    rintro ⟨installed, -⟩
    cases turn with
    | installed => cases member
    | _ => cases installed
  have contains : (TableView.dropRow b pass.loc).entry.locality.contains before.loc = b.entry.locality.contains before.loc :=
    EntryView.contains_dropVersions turn.source (Config.source_of_mem_passes (turn.subset_passes member))
      (turn.factory_of_mem member).2 behind b.entry
  have installed : (before.loc = { pristine := true } && (TableView.dropRow b pass.loc).entry.locality.installed) =
      (before.loc = { pristine := true } && b.entry.locality.installed) := by
    cases turn with
    | installed => cases member
    | pristine =>
      obtain rfl := List.mem_singleton.1 member
      rfl
    | own =>
      rcases List.mem_pair.1 member with rfl | rfl
      · rfl
      · simp [TableView.dropRow, EntryView.dropVersions, Locality.without, Config.ownPass, RowView.entry, RowView.withEntry,
          RowView.release]
  unfold due
  rw [hidden, contains, installed]
  rfl

/-- A bundle that waits for nothing goes on so without a version. -/
theorem not_due_dropRow (turn : Turn config done pass) (idle : ∀ before ∈ done, b.due fs before = false) :
    ∀ before ∈ done ++ [pass], (TableView.dropRow b pass.loc).due fs before = false := by
  intro before member
  rcases List.mem_append.1 member with earlier | last
  · exact (due_dropRow turn b before earlier).trans (idle before earlier)
  · obtain rfl := List.mem_singleton.1 last
    have without : (TableView.dropRow b before.loc).entry.locality.contains before.loc = false :=
      EntryView.not_contains_dropVersions turn.source b.entry
    rw [due, without]
    rfl

/-- A bundle that is gone waits for nothing. -/
theorem not_due_tombstone (fs : FileSystem) (pass : Pass) :
    (RowView.ofEntry EntryView.tombstone : BundleView).due fs pass = false := by
  rw [due, show (RowView.ofEntry EntryView.tombstone : BundleView).entry.locality.isHidden = true from rfl]
  simp

theorem Calm.congr (h : b.Calm fs config) (entry : b'.entry = b.entry) (dirName : b'.dirName = b.dirName) : b'.Calm fs config := by
  constructor <;> rw [entry, dirName]
  · exact h.gained
  · exact h.based
  · exact h.shadowed
  · exact h.owned

end BundleView

/-! ## Names that can wait -/

/-- The bundle with a directory of some name can wait: there is one at most, and no manifest of the user's own that cannot be
read is put beside another version. -/
structure TableView.Calm (fs : FileSystem) (config : Config) (t : TableView BundleView) (dirName : String) : Prop where
  alone : ∀ id, t.Names id dirName → t.Alone id dirName
  readable : dirName ∈ bundleDirs fs config.installedBundles ∨ dirName ∈ bundleDirs fs config.pristineBundles →
    dirName ∈ bundleDirs fs config.ownBundles → Readable fs (Path.join config.ownBundles dirName)
  rows : ∀ id b, t.row? id = some b → b.dirName = dirName → b.Calm fs config

namespace CatalogView

variable {fs : FileSystem} {config : Config} {calm : String → Prop} {done : List Pass} {pass : Pass} {dirs dirs' : List String}
  {id : Nat} {ids : List Nat} {w : CatalogView} {deed : Deed} {d root : String} {loc : Locality}

/-- What is known in a pass of the bundles that can wait: they go on so, a directory that was taken is not that of a bundle which
has still to be visited, and manifests that could be read can be so. -/
structure Steady (fs : FileSystem) (config : Config) (calm : String → Prop) (pass : Pass) (dirs : List String) (ids : List Nat)
    (w : CatalogView) : Prop where
  able : ∀ d, calm d → w.bundles.Calm fs config d
  waiting : ∀ d, calm d → d ∈ bundleDirs fs pass.root → d ∉ dirs → ∀ id ∈ ids, ¬ w.bundles.Names id d
  manifest : ∀ d ∈ dirs, HasManifest pass.loc fs (Path.join pass.root d) → HasManifest pass.loc w.files (Path.join pass.root d)

/-- A bundle that can wait and is visited has its directory left for it. -/
theorem Steady.missing (h : Steady fs config calm pass dirs (id :: ids) w) {b : BundleView}
    (there : w.bundles.row? id = some b) (waits : calm b.dirName) (missing : b.dirName ∉ dirs) :
    b.dirName ∉ bundleDirs fs pass.root := fun listed =>
  h.waiting b.dirName waits listed missing id List.mem_cons_self ⟨ne_of_mem_bundleDirs listed, b, there, rfl⟩

/-- A directory that a visit takes is that of the bundle. -/
theorem Visit.exists_of_taken (visit : Visit w root loc dirs id dirs' deed) (member : d ∈ dirs) (taken : d ∉ dirs') :
    ∃ b, w.bundles.row? id = some b ∧ b.dirName = d := by
  have erased {b : BundleView} (there : w.bundles.row? id = some b) (taken : d ∉ dirs.erase b.dirName) :
      ∃ b, w.bundles.row? id = some b ∧ b.dirName = d := by
    refine ⟨b, there, ?_⟩
    by_contra apart
    exact taken ((List.mem_erase_of_ne (Ne.symm apart)).2 member)
  cases visit with
  | passed there => exact erased there taken
  | read there => exact erased there taken
  | _ => exact absurd member taken

/-- A bundle that can wait can do so after it was visited. -/
theorem Steady.row (h : Steady fs config calm pass dirs (id :: ids) w) (course : Course fs done pass dirs (id :: ids) w)
    (turn : Turn config done pass) (visit : Visit w pass.root pass.loc dirs id dirs' deed) {kinds : List ItemKind}
    {b' : BundleView} (found : (w.perform id pass.loc kinds deed).bundles.row? id = some b') (waits : calm b'.dirName) :
    b'.Calm fs config := by
  by_cases present : b'.dirName = ""
  · exact BundleView.calm_of_unlisted fun other _ listed => ne_of_mem_bundleDirs listed present
  have dropped {t : CatalogView} {b : BundleView} (there : t.bundles.row? id = some b) (same : t.bundles = w.bundles)
      (found : (t.bundles.drop id pass.loc).row? id = some b') (known : b.entry.locality.contains pass.loc = true)
      (lost : b.entry.locality.isHidden = true → b.dirName ∉ dirs) : b'.Calm fs config := by
    rcases TableView.row?_of_row?_drop found with ⟨apart, -⟩ | ⟨-, b₁, there₁, rfl | rfl⟩
    · exact absurd rfl apart
    · rw [there] at there₁
      cases there₁
      rw [same] at there
      refine ((h.able b.dirName waits).rows id b there rfl).drop turn known fun hidden => ?_
      exact h.missing there waits (lost hidden)
    · exact absurd rfl present
  have known {b : BundleView} (there : w.bundles.row? id = some b) (same : b'.dirName = b.dirName) : b.Calm fs config :=
    (h.able b'.dirName waits).rows id b there same.symm
  cases visit with
  | absent => exact known found rfl
  | unsaved => exact known found rfl
  | passed => exact known found rfl
  | @read b files identities reading there contains listed visible =>
    cases reading with
    | lost => exact dropped there rfl found contains fun hidden => by rw [visible] at hidden; cases hidden
    | kept =>
      change (w.bundles.modifyRow id _).row? id = some b' at found
      rw [TableView.row?_modifyRow, if_pos rfl, there] at found
      cases found
      exact (known there rfl).congr rfl rfl
    | renewed manifest =>
      change ((w.bundles.register id manifest pass.loc).modifyRow id _).row? id = some b' at found
      rw [TableView.row?_modifyRow, if_pos rfl, TableView.row?_register, if_pos rfl, there] at found
      cases found
      exact (known there rfl).register turn visible (course.under.listed listed) manifest rfl rfl
  | gone there contains missing => exact dropped there rfl found contains fun _ => missing

/-- What is known of the bundles that can wait holds after a visit. -/
theorem Steady.visit (h : Steady fs config calm pass dirs (id :: ids) w) (course : Course fs done pass dirs (id :: ids) w)
    (turn : Turn config done pass) (visit : Visit w pass.root pass.loc dirs id dirs' deed) (kinds : List ItemKind) :
    Steady fs config calm pass dirs' ids (w.perform id pass.loc kinds deed) := by
  have names {other : Nat} {d : String} (named : (w.perform id pass.loc kinds deed).bundles.Names other d) :
      w.bundles.Names other d := by
    obtain ⟨present, b', found, rfl⟩ := named
    rcases row?_of_row?_perform found with ⟨-, there⟩ | ⟨rfl, b, there, becomes, -⟩
    · exact ⟨present, b', there, rfl⟩
    · exact ⟨present, b, there, (becomes.dirName.resolve_right present).symm⟩
  constructor
  · intro d waits
    refine ⟨fun other named other' named' => (h.able d waits).alone other (names named) other' (names named'),
      (h.able d waits).readable, ?_⟩
    rintro other b' found rfl
    rcases row?_of_row?_perform found with ⟨-, there⟩ | ⟨rfl, -⟩
    · exact (h.able _ waits).rows other b' there rfl
    · exact h.row course turn visit found waits
  · intro d waits listed taken other member named
    by_cases left : d ∈ dirs
    · obtain ⟨b, there, same⟩ := visit.exists_of_taken left taken
      have equal := (h.able d waits).alone id ⟨ne_of_mem_bundleDirs listed, b, there, same⟩ other (names named)
      exact Nat.lt_irrefl _ (equal ▸ (List.pairwise_cons.1 course.ordered).1 other member)
    · exact h.waiting d waits listed left other (List.mem_cons_of_mem id member) (names named)
  · exact fun d member manifest =>
      (visit.under course.under kinds).2 d member (h.manifest d (visit.subset.subset member) manifest)

/-- Where a directory is left that a bundle of its name can wait for, the bundle is not hidden. -/
theorem Steady.visible (h : Steady fs config calm pass (d :: dirs) [] w) (course : Course fs done pass (d :: dirs) [] w)
    (turn : Turn config done pass) (waits : calm d) {b : BundleView} (there : w.bundles.row? id = some b) (named : b.dirName = d) :
    b.entry.locality.isHidden = false := by
  subst named
  by_contra hidden
  have listed := course.under.listed List.mem_cons_self
  have contains := ((h.able _ waits).rows id b there rfl).gained (Bool.not_eq_false _ ▸ hidden) pass turn.mem_passes listed
  rw [course.free id List.not_mem_nil b there List.mem_cons_self] at contains
  cases contains

/-- What is known of the bundles that can wait holds after a bundle was added. -/
theorem Steady.addition (h : Steady fs config calm pass (d :: dirs) [] w) (course : Course fs done pass (d :: dirs) [] w)
    (turn : Turn config done pass) {made : Option (FileSystem × Identities × Document)}
    (wrote : ∀ m ∈ made, m.1 = w.files ∨ pass.loc.own = true ∧ m.1 =
      (w.makeManifest (Path.join pass.root d) d ((w.findDir? d).bind w.factoryManifest?)).1.files)
    (kinds : List ItemKind) : Steady fs config calm pass dirs [] (w.accept pass.root pass.loc kinds d (w.findDir? d) made) := by
  cases made with
  | none =>
    exact ⟨h.able, fun _ _ _ _ _ member => absurd member List.not_mem_nil, fun n member =>
      h.manifest n (List.mem_cons_of_mem d member)⟩
  | some m =>
    have listed : d ∈ bundleDirs fs pass.root := course.under.listed List.mem_cons_self
    obtain ⟨target, place, rows⟩ := exists_row?_accept w pass.root pass.loc kinds d m
    -- a bundle with the name of the directory is the one to which the version is added
    have alone (waits : calm d) {other : Nat} (named : (w.accept pass.root pass.loc kinds d (w.findDir? d)
        (some m)).bundles.Names other d) : other = target := by
      obtain ⟨present, b', found, named⟩ := named
      by_contra apart
      rcases rows other b' found with ⟨-, there⟩ | ⟨same, -⟩
      · have visible := h.visible course turn waits there named
        rw [Locality.isHidden, Bool.or_eq_false_iff] at visible
        obtain ⟨id, existing⟩ := Option.ne_none_iff_exists'.1 (findDir?_ne_none there visible.2)
        rw [named] at existing
        obtain ⟨b, there', named'⟩ := findDir?_eq_some existing
        have same := (h.able d waits).alone id ⟨present, b, there', named'⟩ other ⟨present, b', there, named⟩
        exact apart (same.trans (place id existing))
      · exact apart same
    constructor
    · intro n waits
      refine ⟨fun other named other' named' => ?_, (h.able n waits).readable, ?_⟩
      · by_cases same : n = d
        · subst same
          exact (alone waits named').trans (alone waits named).symm
        · have names {other : Nat} (named : (w.accept pass.root pass.loc kinds d (w.findDir? d) (some m)).bundles.Names other n) :
              w.bundles.Names other n := by
            obtain ⟨present, b', found, rfl⟩ := named
            rcases rows other b' found with ⟨-, there⟩ | ⟨-, named, -⟩
            · exact ⟨present, b', there, rfl⟩
            · exact absurd named same
          exact (h.able n waits).alone other (names named) other' (names named')
      · rintro other b' found rfl
        rcases rows other b' found with ⟨-, there⟩ | ⟨rfl, named, ⟨b, there, dirName, entry⟩ | entry⟩
        · exact (h.able _ waits).rows other b' there rfl
        · rw [named] at waits
          exact ((h.able d waits).rows other b there dirName).register turn (h.visible course turn waits there dirName)
            (dirName ▸ listed) m.2.2 entry (named.trans dirName.symm)
        · exact BundleView.calm_new turn (named ▸ listed) entry
    · exact fun _ _ _ _ _ member => absurd member List.not_mem_nil
    · intro n member manifest
      have under := course.under.write listed (wrote m rfl) (List.sublist_cons_self d dirs)
        (files_accept w pass.root pass.loc kinds d (w.findDir? d) m)
      refine under.2 n (under.1.listed member) ?_ (h.manifest n (List.mem_cons_of_mem d member) manifest)
      rintro rfl
      exact (List.nodup_cons.1 course.under.single).1 member

end CatalogView
end EditorBundles.Catalog
