import EditorBundles.Proofs.Catalog.LaterItems

/-!
# The course of a pass

A pass leaves each version at its locality with a directory that no bundle before it has, or as one of the user's own that no file
holds yet. This holds of what the pass has gone over, step by step, and no other pass changes it. So a later pass over the
same directories finds every version where it is, and takes none away.
-/

namespace EditorBundles.Catalog
set_option autoImplicit false
open PropertyList

theorem Config.source_of_mem_passes {config : Config} {pass : Pass} (member : pass ∈ config.passes) : pass.loc.IsSource := by
  simp only [Config.passes, List.mem_cons, List.not_mem_nil, or_false] at member
  rcases member with rfl | rfl | rfl
  · exact .installed
  · exact .pristine
  · exact .own

/-- There is one pass for each locality. -/
theorem Config.eq_of_loc_eq {config : Config} {first second : Pass} (member : first ∈ config.passes)
    (member' : second ∈ config.passes) (same : first.loc = second.loc) : first = second := by
  simp only [Config.passes, List.mem_cons, List.not_mem_nil, or_false] at member member'
  rcases member with rfl | rfl | rfl <;> rcases member' with rfl | rfl | rfl <;> first | rfl | cases same

namespace Turn

variable {config : Config} {done : List Pass} {pass other : Pass}

theorem mem_passes (turn : Turn config done pass) : pass ∈ config.passes := by
  cases turn <;> simp [Config.passes]

theorem subset_passes (turn : Turn config done pass) : done ⊆ config.passes := by
  cases turn <;> simp [Config.passes]

theorem source (turn : Turn config done pass) : pass.loc.IsSource := Config.source_of_mem_passes turn.mem_passes

/-- The passes before another one are over factory versions, and not over those of the same locality. -/
theorem factory_of_mem (turn : Turn config done pass) (member : other ∈ done) : other.loc.own = false ∧ other.loc ≠ pass.loc := by
  cases turn with
  | installed => cases member
  | pristine =>
    obtain rfl := List.mem_singleton.1 member
    exact ⟨rfl, (by decide : ({ installed := true } : Locality) ≠ { pristine := true })⟩
  | own =>
    rcases List.mem_pair.1 member with rfl | rfl
    · exact ⟨rfl, (by decide : ({ installed := true } : Locality) ≠ { own := true })⟩
    · exact ⟨rfl, (by decide : ({ pristine := true } : Locality) ≠ { own := true })⟩

theorem eq_ownPass (turn : Turn config done pass) (own : pass.loc.own = true) : pass = config.ownPass := by
  cases turn with
  | own => rfl
  | _ => cases own

end Turn

/-! ## What becomes of a bundle -/

namespace BundleView

variable {loc other : Locality} {b b' : BundleView}

/-- What one step of a pass makes of a bundle: it is brought in line, or loses the version. -/
inductive Becomes (loc : Locality) (b : BundleView) : BundleView → Prop where
  | brought {e : EntryView} {items : PerKind (TableView EntryView)} (same : e = b.entry ∨ ∃ d, e = b.entry.register d loc) :
    Becomes loc b { entry := e, dirName := b.dirName, items }
  | dropped : Becomes loc b (TableView.dropRow b loc)
  | gone : Becomes loc b (RowView.ofEntry EntryView.tombstone)

theorem Becomes.refl (loc : Locality) (b : BundleView) : Becomes loc b b :=
  show Becomes loc b { entry := b.entry, dirName := b.dirName, items := b.items } from .brought (.inl rfl)

theorem Becomes.dirName (h : Becomes loc b b') : b'.dirName = b.dirName ∨ b'.dirName = "" := by
  cases h with
  | brought => exact .inl rfl
  | dropped => exact .inl rfl
  | gone => exact .inr rfl

/-- A bundle that was brought in line at a locality has no other version that is new. -/
theorem Becomes.contains (h : Becomes loc b b') (source : loc.IsSource) (source' : other.IsSource)
    (known : other = loc → b.entry.locality.contains loc = true) (contains : b'.entry.locality.contains other = true) :
    b.entry.locality.contains other = true ∧ b'.dirName = b.dirName := by
  cases h with
  | @brought e items same =>
    refine ⟨?_, rfl⟩
    rcases same with rfl | ⟨d, rfl⟩
    · exact contains
    · by_cases equal : other = loc
      · exact equal ▸ known equal
      · rw [show ({ entry := b.entry.register d loc, dirName := b.dirName, items } : BundleView).entry = _ from rfl,
          EntryView.locality_register] at contains
        cases source <;> cases source' <;> first | exact absurd rfl equal | simpa [Locality.union, Locality.contains] using contains
  | dropped =>
    refine ⟨?_, rfl⟩
    have left : ((b.entry.dropVersions loc).1.locality).contains other = true := contains
    cases source' <;> simp [EntryView.dropVersions, Locality.without, Locality.contains] at left ⊢ <;> exact left.1
  | gone => cases source' <;> cases contains

end BundleView

namespace CatalogView

variable {fs : FileSystem} {v w w' : CatalogView} {root bundleDir dirName : String} {loc : Locality} {kinds : List ItemKind}
  {dirs dirs' : List String} {id other : Nat} {ids : List Nat} {b b' : BundleView} {deed : Deed} {config : Config}
  {done : List Pass} {pass : Pass}

theorem files_perform (w : CatalogView) (id : Nat) (loc : Locality) (kinds : List ItemKind) (bundleDir : String)
    (files : FileSystem) (identities : Identities) (reading : Reading) :
    (w.perform id loc kinds (.take bundleDir files identities reading)).files = files := by
  cases reading <;> rfl

/-- What is in the rows once a deed is done. -/
theorem row?_of_row?_perform (found : (w.perform id loc kinds deed).bundles.row? other = some b') :
    other ≠ id ∧ w.bundles.row? other = some b' ∨
      other = id ∧ ∃ b, w.bundles.row? id = some b ∧ b.Becomes loc b' ∧
        ((∀ dir files identities, deed ≠ .take dir files identities .lost) → b'.dirName = b.dirName) := by
  have changed {change : BundleView → BundleView} (found : (w.bundles.modifyRow id change).row? other = some b')
      (becomes : ∀ b : BundleView, b.Becomes loc (change b)) (same : ∀ b, (change b).dirName = b.dirName) :
      other ≠ id ∧ w.bundles.row? other = some b' ∨
        other = id ∧ ∃ b, w.bundles.row? id = some b ∧ b.Becomes loc b' ∧
          ((∀ dir files identities, deed ≠ .take dir files identities .lost) → b'.dirName = b.dirName) := by
    rw [TableView.row?_modifyRow] at found
    split at found
    · next here =>
      subst here
      obtain ⟨b, there, rfl⟩ := Option.map_eq_some_iff.1 found
      exact .inr ⟨rfl, b, there, becomes b, fun _ => same b⟩
    · next apart => exact .inl ⟨Ne.symm apart, found⟩
  cases deed with
  | leave =>
    by_cases here : other = id
    · subst here
      exact .inr ⟨rfl, b', found, .refl loc b', fun _ => rfl⟩
    · exact .inl ⟨here, found⟩
  | take bundleDir files identities reading =>
    cases reading with
    | kept => exact changed found (fun b => .brought (.inl rfl)) fun _ => rfl
    | renewed manifest =>
      change ((w.bundles.register id manifest loc).modifyRow id _).row? other = some b' at found
      rw [TableView.row?_modifyRow, TableView.row?_register] at found
      split at found
      · next here =>
        subst here
        obtain ⟨b₁, registered, rfl⟩ := Option.map_eq_some_iff.1 found
        obtain ⟨b, there, rfl⟩ := Option.map_eq_some_iff.1 registered
        exact .inr ⟨rfl, b, there, .brought (.inr ⟨manifest, rfl⟩), fun _ => rfl⟩
      · next apart => exact .inl ⟨Ne.symm apart, found⟩
    | lost =>
      rcases TableView.row?_of_row?_drop found with ⟨apart, there⟩ | ⟨rfl, b, there, rfl | rfl⟩
      · exact .inl ⟨apart, there⟩
      · exact .inr ⟨rfl, b, there, .dropped, fun kept => absurd rfl (kept _ _ _)⟩
      · exact .inr ⟨rfl, b, there, .gone, fun kept => absurd rfl (kept _ _ _)⟩

/-- Where a bundle is added, and what is in the rows then: what was there, the bundle that has the directory with another
version, or a new bundle. -/
theorem exists_row?_accept (w : CatalogView) (root : String) (loc : Locality) (kinds : List ItemKind) (dirName : String)
    (m : FileSystem × Identities × Document) : ∃ target, (∀ id ∈ w.findDir? dirName, id = target) ∧ ∀ other b',
      (w.accept root loc kinds dirName (w.findDir? dirName) (some m)).bundles.row? other = some b' →
        other ≠ target ∧ w.bundles.row? other = some b' ∨ other = target ∧ b'.dirName = dirName ∧
          ((∃ b, w.bundles.row? target = some b ∧ b.dirName = dirName ∧ b'.entry = b.entry.register m.2.2 loc) ∨
            b'.entry = (EntryView.new loc m.2.2).identify m.2.2) := by
  obtain ⟨files, identities, manifest⟩ := m
  cases existing : w.findDir? dirName with
  | some id =>
    refine ⟨id, fun _ same => (Option.some.inj same).symm, fun other b' found => ?_⟩
    change ((w.bundles.register id manifest loc).modifyRow id _).row? other = some b' at found
    rw [TableView.row?_modifyRow, TableView.row?_register] at found
    obtain ⟨b, there, named⟩ := findDir?_eq_some existing
    split at found
    · next here =>
      subst here
      obtain ⟨b₁, registered, rfl⟩ := Option.map_eq_some_iff.1 found
      rw [there] at registered
      cases registered
      exact .inr ⟨rfl, named, .inl ⟨b, there, named, rfl⟩⟩
    · next apart => exact .inl ⟨Ne.symm apart, found⟩
  | none =>
    refine ⟨(w.bundles.insert manifest loc).2, fun _ same => (by cases same), fun other b' found => ?_⟩
    change (((w.bundles.insert manifest loc).1.modifyRow (w.bundles.insert manifest loc).2
      fun b => { b with dirName }).modifyRow (w.bundles.insert manifest loc).2 _).row? other = some b' at found
    rw [TableView.row?_modifyRow, TableView.row?_modifyRow, (w.bundles.row?_insert manifest loc).1] at found
    split at found
    · next here =>
      cases found
      exact .inr ⟨here.symm, rfl, .inr rfl⟩
    · next apart => exact .inl ⟨Ne.symm apart, found⟩

theorem files_accept (w : CatalogView) (root : String) (loc : Locality) (kinds : List ItemKind) (dirName : String)
    (existing : Option Nat) (m : FileSystem × Identities × Document) :
    (w.accept root loc kinds dirName existing (some m)).files = m.1 := by
  cases existing <;> rfl

/-! ## Versions that stay -/

/-- Every bundle with a version at a locality had it before, in the same directory. -/
def Shrinks (loc : Locality) (t t' : TableView BundleView) : Prop :=
  ∀ id b', t'.row? id = some b' → b'.entry.locality.contains loc = true →
    ∃ b, t.row? id = some b ∧ b.entry.locality.contains loc = true ∧ b'.dirName = b.dirName

/-- Every version at the locality of a pass has a directory that no bundle before it has, or is one of the user's own that no
file holds yet. -/
def InPlace (fs : FileSystem) (pass : Pass) (t : TableView BundleView) : Prop :=
  ∀ id b, t.row? id = some b → b.entry.locality.contains pass.loc = true →
    pass.loc = { own := true } ∧ b.entry.hasUnsavedOwn = true ∨
      b.dirName ∈ bundleDirs fs pass.root ∧
        ∀ other < id, ∀ b₁, t.row? other = some b₁ → b₁.entry.locality.contains pass.loc = true → b₁.dirName ≠ b.dirName

theorem InPlace.shrink {t t' : TableView BundleView} (h : InPlace fs pass t) (factory : pass.loc.own = false)
    (shrinks : Shrinks pass.loc t t') : InPlace fs pass t' := by
  intro id b' found contains
  obtain ⟨b, there, contains, same⟩ := shrinks id b' found contains
  rcases h id b there contains with ⟨own, -⟩ | ⟨listed, apart⟩
  · rw [own] at factory
    cases factory
  · refine .inr ⟨same ▸ listed, fun other before b₁ found₁ contains₁ => ?_⟩
    obtain ⟨b₂, there₂, contains₂, same₂⟩ := shrinks other b₁ found₁ contains₁
    rw [same, same₂]
    exact apart other before b₂ there₂ contains₂

/-- A bundle that a pass visits has the version, or it is left. -/
theorem Visit.contains (visit : Visit w root loc dirs id dirs' deed) (there : w.bundles.row? id = some b) :
    b.entry.locality.contains loc = true ∨ deed = .leave ∧ dirs' = dirs := by
  have same {b₁ : BundleView} (there₁ : w.bundles.row? id = some b₁) (contains : b₁.entry.locality.contains loc = true) :
      b.entry.locality.contains loc = true := by
    rw [there] at there₁
    cases there₁
    exact contains
  cases visit with
  | absent => exact .inr ⟨rfl, rfl⟩
  | unsaved there₁ contains => exact .inl (same there₁ contains)
  | passed there₁ contains => exact .inl (same there₁ contains)
  | read there₁ contains => exact .inl (same there₁ contains)
  | gone there₁ contains => exact .inl (same there₁ contains)

theorem Visit.shrinks (visit : Visit w root loc dirs id dirs' deed) (source : loc.IsSource) {loc' : Locality}
    (source' : loc'.IsSource) (kinds : List ItemKind) : Shrinks loc' w.bundles (w.perform id loc kinds deed).bundles := by
  intro other b' found contains
  rcases row?_of_row?_perform found with ⟨-, there⟩ | ⟨rfl, b, there, becomes, -⟩
  · exact ⟨b', there, contains, rfl⟩
  · rcases visit.contains there with known | ⟨rfl, -⟩
    · obtain ⟨contains, same⟩ := becomes.contains source source' (fun _ => known) contains
      exact ⟨b, there, contains, same⟩
    · exact ⟨b', found, contains, rfl⟩

/-- A bundle that is added gets a version at the locality of the pass, and no bundle gets another one. -/
theorem shrinks_accept {m : FileSystem × Identities × Document} {loc' : Locality} (source : loc.IsSource)
    (source' : loc'.IsSource) (apart : loc' ≠ loc) :
    Shrinks loc' w.bundles (w.accept root loc kinds dirName (w.findDir? dirName) (some m)).bundles := by
  intro other b' found contains
  obtain ⟨target, -, rows⟩ := exists_row?_accept w root loc kinds dirName m
  rcases rows other b' found with ⟨-, there⟩ | ⟨rfl, named, ⟨b, there, dirName, entry⟩ | entry⟩
  · exact ⟨b', there, contains, rfl⟩
  · refine ⟨b, there, ?_, named.trans dirName.symm⟩
    rw [entry, EntryView.locality_register] at contains
    cases source <;> cases source' <;> first | exact absurd rfl apart | simpa [Locality.union, Locality.contains] using contains
  · rw [entry] at contains
    cases source <;> cases source' <;> first | exact absurd rfl apart | cases contains

/-! ## Steps -/

/-- What is known in a pass, with the directories and the bundles that are left: a directory that is left is none of those that
bundles with the version have which the pass has gone over, and these are where a later pass finds them. -/
structure Course (fs : FileSystem) (done : List Pass) (pass : Pass) (dirs : List String) (ids : List Nat)
    (w : CatalogView) : Prop where
  under : Underway fs pass.root pass.loc w dirs
  ordered : ids.Pairwise (· < ·)
  free : ∀ id ∉ ids, ∀ b, w.bundles.row? id = some b → b.dirName ∈ dirs → b.entry.locality.contains pass.loc = false
  inPlace : ∀ id ∉ ids, ∀ b, w.bundles.row? id = some b → b.entry.locality.contains pass.loc = true →
    pass.loc = { own := true } ∧ b.entry.hasUnsavedOwn = true ∨
      b.dirName ∈ bundleDirs fs pass.root ∧ b.dirName ∉ dirs ∧
        ∀ other < id, ∀ b₁, w.bundles.row? other = some b₁ → b₁.entry.locality.contains pass.loc = true →
          b₁.dirName ≠ b.dirName
  past : ∀ before ∈ done, InPlace fs before w.bundles

/-- The directories of a pass go on without that of the bundle that was visited. -/
theorem Visit.subset (visit : Visit w root loc dirs id dirs' deed) : dirs'.Sublist dirs := by
  cases visit with
  | passed => exact List.erase_sublist
  | read => exact List.erase_sublist
  | _ => exact .refl dirs

/-- Only where a manifest is made is anything written, to the directory of the bundle. -/
theorem Visit.under (visit : Visit w root loc dirs id dirs' deed) (under : Underway fs root loc w dirs) (kinds : List ItemKind) :
    Underway fs root loc (w.perform id loc kinds deed) dirs' ∧ ∀ other ∈ dirs',
      HasManifest loc w.files (Path.join root other) →
        HasManifest loc (w.perform id loc kinds deed).files (Path.join root other) := by
  have fewer := visit.subset
  cases visit with
  | absent => exact ⟨under, fun _ _ manifest => manifest⟩
  | unsaved => exact ⟨under, fun _ _ manifest => manifest⟩
  | passed => exact ⟨under.subset fewer, fun _ _ manifest => manifest⟩
  | @read b files identities reading there contains listed visible plain wrote lost =>
    obtain ⟨under', manifests⟩ := under.write (under.listed listed) wrote fewer
      (files_perform w id loc kinds (Path.join root b.dirName) files identities reading)
    refine ⟨under', fun other member => manifests other (under'.listed member) ?_⟩
    rintro rfl
    exact List.Nodup.not_mem_erase under.single member
  | gone => exact ⟨⟨under.regular, under.alike, under.factory, under.listed, under.single⟩, fun _ _ manifest => manifest⟩

/-- The directory of a bundle that was visited is left for no other one. -/
theorem Visit.claims (visit : Visit w root loc dirs id dirs' deed) (single : dirs.Nodup) (there : w.bundles.row? id = some b) :
    b.entry.locality.contains loc = false ∨ b.dirName ∉ dirs' := by
  have same {b₁ : BundleView} (there₁ : w.bundles.row? id = some b₁) : b₁ = b := Option.some.inj (there₁.symm.trans there)
  cases visit with
  | absent without => exact .inl (without b there)
  | unsaved there₁ contains missing => exact .inr (same there₁ ▸ missing)
  | passed there₁ => exact .inr (same there₁ ▸ List.Nodup.not_mem_erase single)
  | read there₁ => exact .inr (same there₁ ▸ List.Nodup.not_mem_erase single)
  | gone there₁ contains missing => exact .inr (same there₁ ▸ missing)

/-- No version is left where one was dropped. -/
theorem not_contains_drop (source : loc.IsSource) (found : (w.bundles.drop id loc).row? id = some b') :
    b'.entry.locality.contains loc = false := by
  rcases TableView.row?_of_row?_drop found with ⟨apart, -⟩ | ⟨-, b, -, rfl | rfl⟩
  · exact absurd rfl apart
  · exact EntryView.not_contains_dropVersions source b.entry
  · cases source <;> rfl

/-- A version that a visit leaves is in a directory of the pass, or no file holds it yet. -/
theorem Visit.inPlace (visit : Visit w root loc dirs id dirs' deed) (source : loc.IsSource) {kinds : List ItemKind}
    (found : (w.perform id loc kinds deed).bundles.row? id = some b')
    (contains : b'.entry.locality.contains loc = true) :
    loc = { own := true } ∧ b'.entry.hasUnsavedOwn = true ∨ b'.dirName ∈ dirs := by
  have lost {t : CatalogView} (found : (t.bundles.drop id loc).row? id = some b') : False := by
    rw [not_contains_drop source found] at contains
    cases contains
  cases visit with
  | absent without =>
    rw [without b' found] at contains
    cases contains
  | unsaved there _ missing own unsaved =>
    rw [show w.bundles.row? id = some b' from found] at there
    cases there
    exact .inl ⟨own, unsaved⟩
  | passed there _ listed =>
    rw [show w.bundles.row? id = some b' from found] at there
    cases there
    exact .inr listed
  | @read b files identities reading there _ listed =>
    cases kept : reading with
    | lost =>
      subst kept
      exact absurd found lost
    | _ =>
      rcases row?_of_row?_perform found with ⟨apart, -⟩ | ⟨-, b₁, there₁, -, same⟩
      · exact absurd rfl apart
      · rw [there] at there₁
        cases there₁
        exact .inr (same (fun _ _ _ deed => by cases deed; cases kept) ▸ listed)
  | gone => exact absurd found lost

variable {d : String}

/-- What is known in a pass holds after a visit. -/
theorem Course.visit (h : Course fs done pass dirs (id :: ids) w) (turn : Turn config done pass)
    (visit : Visit w pass.root pass.loc dirs id dirs' deed) (kinds : List ItemKind) :
    Course fs done pass dirs' ids (w.perform id pass.loc kinds deed) := by
  have source := turn.source
  obtain ⟨after, ordered⟩ := List.pairwise_cons.1 h.ordered
  have subset := visit.subset.subset
  have shrinks := visit.shrinks source source kinds
  -- whatever comes before the bundle has been gone over
  have behind {other : Nat} (before : other < id) : other ∉ id :: ids := by
    intro member
    rcases List.mem_cons.1 member with rfl | later
    · exact Nat.lt_irrefl _ before
    · exact Nat.lt_asymm before (after other later)
  constructor
  · exact (visit.under h.under kinds).1
  · exact ordered
  · intro other absent b' found listed
    rcases row?_of_row?_perform found with ⟨apart, there⟩ | ⟨rfl, b, there, becomes, -⟩
    · exact h.free other (fun member => absent ((List.mem_cons.1 member).resolve_left apart)) b' there (subset listed)
    · have present : b'.dirName ≠ "" := ne_of_mem_bundleDirs (h.under.listed (subset listed))
      have same := becomes.dirName.resolve_right present
      rcases visit.claims h.under.single there with without | claimed
      · by_contra contains
        obtain ⟨b₁, there₁, contains₁, -⟩ := shrinks other b' found (Bool.not_eq_false _ ▸ contains)
        rw [there] at there₁
        cases there₁
        rw [without] at contains₁
        cases contains₁
      · exact absurd (same ▸ listed) claimed
  · intro other absent b' found contains
    rcases row?_of_row?_perform found with ⟨apart, there⟩ | ⟨rfl, b, there, becomes, -⟩
    · rcases h.inPlace other (fun member => absent ((List.mem_cons.1 member).resolve_left apart)) b' there contains with
        unsaved | ⟨listed, gone, alone⟩
      · exact .inl unsaved
      · refine .inr ⟨listed, fun member => gone (subset member), fun earlier before b₁ found₁ contains₁ => ?_⟩
        obtain ⟨b₂, there₂, contains₂, same₂⟩ := shrinks earlier b₁ found₁ contains₁
        exact same₂ ▸ alone earlier before b₂ there₂ contains₂
    · refine (visit.inPlace source found contains).imp_right fun listed => ?_
      obtain ⟨b₁, there₁, contains₁, same⟩ := shrinks other b' found contains
      rw [there] at there₁
      cases there₁
      refine ⟨h.under.listed listed, fun left => ?_, fun earlier before b₂ found₂ contains₂ named => ?_⟩
      · rcases visit.claims h.under.single there with without | claimed
        · rw [without] at contains₁
          cases contains₁
        · exact claimed (same ▸ left)
      · obtain ⟨b₃, there₃, contains₃, same₃⟩ := shrinks earlier b₂ found₂ contains₂
        have free := h.free earlier (behind before) b₃ there₃ (same₃ ▸ named ▸ listed)
        rw [contains₃] at free
        cases free
  · exact fun before member => (h.past before member).shrink (turn.factory_of_mem member).1
      (visit.shrinks source (Config.source_of_mem_passes (turn.subset_passes member)) kinds)

/-- What is known in a pass holds after a directory was looked at in which no bundle was. -/
theorem Course.addition (h : Course fs done pass (d :: dirs) [] w) (turn : Turn config done pass)
    {made : Option (FileSystem × Identities × Document)}
    (wrote : ∀ m ∈ made, m.1 = w.files ∨ pass.loc.own = true ∧ m.1 =
      (w.makeManifest (Path.join pass.root d) d ((w.findDir? d).bind w.factoryManifest?)).1.files)
    (kinds : List ItemKind) : Course fs done pass dirs [] (w.accept pass.root pass.loc kinds d (w.findDir? d) made) := by
  obtain ⟨fresh, single⟩ := List.nodup_cons.1 h.under.single
  have fewer := List.sublist_cons_self d dirs
  cases made with
  | none =>
    refine ⟨h.under.subset fewer, .nil, fun id absent b found listed => ?_, fun id absent b found contains => ?_, h.past⟩
    · exact h.free id absent b found (List.mem_cons_of_mem d listed)
    · refine (h.inPlace id absent b found contains).imp_right fun ⟨listed, gone, alone⟩ => ⟨listed, ?_, alone⟩
      exact fun member => gone (List.mem_cons_of_mem d member)
  | some m =>
    have listed : d ∈ bundleDirs fs pass.root := h.under.listed List.mem_cons_self
    obtain ⟨target, -, rows⟩ := exists_row?_accept w pass.root pass.loc kinds d m
    constructor
    · exact (h.under.write listed (wrote m rfl) fewer (files_accept w pass.root pass.loc kinds d _ m)).1
    · exact .nil
    · intro id absent b found left
      rcases rows id b found with ⟨-, there⟩ | ⟨-, named, -⟩
      · exact h.free id absent b there (List.mem_cons_of_mem d left)
      · exact absurd (named ▸ left) fresh
    · intro id absent b found contains
      rcases rows id b found with ⟨-, there⟩ | ⟨rfl, named, -⟩
      · refine (h.inPlace id absent b there contains).imp_right fun ⟨listed, gone, alone⟩ =>
          ⟨listed, fun member => gone (List.mem_cons_of_mem d member), fun other before b₁ found₁ contains₁ => ?_⟩
        rcases rows other b₁ found₁ with ⟨-, there₁⟩ | ⟨-, named₁, -⟩
        · exact alone other before b₁ there₁ contains₁
        · exact fun same => gone (same ▸ named₁ ▸ List.mem_cons_self)
      · refine .inr ⟨named ▸ listed, fun left => fresh (named ▸ left), fun other before b₁ found₁ contains₁ same => ?_⟩
        rcases rows other b₁ found₁ with ⟨-, there₁⟩ | ⟨rfl, -⟩
        · have free := h.free other List.not_mem_nil b₁ there₁ (same.trans named ▸ List.mem_cons_self)
          rw [contains₁] at free
          cases free
        · exact Nat.lt_irrefl _ before
    · intro before member
      exact (h.past before member).shrink (turn.factory_of_mem member).1
        (shrinks_accept turn.source (Config.source_of_mem_passes (turn.subset_passes member)) (turn.factory_of_mem member).2)

end CatalogView
end EditorBundles.Catalog
