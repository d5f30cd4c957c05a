import EditorBundles.Proofs.Catalog.CatalogViewKeeping
import EditorBundles.Proofs.Catalog.LanguagePasses
import EditorBundles.Proofs.Catalog.RestoredBundles

/-!
# Scans in phases

A scan of the rest after a scan of the languages finds every version where it is, and takes none away. It reads the items of
each bundle that can wait in the directories in which the full scan has read them, in the same order.
-/

namespace EditorBundles.Catalog
set_option autoImplicit false
open PropertyList
open BundleView (Ahead)

namespace BundleView

variable {fs : FileSystem} {done done' : List Pass} {calm calm' : Prop} {b b₁ b₂ : BundleView}

/-- Two bundles have the same entry, the same directory and the same languages. -/
structure Resembles (b₁ b₂ : BundleView) : Prop where
  entry : b₁.entry = b₂.entry
  dirName : b₁.dirName = b₂.dirName
  languages : b₁.items.get .language = b₂.items.get .language

/-- Bundles next to a third one resemble each other, however far they have been read. -/
theorem Ahead.resembles (first : Ahead fs done calm b₁ b) (second : Ahead fs done' calm' b₂ b) : b₁.Resembles b₂ where
  entry := first.entry.trans second.entry.symm
  dirName := first.dirName.trans second.dirName.symm
  languages := (first.items .language (.inl rfl)).trans (second.items .language (.inl rfl)).symm

/-- Bundles next to a third one are the same if both have been read as far, and nothing is in the way. -/
theorem Ahead.eq (first : Ahead fs done calm b₁ b) (second : Ahead fs done calm b₂ b) (waits : calm) : b₁ = b₂ := by
  have entry := first.entry.trans second.entry.symm
  have dirName := first.dirName.trans second.dirName.symm
  have items : b₁.items = b₂.items :=
    PerKind.ext_get fun kind => (first.items kind (.inr waits)).trans (second.items kind (.inr waits)).symm
  cases b₁
  cases b₂
  congr

end BundleView

namespace CatalogView

variable {fs : FileSystem} {config : Config} {calm : String → Prop} {done : List Pass} {pass : Pass} {dirs : List String}
  {id : Nat} {ids : List Nat} {v w x : CatalogView}

/-! ## A pass of the rest -/

/-- What a pass of the rest does with a bundle whose version is where the pass looks for it. -/
theorem updateOne_rest {b : BundleView} (there : x.bundles.row? id = some b)
    (stays : b.entry.locality.contains pass.loc = true → pass.loc = { own := true } ∧ b.entry.hasUnsavedOwn = true ∨
      b.dirName ∈ dirs) : x.updateOne pass.root pass.loc .rest dirs id =
    (if b.entry.locality.contains pass.loc && !b.entry.locality.isHidden
        && !(pass.loc = { pristine := true } && b.entry.locality.installed) && dirs.contains b.dirName then
      x.syncItems (Path.join pass.root b.dirName) pass.loc id (ItemKind.all.filter ScanMode.rest.covers) else x,
    if b.entry.locality.contains pass.loc then dirs.erase b.dirName else dirs) := by
  rw [updateOne, there, Option.filter_some]
  cases contains : b.entry.locality.contains pass.loc with
  | false => rfl
  | true =>
    rw [if_pos rfl]
    dsimp only
    by_cases listed : b.dirName ∈ dirs
    · rw [List.contains_iff_mem.2 listed, if_pos rfl]
      cases b.entry.locality.isHidden <;>
        cases decide (pass.loc = { pristine := true }) && b.entry.locality.installed <;> rfl
    · obtain ⟨own, unsaved⟩ := (stays contains).resolve_right listed
      rw [if_neg (fun member => listed (List.contains_iff_mem.1 member)), if_pos (by simp [own, unsaved]),
        List.erase_of_not_mem listed, if_neg (by simp [listed])]
      rfl

/-- What is known in a pass of the rest, next to what the languages have left: the versions of the bundles that are left are
where the pass looks for them, and a directory of a bundle that can wait is there when its turn comes. -/
structure Following (fs : FileSystem) (calm : String → Prop) (done : List Pass) (pass : Pass) (dirs : List String)
    (ids : List Nat) (x w : CatalogView) : Prop where
  abreast : Abreast fs calm done pass ids x w
  ordered : ids.Pairwise (· < ·)
  listed : dirs ⊆ bundleDirs fs pass.root
  left : ∀ id ∈ ids, ∀ b, w.bundles.row? id = some b → b.entry.locality.contains pass.loc = true →
    pass.loc = { own := true } ∧ b.entry.hasUnsavedOwn = true ∨ b.dirName ∈ dirs
  waiting : ∀ d, calm d → d ∈ bundleDirs fs pass.root → d ∉ dirs → ∀ id ∈ ids, ¬ w.bundles.Names id d

/-- The directory of a bundle that can wait is left for it. -/
theorem Following.due (h : Following fs calm done pass dirs (id :: ids) x w) {b : BundleView}
    (there : w.bundles.row? id = some b) (waits : calm b.dirName) : b.due fs pass =
    (b.entry.locality.contains pass.loc && !b.entry.locality.isHidden
      && !(pass.loc = { pristine := true } && b.entry.locality.installed) && dirs.contains b.dirName) := by
  rw [BundleView.due]
  congr 1
  rw [Bool.eq_iff_iff, List.contains_iff_mem, List.contains_iff_mem]
  refine ⟨fun listed => ?_, fun left => h.listed left⟩
  by_contra missing
  exact h.waiting _ waits listed missing id List.mem_cons_self ⟨ne_of_mem_bundleDirs listed, b, there, rfl⟩

/-- What waits for a pass in one bundle is read by a pass of the rest. -/
theorem Following.readOne (h : Following fs calm done pass dirs (id :: ids) x w) (fresh : id ∉ ids) (alike : ScanAlike fs w.files)
    {b : BundleView} (there : w.bundles.row? id = some b) {read : Bool} (due : calm b.dirName → b.due fs pass = read) :
    Abreast fs calm done pass ids (if read then
      x.syncItems (Path.join pass.root b.dirName) pass.loc id (ItemKind.all.filter ScanMode.rest.covers) else x) w := by
  have files : x.files = w.files := by rw [h.abreast.same]
  cases read with
  | true =>
    refine ⟨?_, h.abreast.rows.modifyLeft (fun _ _ _ _ => ahead_of_ne) fun b₁ b₂ there₂ ahead => ?_⟩
    · rw [h.abreast.same]
      rfl
    · rw [there] at there₂
      cases there₂
      rw [if_pos List.mem_cons_self] at ahead
      rw [if_neg fresh]
      exact ahead.readLater (files ▸ alike) due
  | false =>
    refine ⟨h.abreast.same, h.abreast.rows.mono fun other b₁ b₂ there₂ ahead => ?_⟩
    by_cases here : other = id
    · subst here
      rw [there] at there₂
      cases there₂
      rw [if_pos List.mem_cons_self] at ahead
      rw [if_neg fresh]
      exact (BundleView.ahead_concat_iff due).2 ahead
    · exact ahead_of_ne here ahead

/-- A pass of the rest goes over one bundle. -/
theorem Following.updateOne (h : Following fs calm done pass dirs (id :: ids) x w)
    (level : Level fs config calm config.passes v w) (member : pass ∈ config.passes) :
    Following fs calm done pass (x.updateOne pass.root pass.loc .rest dirs id).2 ids
      (x.updateOne pass.root pass.loc .rest dirs id).1 w := by
  obtain ⟨after, ordered⟩ := List.pairwise_cons.1 h.ordered
  have fresh : id ∉ ids := fun later => Nat.lt_irrefl id (after id later)
  cases there : w.bundles.row? id with
  | none =>
    rw [CatalogView.updateOne, h.abreast.rows.row?_eq_none there]
    refine ⟨⟨h.abreast.same, h.abreast.rows.mono fun other b' b found => ahead_of_ne ?_⟩, ordered, h.listed, ?_, ?_⟩
    · rintro rfl
      rw [there] at found
      cases found
    · exact fun other later => h.left other (List.mem_cons_of_mem id later)
    · exact fun d waits listed missing other later => h.waiting d waits listed missing other (List.mem_cons_of_mem id later)
  | some b =>
    obtain ⟨b', found, ahead⟩ := h.abreast.rows.row? there
    have stays := h.left id List.mem_cons_self b there
    rw [← ahead.entry, ← ahead.dirName] at stays
    have read := h.readOne fresh level.alike there (h.due there)
    rw [updateOne_rest found stays, ahead.entry, ahead.dirName]
    dsimp only
    constructor
    · exact read
    · exact ordered
    · split
      · exact fun d kept => h.listed (List.mem_of_mem_erase kept)
      · exact h.listed
    · intro other later b₂ there₂ contains₂
      rcases level.past pass member other b₂ there₂ contains₂ with unsaved | ⟨-, apart⟩
      · exact .inl unsaved
      · refine (h.left other (List.mem_cons_of_mem id later) b₂ there₂ contains₂).imp_right fun left => ?_
        split
        · next contains => exact (List.mem_erase_of_ne (Ne.symm (apart id (after other later) b there contains))).2 left
        · exact left
    · intro d waits listed missing other later named
      by_cases left : d ∈ dirs
      · obtain rfl : d = b.dirName := by
          by_contra apart
          split at missing
          · exact missing ((List.mem_erase_of_ne apart).2 left)
          · exact missing left
        have same := (level.able _ waits).alone id ⟨ne_of_mem_bundleDirs listed, b, there, rfl⟩ other named
        exact fresh (same ▸ later)
      · exact h.waiting d waits listed left other (List.mem_cons_of_mem id later) named

theorem Following.updateKnown (h : Following fs calm done pass dirs ids x w)
    (level : Level fs config calm config.passes v w) (member : pass ∈ config.passes) :
    Following fs calm done pass (x.updateKnown pass.root pass.loc .rest dirs ids).2 []
      (x.updateKnown pass.root pass.loc .rest dirs ids).1 w := by
  induction ids generalizing x dirs with
  | nil => exact h
  | cons id ids ih =>
    rw [updateKnown_cons]
    exact ih (h.updateOne level member)

/-- A pass of the rest adds no bundle. -/
theorem addBundles_rest (x : CatalogView) (root : String) (loc : Locality) (dirs : List String) :
    x.addBundles root loc .rest dirs = x := by
  induction dirs with
  | nil => rfl
  | cons d dirs ih =>
    rw [CatalogView.addBundles]
    simpa using ih

/-- Before any pass, nothing has been read of what waits. -/
theorem Matched.refl : Matched fs calm [] w w :=
  ⟨rfl, TableView.beside_refl fun _ _ _ => BundleView.ahead_refl fun _ _ member => absurd member List.not_mem_nil⟩

/-- What waits for one more pass is read by a pass of the rest. -/
theorem Matched.updateBundles (h : Matched fs calm done x w) (level : Level fs config calm config.passes v w)
    (member : pass ∈ config.passes) : Matched fs calm (done ++ [pass]) (x.updateBundles pass.root pass.loc .rest) w := by
  have files : x.files = w.files := by rw [h.same]
  have size : x.bundles.size = w.bundles.size := h.rows.size
  have inside {id : Nat} {b : BundleView} (there : w.bundles.row? id = some b) : id ∈ List.range w.bundles.size :=
    List.mem_range.2 (TableView.lt_of_row? there)
  have start : Following fs calm done pass (bundleDirs fs pass.root) (List.range w.bundles.size) x w := by
    refine ⟨⟨h.same, h.rows.mono fun id b' b there ahead => ?_⟩, List.pairwise_lt_range, List.Subset.refl _, ?_, ?_⟩
    · rwa [if_pos (inside there)]
    · exact fun id _ b there contains => (level.past pass member id b there contains).imp_right And.left
    · exact fun d _ listed missing => absurd listed missing
  have ending := (start.updateKnown level member).abreast
  rw [updateBundles_eq x pass.root (Config.source_of_mem_passes member), addBundles_rest, files, size, ← level.alike.bundles]
  exact ⟨ending.same, ending.rows.mono fun _ _ _ _ ahead => by simpa using ahead⟩

/-! ## Whole scans -/

/-- The passes of a scan, one after the other. -/
def runPasses (v : CatalogView) (mode : ScanMode) (passes : List Pass) : CatalogView :=
  passes.foldl (fun v pass => v.updateBundles pass.root pass.loc mode) v

/-- A scan goes over the themes, and then pass by pass over the bundles. -/
theorem update_eq_runPasses (v : CatalogView) (mode : ScanMode) :
    let start := if mode = .rest then v
      else (v.updateThemes v.config.pristineThemes { pristine := true }).updateThemes v.config.ownThemes { own := true }
    let scanned := start.runPasses mode v.config.passes
    v.update mode = { (if mode = .languages then scanned else { scanned with complete := true, pending := none }) with
      dirty := true } := by
  intro start scanned
  have config : start.config = v.config := by
    dsimp only [start]
    split <;> rfl
  have installed := (start.changesBundles_updateBundles v.config.installedBundles { installed := true } mode).config
  have pristine := (changesBundles_updateBundles (start.updateBundles v.config.installedBundles { installed := true } mode)
    v.config.pristineBundles { pristine := true } mode).config
  rw [update]
  dsimp only
  rw [show (if mode = .rest then v else _) = start from rfl, config, installed, config, pristine, installed, config]
  rfl

/-- All passes of a full scan and of a scan of the languages. -/
theorem Level.runPasses (h : Level fs config calm [] v w) (files : w.files = fs) :
    Level fs config calm config.passes (v.runPasses .full config.passes) (w.runPasses .languages config.passes) := by
  obtain ⟨installed, same⟩ := h.updateBundles .installed files
  obtain ⟨pristine, same⟩ := installed.updateBundles .pristine (same rfl)
  exact (pristine.updateBundles .own (same rfl)).1

/-- All passes of the rest. -/
theorem Matched.runPasses (h : Matched fs calm [] x w) (level : Level fs config calm config.passes v w) :
    Matched fs calm config.passes (x.runPasses .rest config.passes) w := by
  have installed := h.updateBundles level (show config.installedPass ∈ config.passes by simp [Config.passes])
  have pristine := installed.updateBundles level (show config.pristinePass ∈ config.passes by simp [Config.passes])
  exact pristine.updateBundles level (show config.ownPass ∈ config.passes by simp [Config.passes])

/-- A full scan and a scan of the languages of the same catalog: the items that wait are all that the bundles differ in, and
the full scan says that nothing is left to do. -/
theorem level_update (v : CatalogView) (regular : v.files.Regular) :
    Level v.files v.config (v.bundles.Calm v.files v.config) v.config.passes
        { v.update .languages with bundles := (v.update .full).bundles } (v.update .languages) ∧
      v.update .full =
        { v.update .languages with bundles := (v.update .full).bundles, complete := true, pending := none } := by
  obtain ⟨start, begun⟩ : ∃ start, (v.updateThemes v.config.pristineThemes { pristine := true }).updateThemes v.config.ownThemes
    { own := true } = start := ⟨_, rfl⟩
  have full : v.update .full = { start.runPasses .full v.config.passes with complete := true, pending := none, dirty := true } :=
    begun ▸ update_eq_runPasses v .full
  have languages : v.update .languages = { start.runPasses .languages v.config.passes with dirty := true } :=
    begun ▸ update_eq_runPasses v .languages
  have beginning : Level v.files v.config (v.bundles.Calm v.files v.config) [] start start := by
    subst begun
    exact ⟨⟨rfl, Matched.refl.rows⟩, fun _ waits => waits, fun _ member => absurd member List.not_mem_nil, regular, .refl v.files⟩
  have scanned := beginning.runPasses (by subst begun; rfl)
  have same := scanned.same
  rw [full, languages]
  refine ⟨⟨⟨rfl, scanned.rows⟩, scanned.able, scanned.past, scanned.regular, scanned.alike⟩, ?_⟩
  exact congrArg (fun v : CatalogView => { v with complete := true, pending := none, dirty := true }) same

/-- A scan of the languages leaves bundles that resemble those of a full scan. After a scan of the rest, too, those that can
wait are the same, and so is all but the bundles. -/
theorem update_phases (v : CatalogView) (regular : v.files.Regular) :
    (v.update .languages).bundles.Beside (fun _ b' b => b'.Resembles b) (v.update .full).bundles ∧
      (v.update .languages).update .rest = { v.update .full with bundles := ((v.update .languages).update .rest).bundles } ∧
      ((v.update .languages).update .rest).bundles.Beside
        (fun _ b' b => b'.Resembles b ∧ (v.bundles.Calm v.files v.config b.dirName → b' = b)) (v.update .full).bundles := by
  obtain ⟨level, full⟩ := v.level_update regular
  have config : (v.update .languages).config = v.config := (update_eq v .languages).1
  have rest : (v.update .languages).update .rest = { (v.update .languages).runPasses .rest v.config.passes with
      complete := true, pending := none, dirty := true } :=
    config ▸ update_eq_runPasses (v.update .languages) .rest
  have dirty : (v.update .languages).dirty = true := by rw [update_eq_runPasses]
  have before : Matched v.files (v.bundles.Calm v.files v.config) [] (v.update .languages) (v.update .languages) := .refl
  have later := before.runPasses level
  refine ⟨?_, ?_, ?_⟩
  · refine (before.rows.through level.rows).mono fun id b' b _ both => ?_
    obtain ⟨b₀, -, first, second⟩ := both
    exact first.resembles second
  · rw [rest, full, ← dirty]
    exact congrArg (fun w : CatalogView => { w with complete := true, pending := none, dirty := (v.update .languages).dirty })
      later.same
  · rw [rest]
    refine (later.rows.through level.rows).mono fun id b' b _ both => ?_
    obtain ⟨b₀, -, first, second⟩ := both
    exact ⟨first.resembles second, fun waits => first.eq second (second.dirName ▸ waits)⟩

end CatalogView

/-! ## Runs -/

/-- Over every run, a scan of the languages leaves all bundles with the entries, directories and languages that a full scan
gives them, and a scan of the rest after it leaves all else as a full scan does, but for the items of bundles that cannot
wait. -/
theorem phases_of_reachable {allowed : Catalog → Operation → Prop} {c : Catalog} (reached : Reachable allowed c)
    (regular : c.files.Regular) :
    let full := (c.update .full).view
    let phased := ((c.update .languages).update .rest).view
    (c.update .languages).view.bundles.Beside (fun _ b' b => b'.Resembles b) full.bundles ∧
      phased = { full with bundles := phased.bundles } ∧
      phased.bundles.Beside (fun _ b' b => b'.Resembles b ∧ (c.view.bundles.Calm c.files c.config b.dirName → b' = b))
        full.bundles ∧
      ((∀ dirName, c.view.bundles.Calm c.files c.config dirName) → phased = full) := by
  have holds := (owns_of_reachable reached).holding
  have next := holds.moves (moves_update (W := fun _ => True) (N := True) [] c (.inl trivial) .languages)
  intro full phased
  have seen : phased = (c.view.update .languages).update .rest := by
    dsimp only [phased]
    rw [view_update next, view_update holds]
  have seen' : full = c.view.update .full := view_update holds .full
  obtain ⟨languages, same, rows⟩ := c.view.update_phases regular
  rw [← seen, ← seen'] at same
  rw [← seen, ← seen'] at rows
  rw [← view_update holds, ← seen'] at languages
  refine ⟨languages, same, rows, fun calm => ?_⟩
  have bundles : phased.bundles = full.bundles := (rows.mono fun _ _ b _ both => both.2 (calm b.dirName)).eq
  rw [same, bundles]

theorem regular_bundledFiles : bundledFiles.Regular where
  single := by decide
  named := by
    simp [bundledFiles, Entries.keys, isFileName_app, isFileName_bundles, isFileName_bundle, isFileName_language,
      show IsFileName "info.plist" from isFileName_manifestName, show IsFileName "Syntaxes" from
        ItemKind.language.isFileName_dirName]

/-- A bundle that came with the editor is found with its language, whether in one scan or in two. -/
theorem phases_of_reachable_bundled : ∃ c, Reachable (fun _ _ => True) c ∧ c.files.Regular ∧
    (∀ dirName, c.view.bundles.Calm c.files c.config dirName) ∧
    ((c.update .languages).update .rest).view = (c.update .full).view ∧
    ∃ b, (c.update .full).view.bundles.row? 0 = some b ∧ b.dirName = "A.tmbundle" ∧ (b.items.get .language).size = 1 := by
  obtain ⟨empty, start, config, bare, opens⟩ := @openAt_bare appConfig rfl rfl { nth := fun _ => "U" }
  have opened : Reachable (fun _ _ => True) { start.update .languages with pending := some .rest } := .opened empty opens
  have kept : (start.update .languages).config = appConfig :=
    (config_update (bare.tables ▸ Database.keeping_empty) .languages).trans config
  have tables : (start.update .languages).db = {} := (bare.update .languages).tables
  have placed := opened.step (.changeFiles bundledFiles) rfl
  obtain ⟨c, reached, config, files, empty⟩ : ∃ c, Reachable (fun _ _ => True) c ∧ c.config = appConfig ∧
    c.files = bundledFiles ∧ c.db = {} := ⟨_, placed, kept, rfl, tables⟩
  have regular : c.files.Regular := files ▸ regular_bundledFiles
  have own : CatalogView.bundleDirs c.files c.config.ownBundles = [] := by
    refine FileSystem.listDir_of_not_isDirectory ?_
    rw [files, config]
    exact not_isDirectory_of_follow (by rw [show appConfig.ownBundles = Path.join "" "Bundles" from rfl,
      isFileName_bundles.parts_join, Path.parts_empty]; rfl) (FileSystem.follow_name rfl rfl isFileName_bundles) rfl
  have none_ (id : Nat) : c.view.bundles.row? id = none := by
    rw [row?_view, empty]
    rfl
  have calm (dirName : String) : c.view.bundles.Calm c.files c.config dirName := by
    refine ⟨fun id named => ?_, fun _ listed => ?_, fun id b there => ?_⟩
    · obtain ⟨-, b, there, -⟩ := named
      rw [none_] at there
      cases there
    · rw [own] at listed
      cases listed
    · rw [none_] at there
      cases there
  obtain ⟨languages, -, -, same⟩ := phases_of_reachable reached regular
  obtain ⟨d, e, -, -, -, found⟩ := exists_update_bundled config files empty
  rw [found] at languages
  obtain ⟨b, there⟩ : ∃ b, (c.update .full).view.bundles.row? 0 = some b :=
    TableView.exists_row? (languages.size ▸ Nat.zero_lt_one)
  have resembles := languages.rows 0 _ b rfl there
  refine ⟨c, reached, regular, calm, same calm, b, there, resembles.dirName.symm, ?_⟩
  rw [← resembles.languages]
  rfl

end EditorBundles.Catalog
