import EditorBundles.Proofs.Catalog.CalmBundles

/-!
# Passes of a scan of the languages

A scan of the languages goes pass by pass as the full scan does. At each bundle and at each directory both take the same step,
and the bundles stay the same but for the items that wait.
-/

namespace EditorBundles.Catalog
set_option autoImplicit false
open PropertyList
open BundleView (Ahead)

namespace CatalogView

variable {fs : FileSystem} {config : Config} {calm : String → Prop} {done : List Pass} {pass : Pass} {dirs dirs' : List String}
  {id : Nat} {ids : List Nat} {v w : CatalogView} {deed : Deed} {d : String}

/-- A full scan and a scan of the languages at the same place in a pass. Bundles that are left have been read by the passes
before it, the others by this one, too. -/
structure Abreast (fs : FileSystem) (calm : String → Prop) (done : List Pass) (pass : Pass) (ids : List Nat)
    (v w : CatalogView) : Prop where
  same : v = { w with bundles := v.bundles }
  rows : v.bundles.Beside (fun id b' b => Ahead fs (if id ∈ ids then done else done ++ [pass]) (calm b.dirName) b' b) w.bundles

/-- Bundles side by side look alike. -/
theorem map_outline_eq {stage : Nat → List Pass}
    (rows : v.bundles.Beside (fun id b' b => Ahead fs (stage id) (calm b.dirName) b' b) w.bundles) :
    v.bundles.rows.map BundleView.outline = w.bundles.rows.map BundleView.outline :=
  rows.map_rows fun _ _ _ ahead => Prod.ext ahead.entry ahead.dirName

/-- Where a visit leaves a bundle, the pass does not read its directory. -/
theorem Visit.idle (visit : Visit w pass.root pass.loc dirs id dirs' .leave)
    {b : BundleView} (there : w.bundles.row? id = some b)
    (missing : b.dirName ∉ dirs → b.dirName ∉ bundleDirs fs pass.root) : b.due fs pass = false := by
  have same {b₁ : BundleView} (there₁ : w.bundles.row? id = some b₁) : b₁ = b := Option.some.inj (there₁.symm.trans there)
  by_contra due
  obtain ⟨contains, visible, plain, listed⟩ := BundleView.due_iff.1 (Bool.not_eq_false _ ▸ due)
  cases visit with
  | absent without =>
    rw [without b there] at contains
    cases contains
  | unsaved there₁ _ absent => exact missing (same there₁ ▸ absent) listed
  | passed there₁ _ _ skipped =>
    obtain rfl := same there₁
    rcases skipped with hidden | shadowed
    · rw [hidden] at visible
      cases visible
    · exact plain shadowed

/-- On the way to the next bundle, nothing happens to the others. -/
theorem ahead_of_ne {other : Nat} {waits : Prop} {b' b : BundleView} (apart : other ≠ id)
    (ahead : Ahead fs (if other ∈ id :: ids then done else done ++ [pass]) waits b' b) :
    Ahead fs (if other ∈ ids then done else done ++ [pass]) waits b' b := by
  simpa [apart] using ahead

/-- Both scans read the items in the directory of one bundle. -/
theorem beside_read {R : Nat → BundleView → BundleView → Prop} {t u : TableView BundleView} {files : FileSystem}
    (stage : Nat → List Pass) (rows : t.Beside R u)
    (others : ∀ other b' b, u.row? other = some b → other ≠ id → R other b' b → Ahead fs (stage other) (calm b.dirName) b' b)
    (here : stage id = done ++ [pass]) (alike : ScanAlike fs files) (change : BundleView → BundleView)
    (ready : ∀ b' b, u.row? id = some b → R id b' b → (change b).dirName = d ∧ (calm d → (change b).due fs pass = true) ∧
      Ahead fs done (calm d) (change b') (change b)) :
    TableView.Beside (fun id b' b => Ahead fs (stage id) (calm b.dirName) b' b)
      ((t.modifyRow id change).modifyRow id fun b =>
        b.syncItems files (Path.join pass.root d) pass.loc (ItemKind.all.filter ScanMode.full.covers))
      ((u.modifyRow id change).modifyRow id fun b =>
        b.syncItems files (Path.join pass.root d) pass.loc (ItemKind.all.filter ScanMode.languages.covers)) := by
  rw [TableView.modifyRow_modifyRow, TableView.modifyRow_modifyRow]
  refine rows.modifyRow others fun b' b there before => ?_
  obtain ⟨rfl, due, ahead⟩ := ready b' b there before
  rw [here]
  exact ahead.read alike due

/-! ## One bundle -/

/-- Both scans take the version of a bundle for which nothing waits. -/
theorem Abreast.lost (h : Abreast fs calm done pass (id :: ids) v w) (fresh : id ∉ ids) (turn : Turn config done pass)
    (kinds kinds' : List ItemKind) (bundleDir : String) (files : FileSystem) (identities : Identities)
    (idle : ∀ b, w.bundles.row? id = some b → calm b.dirName → ∀ before ∈ done, b.due fs before = false) :
    Abreast fs calm done pass ids (v.perform id pass.loc kinds (.take bundleDir files identities .lost))
      (w.perform id pass.loc kinds' (.take bundleDir files identities .lost)) := by
  refine ⟨?_, ?_⟩
  · rw [h.same]
    rfl
  · refine h.rows.drop (fun _ _ _ ahead => ahead.entry) (fun _ _ _ _ => ahead_of_ne) (fun b' b there ahead => ?_) ?_
    · rw [if_pos List.mem_cons_self] at ahead
      rw [if_neg fresh]
      exact ahead.drop pass.loc (idle b there) fun waits => BundleView.not_due_dropRow turn (idle b there waits)
    · exact BundleView.ahead_refl fun _ before _ => BundleView.not_due_tombstone fs before

/-- A full scan and a scan of the languages do the same with a bundle. -/
theorem Abreast.visit (h : Abreast fs calm done pass (id :: ids) v w)
    (course : Course fs done pass dirs (id :: ids) w) (steady : Steady fs config calm pass dirs (id :: ids) w)
    (turn : Turn config done pass) (visit : Visit w pass.root pass.loc dirs id dirs' deed) :
    Abreast fs calm done pass ids (v.perform id pass.loc (ItemKind.all.filter ScanMode.full.covers) deed)
      (w.perform id pass.loc (ItemKind.all.filter ScanMode.languages.covers) deed) := by
  have fresh : id ∉ ids := fun member => Nat.lt_irrefl id ((List.pairwise_cons.1 course.ordered).1 id member)
  cases deed with
  | leave =>
    refine ⟨h.same, h.rows.mono fun other b' b there ahead => ?_⟩
    by_cases here : other = id
    · subst here
      rw [if_pos List.mem_cons_self] at ahead
      rw [if_neg fresh]
      refine (BundleView.ahead_concat_iff fun waits => visit.idle there fun missing => ?_).2 ahead
      exact steady.missing there waits missing
    · exact ahead_of_ne here ahead
  | take bundleDir files identities reading =>
    have under := (visit.under course.under []).1
    have alike : ScanAlike fs files := files_perform w id pass.loc [] bundleDir files identities reading ▸ under.alike
    cases visit with
    | @read b _ _ _ there contains listed visible plain wrote noManifest =>
      have due : b.due fs pass = true := BundleView.due_iff.2 ⟨contains, visible, plain, course.under.listed listed⟩
      cases reading with
      | lost =>
        refine h.lost fresh turn _ _ _ files identities fun b₁ there₁ waits => BundleView.not_due_of_lost turn ?_ fun own beside => ?_
        · rw [there] at there₁
          cases there₁
          exact plain
        · rw [there] at there₁
          cases there₁
          refine noManifest rfl (steady.manifest b.dirName listed ⟨fun factory => ?_, ?_⟩)
          · rw [own] at factory
            cases factory
          · obtain rfl := turn.eq_ownPass own
            exact (steady.able b.dirName waits).readable beside (course.under.listed listed)
      | kept =>
        have rows := beside_read _ h.rows (fun _ _ _ _ => ahead_of_ne) (if_neg fresh) alike (fun b => b)
          fun b' b₁ there₁ ahead => by
            rw [there] at there₁
            cases there₁
            rw [if_pos List.mem_cons_self] at ahead
            exact ⟨rfl, fun _ => due, ahead⟩
        rw [TableView.modifyRow_id, TableView.modifyRow_id] at rows
        refine ⟨?_, rows⟩
        rw [h.same]
        rfl
      | renewed manifest =>
        have same := EntryView.locality_register_of_contains turn.source contains manifest
        have renewed : ({ b with entry := b.entry.register manifest pass.loc } : BundleView).due fs pass = true := by
          rw [← due, BundleView.due, BundleView.due, same]
        refine ⟨?_, beside_read _ h.rows (fun _ _ _ _ => ahead_of_ne) (if_neg fresh) alike
          (fun b => { b with entry := b.entry.register manifest pass.loc }) fun b' b₁ there₁ ahead => ?_⟩
        · rw [h.same]
          rfl
        · rw [there] at there₁
          cases there₁
          rw [if_pos List.mem_cons_self] at ahead
          exact ⟨rfl, fun _ => renewed, ahead.register manifest pass.loc (BundleView.due_register turn b manifest)⟩
    | @gone b there contains missing saved =>
      refine h.lost fresh turn _ _ _ w.files w.identities fun b₁ there₁ waits => ?_
      rw [there] at there₁
      cases there₁
      exact ((steady.able b.dirName waits).rows id b there rfl).not_due_of_missing turn contains
        (steady.missing there waits missing) saved

/-! ## One directory -/

/-- In both scans, a bundle without a version gets one from its directory. -/
theorem Abreast.join (h : Abreast fs calm done pass [] v w) (course : Course fs done pass (d :: dirs) [] w)
    (steady : Steady fs config calm pass (d :: dirs) [] w) (turn : Turn config done pass)
    {files : FileSystem} (alike : ScanAlike fs files) {b : BundleView} (existing : w.findDir? d = some id)
    (there : w.bundles.row? id = some b) (plain : ¬ (pass.loc = { pristine := true } ∧ b.entry.locality.installed = true))
    (identities : Identities) (manifest : Document) :
    Abreast fs calm done pass []
      (v.accept pass.root pass.loc (ItemKind.all.filter ScanMode.full.covers) d (some id) (some (files, identities, manifest)))
      (w.accept pass.root pass.loc (ItemKind.all.filter ScanMode.languages.covers) d (some id)
        (some (files, identities, manifest))) := by
  obtain ⟨_, found, rfl⟩ := findDir?_eq_some existing
  rw [there] at found
  cases found
  have without := course.free id List.not_mem_nil b there List.mem_cons_self
  have due (waits : calm b.dirName) :
      ({ b with entry := b.entry.register manifest pass.loc } : BundleView).due fs pass = true := by
    refine BundleView.due_iff.2 ⟨EntryView.contains_register_self turn.source b.entry manifest, ?_, ?_,
      course.under.listed List.mem_cons_self⟩
    · exact (EntryView.isHidden_register turn.source b.entry manifest).trans (steady.visible course turn waits there rfl)
    · rintro ⟨pristine, installed⟩
      refine plain ⟨pristine, ?_⟩
      rw [EntryView.locality_register, pristine] at installed
      simpa [Locality.union] using installed
  refine ⟨?_, beside_read _ h.rows (fun _ _ _ _ _ ahead => ahead) (if_neg List.not_mem_nil) alike
    (fun b => { b with entry := b.entry.register manifest pass.loc }) fun b' b₁ there₁ ahead => ?_⟩
  · rw [h.same]
    rfl
  · rw [there] at there₁
    cases there₁
    rw [if_neg List.not_mem_nil] at ahead
    have before : Ahead fs done (calm b.dirName) b' b :=
      (BundleView.ahead_concat_iff fun _ => by rw [BundleView.due, without]; rfl).1 ahead
    exact ⟨rfl, due, before.register manifest pass.loc (BundleView.due_register turn b manifest)⟩

/-- Both scans add the same new bundle for a directory. -/
theorem Abreast.admit (h : Abreast fs calm done pass [] v w) (turn : Turn config done pass)
    (listed : d ∈ bundleDirs fs pass.root) {files : FileSystem} (alike : ScanAlike fs files) (identities : Identities)
    (manifest : Document) :
    Abreast fs calm done pass []
      (v.accept pass.root pass.loc (ItemKind.all.filter ScanMode.full.covers) d none (some (files, identities, manifest)))
      (w.accept pass.root pass.loc (ItemKind.all.filter ScanMode.languages.covers) d none
        (some (files, identities, manifest))) := by
  -- at first the new bundles are the same, and no pass has read them
  obtain ⟨inserted, place⟩ : TableView.Beside (fun other b' b =>
      if other = (w.bundles.insert manifest pass.loc).2 then
        b' = b ∧ b.entry = (EntryView.new pass.loc manifest).identify manifest
      else Ahead fs (done ++ [pass]) (calm b.dirName) b' b)
        (v.bundles.insert manifest pass.loc).1 (w.bundles.insert manifest pass.loc).1 ∧
      (v.bundles.insert manifest pass.loc).2 = (w.bundles.insert manifest pass.loc).2 := by
    refine h.rows.insert (fun _ _ _ ahead => ahead.entry) manifest pass.loc
      (fun other b' b _ apart ahead => by simpa [apart] using ahead) ?_
    rw [if_pos rfl]
    exact ⟨rfl, rfl⟩
  have rows := beside_read (fun _ => done ++ [pass]) inserted
    (fun other b' b _ apart ahead => by rwa [if_neg apart] at ahead) rfl alike
    (fun b => { b with dirName := d }) fun b' b there new => by
      rw [if_pos rfl] at new
      obtain ⟨rfl, entry⟩ := new
      exact ⟨rfl, fun _ => BundleView.due_new turn listed entry,
        BundleView.ahead_refl fun (_ : calm d) => BundleView.not_due_new turn entry⟩
  refine ⟨?_, ?_⟩
  · rw [h.same]
    rfl
  · change TableView.Beside _ (((v.bundles.insert manifest pass.loc).1.modifyRow (v.bundles.insert manifest pass.loc).2
      _).modifyRow (v.bundles.insert manifest pass.loc).2 _) _
    rw [place]
    exact rows.mono fun _ _ _ _ ahead => by rwa [if_neg List.not_mem_nil]

/-- A full scan and a scan of the languages add the same bundle. -/
theorem Abreast.addition (h : Abreast fs calm done pass [] v w) (course : Course fs done pass (d :: dirs) [] w)
    (steady : Steady fs config calm pass (d :: dirs) [] w) (turn : Turn config done pass)
    {made : Option (FileSystem × Identities × Document)}
    (known : ∀ m ∈ made, ¬ (pass.loc = { pristine := true } ∧
        ∃ id b, w.findDir? d = some id ∧ w.bundles.row? id = some b ∧ b.entry.locality.installed = true) ∧
      (m.1 = w.files ∨ pass.loc.own = true ∧ m.1 =
        (w.makeManifest (Path.join pass.root d) d ((w.findDir? d).bind w.factoryManifest?)).1.files)) :
    Abreast fs calm done pass []
      (v.accept pass.root pass.loc (ItemKind.all.filter ScanMode.full.covers) d (w.findDir? d) made)
      (w.accept pass.root pass.loc (ItemKind.all.filter ScanMode.languages.covers) d (w.findDir? d) made) := by
  cases made with
  | none => exact h
  | some m =>
    obtain ⟨plain, wrote⟩ := known m rfl
    obtain ⟨files, identities, manifest⟩ := m
    have listed : d ∈ bundleDirs fs pass.root := course.under.listed List.mem_cons_self
    have alike : ScanAlike fs files := by
      have under := (course.under.write listed wrote (List.sublist_cons_self d dirs)
        (files_accept w pass.root pass.loc [] d (w.findDir? d) (files, identities, manifest))).1
      have alike := under.alike
      rwa [files_accept] at alike
    cases existing : w.findDir? d with
    | some id =>
      obtain ⟨b, there, -⟩ := findDir?_eq_some existing
      exact h.join course steady turn alike existing there
        (fun ⟨pristine, installed⟩ => plain ⟨pristine, id, b, existing, there, installed⟩) identities manifest
    | none => exact h.admit turn listed alike identities manifest

/-! ## Passes of both scans -/

/-- All that is known of a full scan and a scan of the languages at the same place in a pass. -/
structure Together (fs : FileSystem) (config : Config) (calm : String → Prop) (done : List Pass) (pass : Pass)
    (dirs : List String) (ids : List Nat) (v w : CatalogView) : Prop where
  course : Course fs done pass dirs ids w
  steady : Steady fs config calm pass dirs ids w
  abreast : Abreast fs calm done pass ids v w

/-- Both scans go over one bundle. -/
theorem Together.updateOne (h : Together fs config calm done pass dirs (id :: ids) v w) (turn : Turn config done pass) :
    (v.updateOne pass.root pass.loc .full dirs id).2 = (w.updateOne pass.root pass.loc .languages dirs id).2 ∧
      Together fs config calm done pass (w.updateOne pass.root pass.loc .languages dirs id).2 ids
        (v.updateOne pass.root pass.loc .full dirs id).1 (w.updateOne pass.root pass.loc .languages dirs id).1 := by
  obtain ⟨dirs', deed, visit, alike⟩ := w.exists_visit pass.root pass.loc dirs id
  have outlines := congrArg (·[id]?) (map_outline_eq h.abreast.rows)
  simp only [List.getElem?_map] at outlines
  have full := alike v.bundles .full (by decide) outlines
  have languages : w.updateOne pass.root pass.loc .languages dirs id = _ := alike w.bundles .languages (by decide) rfl
  rw [← h.abreast.same] at full
  rw [full, languages]
  exact ⟨rfl, h.course.visit turn visit _, h.steady.visit h.course turn visit _,
    h.abreast.visit h.course h.steady turn visit⟩

theorem Together.updateKnown (h : Together fs config calm done pass dirs ids v w) (turn : Turn config done pass) :
    (v.updateKnown pass.root pass.loc .full dirs ids).2 = (w.updateKnown pass.root pass.loc .languages dirs ids).2 ∧
      Together fs config calm done pass (w.updateKnown pass.root pass.loc .languages dirs ids).2 []
        (v.updateKnown pass.root pass.loc .full dirs ids).1 (w.updateKnown pass.root pass.loc .languages dirs ids).1 := by
  induction ids generalizing v w dirs with
  | nil => exact ⟨rfl, h⟩
  | cons id ids ih =>
    obtain ⟨same, next⟩ := h.updateOne turn
    rw [updateKnown_cons, updateKnown_cons, same]
    exact ih next

/-- Both scans look at one directory in which no bundle is. -/
theorem Together.addOne (h : Together fs config calm done pass (d :: dirs) [] v w) (turn : Turn config done pass) :
    Together fs config calm done pass dirs [] (v.addOne pass.root pass.loc .full d)
      (w.addOne pass.root pass.loc .languages d) := by
  obtain ⟨made, known, alike⟩ := w.exists_addition pass.root pass.loc d
  have full := alike v.bundles .full (by decide) (map_outline_eq h.abreast.rows)
  have languages : w.addOne pass.root pass.loc .languages d = _ := alike w.bundles .languages (by decide) rfl
  rw [← h.abreast.same] at full
  rw [full, languages]
  exact ⟨h.course.addition turn (fun m member => (known m member).2) _,
    h.steady.addition h.course turn (fun m member => (known m member).2) _, h.abreast.addition h.course h.steady turn known⟩

theorem Together.addBundles (h : Together fs config calm done pass dirs [] v w) (turn : Turn config done pass) :
    Together fs config calm done pass [] [] (v.addBundles pass.root pass.loc .full dirs)
      (w.addBundles pass.root pass.loc .languages dirs) := by
  induction dirs generalizing v w with
  | nil => exact h
  | cons d dirs ih =>
    rw [addBundles_cons, addBundles_cons]
    exact ih (h.addOne turn)

/-- Where no directory is left, a bundle loses its version, unless no file holds it yet. -/
theorem updateOne_nil (v : CatalogView) (root : String) {loc : Locality} (source : loc.IsSource) (mode : ScanMode) (id : Nat) :
    v.updateOne root loc mode [] id =
      (if (v.bundles.entryAt? id).any fun e => e.locality.meets loc && !(loc.own && e.hasUnsavedOwn) then v.dropBundle id loc
        else v, []) := by
  have meets (s : Locality) : s.meets loc = s.contains loc := by
    cases source <;> simp [Locality.meets, Locality.contains]
  have own : loc.own = decide (loc = { own := true }) := by cases source <;> rfl
  rw [updateOne, TableView.entryAt?]
  cases v.bundles.row? id with
  | none => rfl
  | some b =>
    rw [Option.filter_some, Option.map_some, Option.any_some, meets, own]
    change _ = (if (b.entry.locality.contains loc && !(decide (loc = { own := true }) && b.entry.hasUnsavedOwn)) = true then _
      else _, _)
    cases b.entry.locality.contains loc with
    | false => rfl
    | true =>
      rw [if_pos rfl]
      dsimp only
      rw [List.contains_nil, if_neg Bool.false_ne_true]
      cases decide (loc = { own := true }) && b.entry.hasUnsavedOwn <;> rfl

/-- Where no directory is left, a pass drops the versions that are in none. -/
theorem updateKnown_nil (v : CatalogView) (root : String) {loc : Locality} (source : loc.IsSource) (mode : ScanMode)
    (ids : List Nat) : v.updateKnown root loc mode [] ids =
      ({ v with bundles := TableView.dropWhere (fun e => e.locality.meets loc && !(loc.own && e.hasUnsavedOwn)) loc v.bundles ids },
        []) := by
  induction ids generalizing v with
  | nil => rfl
  | cons id ids ih =>
    rw [updateKnown_cons, updateOne_nil v root source, TableView.dropWhere]
    split
    · exact ih (v.dropBundle id loc)
    · exact ih v

/-- A pass goes over the bundles that it knows and then over the directories that are left, also where there are none. -/
theorem updateBundles_eq (v : CatalogView) (root : String) {loc : Locality} (source : loc.IsSource) (mode : ScanMode) :
    v.updateBundles root loc mode =
      (v.updateKnown root loc mode (bundleDirs v.files root) (List.range v.bundles.size)).1.addBundles root loc mode
        (v.updateKnown root loc mode (bundleDirs v.files root) (List.range v.bundles.size)).2 := by
  rw [updateBundles]
  split
  · rfl
  · next missing =>
    rw [bundleDirs, FileSystem.listDir_of_not_isDirectory (Bool.not_eq_true _ ▸ missing), updateKnown_nil v root source]
    rfl

/-- Next to what a scan of the languages has left stands what has been read of it up to some pass, at once or later. -/
structure Matched (fs : FileSystem) (calm : String → Prop) (done : List Pass) (v w : CatalogView) : Prop where
  same : v = { w with bundles := v.bundles }
  rows : v.bundles.Beside (fun _ b' b => Ahead fs done (calm b.dirName) b' b) w.bundles

/-- A full scan and a scan of the languages after the same passes. -/
structure Level (fs : FileSystem) (config : Config) (calm : String → Prop) (done : List Pass) (v w : CatalogView) : Prop
    extends Matched fs calm done v w where
  able : ∀ d, calm d → w.bundles.Calm fs config d
  past : ∀ before ∈ done, InPlace fs before w.bundles
  regular : w.files.Regular
  alike : ScanAlike fs w.files

/-- Both scans do one more pass. -/
theorem Level.updateBundles (h : Level fs config calm done v w) (turn : Turn config done pass) (files : w.files = fs) :
    Level fs config calm (done ++ [pass]) (v.updateBundles pass.root pass.loc .full)
        (w.updateBundles pass.root pass.loc .languages) ∧
      (pass.loc.own = false → (w.updateBundles pass.root pass.loc .languages).files = fs) := by
  have inside {id : Nat} {b : BundleView} (there : w.bundles.row? id = some b) : id ∈ List.range w.bundles.size :=
    List.mem_range.2 (TableView.lt_of_row? there)
  have start : Together fs config calm done pass (bundleDirs w.files pass.root) (List.range w.bundles.size) v w := by
    refine ⟨⟨⟨h.regular, h.alike, fun _ => files, ?_, h.regular.nodup_listDir _ _ _⟩, List.pairwise_lt_range, ?_, ?_, h.past⟩,
      ⟨h.able, ?_, ?_⟩, h.same, h.rows.mono fun id b' b there ahead => ?_⟩
    · exact fun d member => files ▸ member
    · exact fun id absent b there => absurd (inside there) absent
    · exact fun id absent b there => absurd (inside there) absent
    · exact fun d _ listed missing => absurd (files ▸ listed) missing
    · exact fun d _ manifest => files ▸ manifest
    · rwa [if_pos (inside there)]
  obtain ⟨same, known⟩ := start.updateKnown turn
  have ending := known.addBundles turn
  have size : v.bundles.size = w.bundles.size := h.rows.size
  have found : v.files = w.files := by rw [h.same]
  rw [updateBundles_eq v pass.root turn.source, updateBundles_eq w pass.root turn.source, size, found, same]
  refine ⟨⟨⟨ending.abreast.same, ending.abreast.rows.mono fun _ _ _ _ ahead => by simpa using ahead⟩, ending.steady.able, ?_,
    ending.course.under.regular, ending.course.under.alike⟩, ending.course.under.factory⟩
  intro before member
  rcases List.mem_append.1 member with earlier | last
  · exact ending.course.past before earlier
  · obtain rfl := List.mem_singleton.1 last
    intro id b there contains
    refine (ending.course.inPlace id List.not_mem_nil b there contains).imp_right fun ⟨listed, _, apart⟩ => ⟨listed, apart⟩

end CatalogView
end EditorBundles.Catalog
