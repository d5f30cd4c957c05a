import EditorBundles.Proofs.Catalog.CatalogRuns
import EditorBundles.Proofs.Catalog.Moves
import EditorBundles.Proofs.Catalog.Operations
import EditorBundles.Proofs.Catalog.RegularScans
import EditorBundles.Proofs.PropertyList.Keyed

/-!
# Operations as moves

Scans, what is done to bundles, items and themes, and writing to documents: every operation on a catalog is a sequence
of moves. The names that it gives are apart from those in the catalog as far as its conditions say so.
-/

namespace EditorBundles.Catalog
set_option autoImplicit false
open PropertyList
open Relation (ReflTransGen)
open Database (Moves)

variable {W : Document → Prop} {N : Prop} {c c' : Catalog} {loc : Locality} {id doc owner : Nat} {spare : List Nat}
  {kind : ItemKind}

/-! ## Documents -/

theorem liveDoc?_eq_some {d : Document} : c.liveDoc? doc = some d ↔ c.db.docs.isLive doc = true ∧ c.db.docs.get doc = d := by
  rw [liveDoc?, Option.ite_none_right_eq_some, Option.some_inj]

theorem moves_createDoc (spare : List Nat) (c : Catalog) (name : String) (filename : Option String) :
    Moves W N (spare, c.db) ((c.createDoc name filename).2 :: spare, (c.createDoc name filename).1.db) :=
  Database.moves_store spare c.db rfl (Document.keyed_create name c.identities.draw.1)

/-- An item gets the name that is chosen, which is free if it has none. -/
theorem moves_nameItem {b : Bundle} (spare : List Nat) (found : c.db.bundles.row? owner = some b)
    (own : (b.items.get kind).ownDoc? id = some doc) (choose : String → String)
    (named : N ∨ ((b.items.get kind).ownName? c.db.docs id = none →
      (b.items.get kind).Lacks c.db.docs (choose (((c.db.docs.get doc).rootString? "name").getD "")))) :
    Moves W N (spare, c.db) (spare, (c.nameDoc doc choose).db) := by
  rw [nameDoc]
  split
  · rename_i unnamed
    refine .single (.name (named.imp_right fun free => ⟨owner, b, kind, id, found, own, free ?_⟩))
    rw [EntryTable.ownName?, own, Option.map_some, String.isEmpty_iff.1 unnamed]
    rfl
  · exact .refl

/-- The document that can be saved is one that the entry names. -/
theorem mem_held_of_savable? {e : Entry} (named : savable? e = some doc) : doc ∈ e.held := by
  rw [savable?] at named
  split at named
  · exact List.mem_append_right _ (Option.mem_toList.2 named)
  · cases named

/-- A manifest is named. -/
theorem moves_nameManifest {e : Entry} (spare : List Nat) (found : c.db.bundles.entryAt? id = some e) (held : doc ∈ e.held)
    (choose : String → String) : Moves W N (spare, c.db) (spare, (c.nameDoc doc choose).db) := by
  rw [nameDoc]
  split
  · exact .single (.nameManifest found held)
  · exact .refl

theorem moves_saveDoc (spare : List Nat) (c : Catalog) (doc : Nat) (dir : String) :
    Moves W N (spare, c.db) (spare, (c.saveDoc doc dir).1.db) := by
  rw [saveDoc, DocumentTable.save]
  cases saved : (c.db.docs.get doc).save c.files dir with
  | mk files result =>
    cases result with
    | error fault => exact .refl
    | ok result =>
      obtain ⟨modTime, stamped⟩ := Document.exists_modTime_of_save saved
      dsimp only
      rw [stamped]
      exact .single .stamp

theorem moves_write? {content : Document} (spare : List Nat) (written : W content) (wrote : c.write? doc content = some c') :
    Moves W N (spare, c.db) (spare, c'.db) := by
  obtain ⟨d, live, wrote⟩ := Option.bind_eq_some_iff.1 wrote
  rw [liveDoc?] at live
  split at live
  · rename_i there
    split at wrote
    · cases wrote
    · rename_i stored
      obtain rfl := Option.some.inj wrote
      rw [DocumentTable.isLive, Bool.and_eq_true, Bool.not_eq_true'] at there
      obtain rfl := Option.some.inj live
      have same : content.isVacant = (c.db.docs.get doc).isVacant :=
        (Bool.not_eq_true _ ▸ stored : _ = false).trans there.2.symm
      exact .single (.write written rfl same)
  · cases live

/-! ## Scans -/

theorem moves_makeManifest (spare : List Nat) (c : Catalog) (bundleDir dirName : String) (factory : Option Nat)
    (named : ∀ doc ∈ factory, ∃ id e, c.db.bundles.entryAt? id = some e ∧ e.factoryDoc = some doc) :
    Moves W N (spare, c.db) ((c.makeManifest bundleDir dirName factory).2 :: spare,
      (c.makeManifest bundleDir dirName factory).1.db) := by
  -- whichever document is stored is named and written
  have ending (c : Catalog) (manifest : Nat) :
      let named := c.withDocs (c.db.docs.modify manifest fun d => { d with filename := manifestName })
      Moves W N (manifest :: spare, c.db) (manifest :: spare, (named.saveDoc manifest bundleDir).1.db) := by
    refine .trans ?_ (moves_saveDoc _ _ manifest bundleDir)
    exact .single (.fill List.mem_cons_self (fun _ there => there) fun _ keyed => keyed)
  cases factory with
  | none =>
    have stored := moves_createDoc (W := W) (N := N) spare c (displayName dirName) (some manifestName)
    rw [makeManifest]
    generalize c.createDoc (displayName dirName) (some manifestName) = created at stored
    dsimp only
    exact stored.trans (ending created.1 created.2)
  | some factory =>
    obtain ⟨id, e, found, named⟩ := named factory rfl
    have copied : Moves W N (spare, c.db) ((c.db.docs.copy factory).2 :: spare, _) := .single (.copy found named)
    rw [makeManifest]
    generalize c.db.docs.copy factory = copy at copied
    dsimp only
    exact copied.trans (ending (c.withDocs copy.1) copy.2)

theorem named_of_factoryManifest? (named : doc ∈ c.factoryManifest? id) :
    ∃ id e, c.db.bundles.entryAt? id = some e ∧ e.factoryDoc = some doc := by
  obtain ⟨e, found, named⟩ := Option.bind_eq_some_iff.1 named
  split at named
  · exact ⟨id, e, found, named⟩
  · cases named

theorem moves_registerManifest (spare : List Nat) (c : Catalog) (source : loc.IsSource) (id manifest : Nat) :
    Moves W N (manifest :: spare, c.db) (spare, (c.registerManifest id manifest loc).db) :=
  .single (.bundles (.single (.register source fun _ => trivial)))

theorem moves_dropBundle (spare : List Nat) (c : Catalog) (id : Nat) (loc : Locality) :
    Moves W N (spare, c.db) (spare, (c.dropBundle id loc).db) :=
  .single (.bundles (.single .drop))

theorem moves_syncItems (spare : List Nat) (c : Catalog) (source : loc.IsSource) (named : loc.own = true → N ∨ c.files.Regular)
    (bundleDir : String) (id : Nat) (kinds : List ItemKind) :
    Moves W N (spare, c.db) (spare, (c.syncItems bundleDir loc id kinds).db) := by
  induction kinds generalizing c with
  | nil => exact .refl
  | cons kind kinds ih =>
    rw [syncItems]
    cases found : c.db.bundles.row? id with
    | none => exact .refl
    | some b =>
      refine .trans ?_ (ih _ named)
      exact .single (.items found (EntryTable.change_sync source named _ _ _ _))

theorem moves_updateManifest (spare : List Nat) (c : Catalog) (source : loc.IsSource) (id : Nat)
    (bundleDir dirName : String) : Moves W N (spare, c.db) (spare, (c.updateManifest id bundleDir dirName loc).1.db) := by
  rw [updateManifest]
  dsimp only
  split
  · cases (c.db.bundles.entryAt? id).bind (·.docFor loc) with
    | none => exact .refl
    | some current =>
      dsimp only
      split
      · cases loaded : c.db.docs.load c.files (Path.join bundleDir manifestName) with
        | error fault => exact moves_dropBundle spare c id loc
        | ok result =>
          exact (Database.moves_load spare c.db loaded).trans
            (moves_registerManifest spare (c.withDocs result.1) source id result.2)
      · exact .refl
  · split
    · exact (moves_makeManifest spare c bundleDir dirName _ fun _ => named_of_factoryManifest?).trans
        (moves_registerManifest spare _ source id _)
    · exact moves_dropBundle spare c id loc

theorem moves_updateKnown (spare : List Nat) (c : Catalog) (source : loc.IsSource) (named : N ∨ c.files.Regular)
    (root : String) (mode : ScanMode)
    (dirs : List String) (ids : List Nat) : Moves W N (spare, c.db) (spare, (c.updateKnown root loc mode dirs ids).1.db) := by
  induction ids generalizing c dirs with
  | nil => exact .refl
  | cons id ids ih =>
    rw [updateKnown]
    cases (c.db.bundles.row? id).filter fun b => b.entry.locality.contains loc with
    | none => exact ih c named dirs
    | some b =>
      dsimp only
      split
      · split
        · exact ih c named _
        · have read : Moves W N (spare, c.db) (spare, (if mode = .rest then (c, true) else
              c.updateManifest id (Path.join root b.dirName) b.dirName loc).1.db) := by
            split
            · exact .refl
            · exact moves_updateManifest spare c source id _ _
          have named₁ : N ∨ (if mode = .rest then (c, true) else
              c.updateManifest id (Path.join root b.dirName) b.dirName loc).1.files.Regular := by
            split
            · exact named
            · exact named.imp_right fun regular => regular_updateManifest regular id _ _
          generalize (if mode = .rest then (c, true) else
            c.updateManifest id (Path.join root b.dirName) b.dirName loc) = result at read named₁
          split
          · refine (read.trans (moves_syncItems spare result.1 source (fun _ => named₁) _ id _)).trans (ih _ ?_ _)
            rwa [files_syncItems]
          · exact read.trans (ih _ named₁ _)
      · split
        · exact ih c named dirs
        · exact (moves_dropBundle spare c id loc).trans (ih (c.dropBundle id loc) named dirs)

theorem moves_newManifest? (spare : List Nat) {bundleDir dirName : String} {existing : Option Nat} {manifest : Nat}
    (made : c.newManifest? bundleDir dirName loc existing = some (c', manifest)) :
    Moves W N (spare, c.db) (manifest :: spare, c'.db) := by
  rw [newManifest?] at made
  split at made
  · cases loaded : c.db.docs.load c.files (Path.join bundleDir manifestName) with
    | error fault =>
      rw [loaded] at made
      cases made
    | ok result =>
      rw [loaded] at made
      obtain ⟨rfl, rfl⟩ := Prod.mk.inj (Option.some.inj made)
      exact Database.moves_load spare c.db loaded
  · split at made
    · have factory : ∀ doc ∈ existing.bind c.factoryManifest?,
          ∃ id e, c.db.bundles.entryAt? id = some e ∧ e.factoryDoc = some doc := by
        intro doc named
        obtain ⟨id, -, named⟩ := Option.bind_eq_some_iff.1 named
        exact named_of_factoryManifest? named
      have moves := moves_makeManifest (W := W) (N := N) spare c bundleDir dirName _ factory
      rwa [Option.some.inj made] at moves
    · cases made

theorem moves_addBundles (spare : List Nat) (c : Catalog) (source : loc.IsSource) (named : N ∨ c.files.Regular)
    (root : String) (mode : ScanMode) (dirs : List String) :
    Moves W N (spare, c.db) (spare, (c.addBundles root loc mode dirs).db) := by
  induction dirs generalizing c with
  | nil => exact .refl
  | cons dirName dirs ih =>
    rw [addBundles]
    dsimp only
    split
    · exact ih c named
    · cases made : c.newManifest? (Path.join root dirName) dirName loc (c.findDir? dirName) with
      | none => exact ih c named
      | some result =>
        have stored := moves_newManifest? (W := W) (N := N) spare made
        have named₁ := named.imp_right fun regular => regular_newManifest? regular made
        dsimp only
        cases c.findDir? dirName with
        | some id =>
          have registered := stored.trans (moves_registerManifest spare result.1 source id result.2)
          have synced := moves_syncItems (W := W) spare (result.1.registerManifest id result.2 loc) source (fun _ => named₁)
            (Path.join root dirName) id (ItemKind.all.filter mode.covers)
          refine (registered.trans synced).trans (ih _ ?_)
          rwa [files_syncItems]
        | none =>
          have inserted := stored.tail (.bundles (.single (.insert source fun _ => .inl trivial)))
          have synced (db : Database) := moves_syncItems (W := W) spare (result.1.withDb db) source (fun _ => named₁)
            (Path.join root dirName)
          refine .trans (.trans ?_ (synced _ _ _)) (ih _ ?_)
          · exact inserted.tail .place
          · rwa [files_syncItems]

theorem moves_updateBundles (spare : List Nat) (c : Catalog) (source : loc.IsSource) (named : N ∨ c.files.Regular)
    (root : String) (mode : ScanMode) :
    Moves W N (spare, c.db) (spare, (c.updateBundles root loc mode).db) := by
  rw [updateBundles]
  split
  · refine (moves_updateKnown spare c source named root mode _ _).trans (moves_addBundles spare _ source ?_ root mode _)
    exact named.imp_right fun regular => regular_updateKnown regular root mode _ _
  · exact .single (.bundles (EntryTable.moves_dropWhere _ loc _ _ _))

theorem moves_updateThemes (spare : List Nat) (c : Catalog) (source : loc.IsSource) (named : N ∨ c.files.Regular)
    (dir : String) : Moves W N (spare, c.db) (spare, (c.updateThemes dir loc).db) :=
  .single (.themes (EntryTable.change_sync source (fun _ => named) _ _ _ _))

/-- A scan is a sequence of moves. -/
theorem moves_update (spare : List Nat) (c : Catalog) (named : N ∨ c.files.Regular) (mode : ScanMode) :
    Moves W N (spare, c.db) (spare, (c.update mode).db) := by
  have themes : Moves W N (spare, c.db) (spare, (if mode = .rest then c
      else (c.updateThemes c.config.pristineThemes { pristine := true }).updateThemes c.config.ownThemes
        { own := true }).db) := by
    split
    · exact .refl
    · have pristine := moves_updateThemes (W := W) spare c .pristine named c.config.pristineThemes
      exact pristine.trans (moves_updateThemes spare (c.updateThemes c.config.pristineThemes _) .own named _)
  have named₁ : N ∨ (if mode = .rest then c
      else (c.updateThemes c.config.pristineThemes { pristine := true }).updateThemes c.config.ownThemes
        { own := true }).files.Regular := by
    split <;> exact named
  rw [update]
  generalize (if mode = .rest then c
      else (c.updateThemes c.config.pristineThemes { pristine := true }).updateThemes c.config.ownThemes
        { own := true }) = c₁ at themes named₁
  have installed := themes.trans (moves_updateBundles spare c₁ .installed named₁ c₁.config.installedBundles mode)
  have named₂ : N ∨ (c₁.updateBundles c₁.config.installedBundles { installed := true } mode).files.Regular :=
    named₁.imp_right fun regular => regular_updateBundles regular _ mode
  generalize c₁.updateBundles c₁.config.installedBundles { installed := true } mode = c₂ at installed named₂
  have pristine := installed.trans (moves_updateBundles spare c₂ .pristine named₂ c₂.config.pristineBundles mode)
  have named₃ : N ∨ (c₂.updateBundles c₂.config.pristineBundles { pristine := true } mode).files.Regular :=
    named₂.imp_right fun regular => regular_updateBundles regular _ mode
  generalize c₂.updateBundles c₂.config.pristineBundles { pristine := true } mode = c₃ at pristine named₃
  have own := pristine.trans (moves_updateBundles spare c₃ .own named₃ c₃.config.ownBundles mode)
  split <;> exact own

theorem moves_resume (spare : List Nat) (c : Catalog) (named : N ∨ c.files.Regular) :
    Moves W N (spare, c.db) (spare, c.resume.1.db) := by
  rw [resume]
  split
  · exact .refl
  · exact moves_update spare { c with pending := none } named .languages
  · exact moves_update spare { c with pending := none } named _

/-! ## Bundles -/

theorem moves_newBundle (spare : List Nat) (c : Catalog) (name : String) :
    Moves W N (spare, c.db) (spare, (c.newBundle name).1.db) :=
  (moves_createDoc spare c name (some manifestName)).tail (.bundles (.single (.insert .own fun _ => .inl trivial)))

theorem moves_editBundle? {own : Nat} (spare : List Nat) (edited : c.editBundle? id = some (c', own)) :
    Moves W N (spare, c.db) (spare, c'.db) := by
  obtain ⟨⟨bundles, docs, doc⟩, made, edited⟩ := Option.bind_eq_some_iff.1 edited
  obtain ⟨rfl, -⟩ := Prod.mk.inj (Option.some.inj edited)
  exact .single (.bundles (.single (.edit made (.inl trivial))))

theorem moves_saveBundle? {result : Except Fault Unit} (spare : List Nat)
    (saved : c.saveBundle? id = some (c', result)) : Moves W N (spare, c.db) (spare, c'.db) := by
  obtain ⟨b, place, saved⟩ := Option.bind_eq_some_iff.1 saved
  cases named : savable? b.entry with
  | none =>
    rw [named] at saved
    obtain ⟨rfl, -⟩ := Prod.mk.inj (Option.some.inj saved)
    exact .refl
  | some own =>
    rw [named] at saved
    obtain ⟨d, -, saved⟩ := Option.bind_eq_some_iff.1 saved
    dsimp only at saved
    generalize (if b.dirName.isEmpty then
      freeName c.files c.config.ownBundles ((d.rootString? "name").getD "") ".tmbundle" else b.dirName) = dirName at saved
    have placed : Moves W N (spare, c.db) (spare, (c.modifyBundle id fun b => { b with dirName }).db) := .single .place
    have there : (c.modifyBundle id fun b => { b with dirName }).db.bundles.entryAt? id = some b.entry := by
      have put := EntryTable.modify_eq place fun b : Bundle => { b with dirName }
      rw [modifyBundle, withDb, put, EntryTable.entryAt?, EntryTable.row?_setRow_self (EntryTable.lt_of_row? place)]
      rfl
    generalize c.modifyBundle id (fun b => { b with dirName }) = c₁ at saved placed there
    cases made : c₁.files.createDirectories (c₁.ownDir dirName) with
    | mk files result =>
      rw [made] at saved
      cases result with
      | error fault =>
        obtain ⟨rfl, -⟩ := Prod.mk.inj (Option.some.inj saved)
        exact placed
      | ok _ =>
        have named := placed.trans (moves_nameManifest (c := { c₁ with files }) spare there (mem_held_of_savable? named)
          fun _ => manifestName)
        dsimp only at saved
        generalize nameDoc { c₁ with files } own (fun _ => manifestName) = c₂ at saved named
        have written := named.trans (moves_saveDoc spare c₂ own (c₂.ownDir dirName))
        generalize c₂.saveDoc own (c₂.ownDir dirName) = ending at saved written
        obtain ⟨c₃, result⟩ := ending
        cases result with
        | error fault =>
          obtain ⟨rfl, -⟩ := Prod.mk.inj (Option.some.inj saved)
          exact written
        | ok _ =>
          obtain ⟨rfl, -⟩ := Prod.mk.inj (Option.some.inj saved)
          exact written.tail (.bundles (.single .mark))

theorem bundles_nameDoc (c : Catalog) (doc : Nat) (choose : String → String) :
    (c.nameDoc doc choose).db.bundles = c.db.bundles := by
  rw [nameDoc]
  split <;> rfl

theorem bundles_saveDoc (c : Catalog) (doc : Nat) (dir : String) : (c.saveDoc doc dir).1.db.bundles = c.db.bundles := by
  obtain ⟨docs, same, -⟩ := c.saveDoc_db doc dir
  rw [same]

/-- A bundle that is saved has its items as before. -/
theorem items_saveBundle? {b : Bundle} {result : Except Fault Unit} (found : c.db.bundles.row? id = some b)
    (saved : c.saveBundle? id = some (c', result)) : ∃ b', c'.db.bundles.row? id = some b' ∧ b'.items = b.items := by
  obtain ⟨b₀, place, saved⟩ := Option.bind_eq_some_iff.1 saved
  obtain rfl := Option.some.inj (found.symm.trans place)
  -- the bundle after it was changed, but for its items
  have changed {c : Catalog} {b : Bundle} (found : c.db.bundles.row? id = some b) (change : Bundle → Bundle) :
      (c.modifyBundle id change).db.bundles.row? id = some (change b) := by
    rw [modifyBundle, withDb, EntryTable.modify_eq found, EntryTable.row?_setRow_self (EntryTable.lt_of_row? found)]
  cases named : savable? b.entry with
  | none =>
    rw [named] at saved
    obtain ⟨rfl, -⟩ := Prod.mk.inj (Option.some.inj saved)
    exact ⟨b, found, rfl⟩
  | some own =>
    rw [named] at saved
    obtain ⟨d, -, saved⟩ := Option.bind_eq_some_iff.1 saved
    dsimp only at saved
    generalize (if b.dirName.isEmpty then
      freeName c.files c.config.ownBundles ((d.rootString? "name").getD "") ".tmbundle" else b.dirName) = dirName at saved
    have placed := changed found fun b => { b with dirName }
    generalize c.modifyBundle id (fun b => { b with dirName }) = c₁ at saved placed
    cases made : c₁.files.createDirectories (c₁.ownDir dirName) with
    | mk files result =>
      rw [made] at saved
      cases result with
      | error fault =>
        obtain ⟨rfl, -⟩ := Prod.mk.inj (Option.some.inj saved)
        exact ⟨_, placed, rfl⟩
      | ok _ =>
        dsimp only at saved
        have same := (bundles_saveDoc (nameDoc { c₁ with files } own fun _ => manifestName) own
          ((nameDoc { c₁ with files } own fun _ => manifestName).ownDir dirName)).trans (bundles_nameDoc { c₁ with files } own _)
        generalize nameDoc { c₁ with files } own (fun _ => manifestName) = c₂ at saved same
        generalize c₂.saveDoc own (c₂.ownDir dirName) = ending at saved same
        obtain ⟨c₃, result⟩ := ending
        have there : c₃.db.bundles.row? id = some { b with dirName } := same ▸ placed
        cases result with
        | error fault =>
          obtain ⟨rfl, -⟩ := Prod.mk.inj (Option.some.inj saved)
          exact ⟨_, there, rfl⟩
        | ok _ =>
          obtain ⟨rfl, -⟩ := Prod.mk.inj (Option.some.inj saved)
          exact ⟨_, changed there _, rfl⟩

theorem moves_deleteBundle? {result : Except Fault Bool} (spare : List Nat)
    (deleted : c.deleteBundle? id = some (c', result)) : Moves W N (spare, c.db) (spare, c'.db) := by
  obtain ⟨b, found, deleted⟩ := Option.bind_eq_some_iff.1 deleted
  have entry : (Row.release { own := true, installed := true } b c.db.docs).1.entry = b.entry :=
    Row.entry_release { own := true, installed := true } b c.db.docs
  generalize release : Row.release { own := true, installed := true } b c.db.docs = result at deleted entry
  obtain ⟨released, docs⟩ := result
  dsimp only at deleted entry
  rw [entry] at deleted
  split at deleted
  · rename_i pristine
    obtain ⟨rfl, -⟩ := Prod.mk.inj (Option.some.inj deleted)
    exact .single (.hide found pristine release)
  · rename_i pristine
    rw [Bool.not_eq_true] at pristine
    have uninstalled := ReflTransGen.single (Database.Move.uninstall (W := W) (N := N) spare found pristine release)
    split at deleted
    · obtain ⟨rfl, -⟩ := Prod.mk.inj (Option.some.inj deleted)
      refine .trans ?_ (moves_dropBundle spare _ id Locality.sources)
      exact uninstalled
    · split at deleted
      · obtain ⟨rfl, -⟩ := Prod.mk.inj (Option.some.inj deleted)
        exact uninstalled
      · rename_i removed
        obtain ⟨rfl, -⟩ := Prod.mk.inj (Option.some.inj deleted)
        exact uninstalled.tail (.bundles (.single (.delete removed)))

theorem moves_restoreBundle? {result : Except Fault Bool} (spare : List Nat)
    (restored : c.restoreBundle? id = some (c', result)) : Moves W N (spare, c.db) (spare, c'.db) := by
  obtain ⟨b, found, restored⟩ := Option.bind_eq_some_iff.1 restored
  split at restored
  · rename_i hidden
    rw [Bool.and_eq_true] at hidden
    dsimp only at restored
    split at restored
    · cases loaded : c.db.docs.load c.files (Path.join (Path.join c.config.pristineBundles b.dirName) manifestName) with
      | error fault =>
        rw [loaded] at restored
        obtain ⟨rfl, -⟩ := Prod.mk.inj (Option.some.inj restored)
        exact .refl
      | ok stored =>
        rw [loaded] at restored
        obtain ⟨rfl, -⟩ := Prod.mk.inj (Option.some.inj restored)
        have stored := Database.moves_load (W := W) (N := N) spare c.db loaded
        refine .trans (.trans ?_ (moves_registerManifest spare _ .pristine id _))
          (moves_syncItems spare _ .pristine (fun own => Bool.noConfusion own) _ id _)
        exact stored.tail (.reveal found hidden.1)
    · obtain ⟨rfl, -⟩ := Prod.mk.inj (Option.some.inj restored)
      exact .refl
  · obtain ⟨rfl, -⟩ := Prod.mk.inj (Option.some.inj restored)
    exact .refl

/-! ## Items -/

/-- Other items of a kind are put into a bundle. -/
theorem moves_withItems {taken : List Nat} {b : Bundle} {docs : DocumentTable} {table : EntryTable Entry}
    (found : c.db.bundles.row? owner = some b)
    (moves : EntryTable.Moves N (taken, b.items.get kind, c.db.docs) (spare, table, docs)) :
    Moves W N (taken, c.db) (spare, ((c.withDocs docs).withItems kind owner table).db) := by
  have put := ReflTransGen.single (Database.Move.items (W := W) (N := N) found (.moves moves))
  rwa [← EntryTable.modify_eq found fun row => { row with items := row.items.set kind table }] at put

theorem moves_newItem? {name : String} {i : Nat} (spare : List Nat) (made : c.newItem? kind owner name = some (c', i)) :
    Moves W N (spare, c.db) (spare, c'.db) := by
  obtain ⟨items, found, made⟩ := Option.bind_eq_some_iff.1 made
  obtain ⟨b, place, rfl⟩ := Option.map_eq_some_iff.1 found
  obtain ⟨rfl, -⟩ := Prod.mk.inj (Option.some.inj made)
  have unnamed : ((c.createDoc name none).1.db.docs.get (c.createDoc name none).2).filename = "" := by
    rcases c.db.docs.get_insert_self_or { Document.create name c.identities.draw.1 with filename := "" } with new | vacant
    · exact congrArg Document.filename new
    · exact congrArg Document.filename vacant
  refine (moves_createDoc spare c name none).trans
    (moves_withItems (c := (c.createDoc name none).1) place (.single (.insert .own fun _ => .inr ?_)))
  rw [unnamed]
  exact EntryTable.lacks_empty _ _

theorem moves_editItem? {own : Nat} (spare : List Nat)
    (named : N ∨ ∀ b, c.db.bundles.row? owner = some b → (b.items.get kind).Adoptable c.db.docs id)
    (edited : c.editItem? kind owner id = some (c', own)) : Moves W N (spare, c.db) (spare, c'.db) := by
  obtain ⟨items, found, edited⟩ := Option.bind_eq_some_iff.1 edited
  obtain ⟨b, place, rfl⟩ := Option.map_eq_some_iff.1 found
  obtain ⟨⟨table, docs, doc⟩, made, edited⟩ := Option.bind_eq_some_iff.1 edited
  obtain ⟨rfl, -⟩ := Prod.mk.inj (Option.some.inj edited)
  exact moves_withItems place (.head (.edit made (named.imp_right fun adoptable => adoptable b place)) (.single .mark))

/-- An item is marked as unchanged. -/
theorem moves_unmarkItem (spare : List Nat) (c : Catalog) (kind : ItemKind) (owner id : Nat) :
    Moves W N (spare, c.db) (spare, (c.modifyItem kind owner id fun e => { e with modified := false }).db) := by
  rw [modifyItem, modifyBundle]
  cases found : c.db.bundles.row? owner with
  | none =>
    have absent : c.db.bundles.rows[owner]? = none := found
    rw [List.modify_eq_set_getElem?, absent]
    exact .refl
  | some b =>
    rw [EntryTable.modify_eq found]
    exact .single (.items found (.moves (.single .mark)))

/-- The catalog that an item of a bundle is written in: a bundle that was never saved is saved first. -/
def readied? (c : Catalog) (owner : Nat) : Option Catalog := do
  let b ← c.db.bundles.row? owner
  if b.dirName.isEmpty then (c.saveBundle? owner).map Prod.fst else return c

/-- The name that an item without one gets when it is written is not that of an item that no file holds yet. -/
def Namable (c : Catalog) (kind : ItemKind) (owner id : Nat) : Prop :=
  ∀ c₁ b doc, c.readied? owner = some c₁ → c₁.db.bundles.row? owner = some b → (b.items.get kind).ownDoc? id = some doc →
    (b.items.get kind).ownName? c₁.db.docs id = none → (b.items.get kind).Written c₁.db.docs c₁.files
      (c₁.ownItemDir kind b.dirName) (freeName c₁.files (c₁.ownItemDir kind b.dirName)
        (((c₁.db.docs.get doc).rootString? "name").getD "") kind.extension)

theorem moves_saveItem? {result : Except Fault Unit} (spare : List Nat) (namable : N ∨ c.Namable kind owner id)
    (saved : c.saveItem? kind owner id = some (c', result)) : Moves W N (spare, c.db) (spare, c'.db) := by
  obtain ⟨row, place, saved⟩ := Option.bind_eq_some_iff.1 saved
  obtain ⟨e, item, saved⟩ := Option.bind_eq_some_iff.1 saved
  cases named : savable? e with
  | none =>
    rw [named] at saved
    obtain ⟨rfl, -⟩ := Prod.mk.inj (Option.some.inj saved)
    exact .refl
  | some own =>
    rw [named] at saved
    dsimp -zeta only at saved
    extract_lets jp at saved
    have owned : (row.items.get kind).ownDoc? id = some own := by
      rw [Catalog.item?, itemTable?, place] at item
      exact Option.bind_eq_some_iff.2 ⟨e, item, named⟩
    -- what comes after the bundle was saved, if it never was before
    have rest (x : Catalog × Except Fault Unit) (ready : Moves W N (spare, c.db) (spare, x.1.db))
        (readied : c.readied? owner = some x.1) (kept : ∃ b, x.1.db.bundles.row? owner = some b ∧ b.items = row.items)
        (saved : jp x = some (c', result)) : Moves W N (spare, c.db) (spare, c'.db) := by
      obtain ⟨c₁, bundleSaved⟩ := x
      cases bundleSaved with
      | error fault =>
        obtain ⟨rfl, -⟩ := Prod.mk.inj (Option.some.inj saved)
        exact ready
      | ok _ =>
        obtain ⟨b, there, items⟩ := kept
        obtain ⟨dirName, stands, saved⟩ := Option.bind_eq_some_iff.1 saved
        obtain ⟨d, -, saved⟩ := Option.bind_eq_some_iff.1 saved
        obtain rfl : b.dirName = dirName := by
          rw [bundleDirName?, there] at stands
          exact Option.some.inj stands
        rw [← items] at owned
        have named := ready.trans (moves_nameItem spare there owned (fun name =>
          freeName c₁.files (c₁.ownItemDir kind b.dirName) name kind.extension) (namable.imp_right fun namable unnamed =>
            (namable c₁ b own readied there owned unnamed).lacks_freeName kind.isExtension))
        dsimp only at saved
        generalize c₁.nameDoc own (fun name =>
          freeName c₁.files (c₁.ownItemDir kind b.dirName) name kind.extension) = c₂ at saved named
        have written := named.trans (moves_saveDoc spare c₂ own (c₁.ownItemDir kind b.dirName))
        generalize c₂.saveDoc own (c₁.ownItemDir kind b.dirName) = ending at saved written
        obtain ⟨c₃, result⟩ := ending
        cases result with
        | error fault =>
          obtain ⟨rfl, -⟩ := Prod.mk.inj (Option.some.inj saved)
          exact written
        | ok _ =>
          obtain ⟨rfl, -⟩ := Prod.mk.inj (Option.some.inj saved)
          exact written.trans (moves_unmarkItem spare c₃ kind owner id)
    split at saved
    · rename_i new
      obtain ⟨x, first, saved⟩ := Option.bind_eq_some_iff.1 saved
      refine rest x (moves_saveBundle? spare first) ?_ (items_saveBundle? place first) saved
      rw [readied?, place]
      exact (if_pos new).trans (congrArg (Option.map Prod.fst) first)
    · rename_i old
      refine rest (c, .ok ()) .refl ?_ ⟨row, place, rfl⟩ saved
      rw [readied?, place]
      exact if_neg old

theorem moves_deleteItem? {result : Except Fault Reload} (spare : List Nat)
    (deleted : c.deleteItem? kind owner id = some (c', result)) : Moves W N (spare, c.db) (spare, c'.db) := by
  obtain ⟨b, place, deleted⟩ := Option.bind_eq_some_iff.1 deleted
  obtain ⟨e, -, deleted⟩ := Option.bind_eq_some_iff.1 deleted
  split at deleted
  · obtain ⟨rfl, -⟩ := Prod.mk.inj (Option.some.inj deleted)
    exact .refl
  · rename_i removed
    obtain ⟨rfl, -⟩ := Prod.mk.inj (Option.some.inj deleted)
    exact moves_withItems place (.single (.delete removed))

theorem moves_restoreItem? {restored : Bool} (spare : List Nat)
    (shown : c.restoreItem? kind owner id = some (c', restored)) : Moves W N (spare, c.db) (spare, c'.db) := by
  obtain ⟨e, -, shown⟩ := Option.bind_eq_some_iff.1 shown
  obtain ⟨items, found, shown⟩ := Option.bind_eq_some_iff.1 shown
  obtain ⟨b, place, rfl⟩ := Option.map_eq_some_iff.1 found
  have restore := EntryTable.Move.restore (N := N) spare (b.items.get kind) c.db.docs id
  generalize (b.items.get kind).restore id = ending at shown restore
  obtain ⟨table, done⟩ := ending
  cases done <;> obtain ⟨rfl, -⟩ := Prod.mk.inj (Option.some.inj shown)
  · exact .refl
  · exact moves_withItems place (.single restore)

/-! ## Themes -/

theorem keyed_addColors {d : Document} (h : d.Keyed) : (addColors d).Keyed := by
  have colored (slot : Nat) (colors : List (String × String)) {d : Document} (h : d.Keyed) :
      (colors.foldl (fun d color => d.setString slot color.1 color.2) d).Keyed := by
    induction colors generalizing d with
    | nil => exact h
    | cons color colors ih => exact ih (h.setString slot color.1 color.2)
  rw [addColors]
  exact colored _ defaultColors (((h.newArray _ _).pushDict _).newDict _ _)

theorem sameFile_addColors (d : Document) : d.SameFile (addColors d) := by
  have colored (slot : Nat) (colors : List (String × String)) {e : Document} (h : d.SameFile e) :
      d.SameFile (colors.foldl (fun d color => d.setString slot color.1 color.2) e) :=
    h.trans (.foldl (fun d color => d.sameFile_setString slot color.1 color.2) e colors)
  have pushed {e : Document} (slot : Nat) (h : d.SameFile e) : d.SameFile (e.pushDict slot).1 := h.trans e.sameFile_addDict
  have inner {e : Document} (slot : Nat) (h : d.SameFile e) : d.SameFile (e.newDict slot "settings").1 :=
    h.trans (e.sameFile_newDict slot "settings")
  rw [addColors]
  exact colored _ defaultColors (inner _ (pushed _ (d.sameFile_newArray _ _)))

/-- The name that a new theme gets is not that of a theme that no file holds yet. -/
def NamableTheme (c : Catalog) (name : String) : Prop :=
  c.db.themes.Written c.db.docs c.files c.config.ownThemes (freeName c.files c.config.ownThemes name ".tmTheme")

/-- The document of a new theme has the name that is chosen, and the others keep theirs. -/
theorem filename_newTheme {held : List Nat} (holding : c.db.docs.Holding held) (name filename : String) :
    let created := c.createDoc name (some filename)
    let docs := created.1.db.docs.modify created.2 addColors
    (docs.get created.2).filename = filename ∧ ∀ doc ∈ held, (docs.get doc).filename = (c.db.docs.get doc).filename := by
  intro created docs
  have colored := DocumentTable.filename_modify (fun d => (sameFile_addColors d).1) created.1.db.docs created.2
  have new : created.1.db.docs.get created.2 = { Document.create name c.identities.draw.1 with filename } :=
    DocumentTable.get_insert holding _
  have old : ∀ doc ∈ held, created.1.db.docs.get doc = c.db.docs.get doc := EntryTable.get_insert_of_held holding rfl
  refine ⟨(colored _).trans (congrArg Document.filename new), fun doc member => ?_⟩
  exact (colored doc).trans (congrArg Document.filename (old doc member))

theorem moves_newTheme (spare : List Nat) (c : Catalog) (name : String)
    (named : N ∨ (∃ held, c.db.docs.Holding held) ∧ c.db.themes.Stored c.db.docs ∧ c.NamableTheme name) :
    Moves W N (spare, c.db) (spare, (c.newTheme name).1.db) := by
  have stored := moves_createDoc (W := W) (N := N) spare c name (some (freeName c.files c.config.ownThemes name ".tmTheme"))
  have colored := stored.tail (.fill List.mem_cons_self (fun _ => isVacant_addColors) fun _ => keyed_addColors)
  refine colored.tail (.themes (.moves (.head (.insert .own fun _ => named.imp_right ?_) (.single .mark))))
  rintro ⟨⟨held, holding⟩, stored, namable⟩
  obtain ⟨chosen, kept⟩ := filename_newTheme holding name (freeName c.files c.config.ownThemes name ".tmTheme")
  intro id named
  have names : EntryTable.NamesFrom none c.db.themes c.db.docs c.db.themes _ :=
    EntryTable.namesFrom_docs fun id doc own => kept doc (holding.mem_iff.2 (stored id doc own))
  rw [chosen] at named
  exact namable.lacks_freeName isExtension_theme id (names.named named)

theorem moves_editTheme? {own : Nat} (spare : List Nat) (named : N ∨ c.db.themes.Adoptable c.db.docs id)
    (edited : c.editTheme? id = some (c', own)) :
    Moves W N (spare, c.db) (spare, c'.db) := by
  obtain ⟨⟨themes, docs, doc⟩, made, edited⟩ := Option.bind_eq_some_iff.1 edited
  obtain ⟨rfl, -⟩ := Prod.mk.inj (Option.some.inj edited)
  exact .single (.themes (.moves (.single (.edit made named))))

theorem moves_markTheme? (spare : List Nat) (marked : c.markTheme? id = some c') : Moves W N (spare, c.db) (spare, c'.db) := by
  obtain ⟨e, -, marked⟩ := Option.bind_eq_some_iff.1 marked
  obtain rfl := Option.some.inj marked
  exact .single (.themes (.moves (.single .mark)))

theorem moves_saveTheme? {result : Except Fault Unit} (spare : List Nat)
    (saved : c.saveTheme? id = some (c', result)) : Moves W N (spare, c.db) (spare, c'.db) := by
  obtain ⟨e, -, saved⟩ := Option.bind_eq_some_iff.1 saved
  cases named : savable? e with
  | none =>
    rw [named] at saved
    obtain ⟨rfl, -⟩ := Prod.mk.inj (Option.some.inj saved)
    exact .refl
  | some own =>
    rw [named] at saved
    have written := moves_saveDoc (W := W) (N := N) spare c own c.config.ownThemes
    dsimp only at saved
    generalize c.saveDoc own c.config.ownThemes = ending at saved written
    obtain ⟨c₁, ended⟩ := ending
    cases ended <;> obtain ⟨rfl, -⟩ := Prod.mk.inj (Option.some.inj saved)
    · exact written
    · exact written.tail (.themes (.moves (.single .mark)))

theorem moves_deleteTheme? {result : Except Fault Unit} (spare : List Nat)
    (deleted : c.deleteTheme? id = some (c', result)) : Moves W N (spare, c.db) (spare, c'.db) := by
  obtain ⟨e, -, deleted⟩ := Option.bind_eq_some_iff.1 deleted
  split at deleted
  · obtain ⟨rfl, -⟩ := Prod.mk.inj (Option.some.inj deleted)
    exact .refl
  · rename_i removed
    obtain ⟨rfl, -⟩ := Prod.mk.inj (Option.some.inj deleted)
    exact .single (.themes (.moves (.single (.delete removed))))

theorem moves_restoreTheme? {restored : Bool} (spare : List Nat) (shown : c.restoreTheme? id = some (c', restored)) :
    Moves W N (spare, c.db) (spare, c'.db) := by
  obtain ⟨e, -, shown⟩ := Option.bind_eq_some_iff.1 shown
  have restore := EntryTable.Move.restore (N := N) spare c.db.themes c.db.docs id
  generalize c.db.themes.restore id = ending at shown restore
  obtain ⟨themes, done⟩ := ending
  cases done <;> obtain ⟨rfl, -⟩ := Prod.mk.inj (Option.some.inj shown)
  · exact .refl
  · exact .single (.themes (.moves (.single restore)))

theorem moves_saveThemes (spare : List Nat) (c : Catalog) (ids : List Nat) :
    Moves W N (spare, c.db) (spare, (c.saveThemes ids).1.db) := by
  induction ids generalizing c with
  | nil => exact .refl
  | cons id ids ih =>
    rw [saveThemes]
    split
    · exact ih c
    · rename_i own _
      have written := moves_saveDoc (W := W) (N := N) spare c own c.config.ownThemes
      generalize c.saveDoc own c.config.ownThemes = ending at written
      obtain ⟨c₁, ended⟩ := ending
      cases ended with
      | error fault => exact written
      | ok _ =>
        refine .trans ?_ (ih _)
        exact written.tail (.themes (.moves (.single .mark)))

theorem moves_commit (spare : List Nat) (c : Catalog) : Moves W N (spare, c.db) (spare, c.commit.1.db) := by
  have saved := moves_saveThemes (W := W) (N := N) spare c (List.range c.db.themes.size)
  rw [commit]
  generalize c.saveThemes (List.range c.db.themes.size) = ending at saved
  obtain ⟨c₁, result⟩ := ending
  cases result with
  | error fault => exact saved
  | ok _ =>
    show Moves W N (spare, c.db) (spare, c₁.markDirty.flush.1.db)
    rw [flush_db]
    exact saved

/-! ## Operations -/

/-- An operation that gives a result next to the catalog. -/
theorem moves_of_map {α : Type} {run : Option (Catalog × α)}
    (moves : ∀ c' result, run = some (c', result) → Moves W N (spare, c.db) (spare, c'.db))
    (runs : run.map Prod.fst = some c') : Moves W N (spare, c.db) (spare, c'.db) := by
  obtain ⟨⟨c', result⟩, ran, rfl⟩ := Option.map_eq_some_iff.1 runs
  exact moves c' result ran

/-- What has to be so for an operation to give own versions no name that another one of the table has. A scan finds a regular
file system. Where a name is chosen, only files are looked at, and so it must not be that of an own version that no file
holds yet. A copy of a factory version has its name, which must not be that of an own version. -/
def Unclaimed (c : Catalog) : Operation → Prop
  | .update _ => c.files.Regular
  | .resume => c.files.Regular
  | .editItem kind owner id => ∀ b, c.db.bundles.row? owner = some b → (b.items.get kind).Adoptable c.db.docs id
  | .saveItem kind owner id => c.Namable kind owner id
  | .newTheme name => c.NamableTheme name
  | .editTheme id => c.db.themes.Adoptable c.db.docs id
  | _ => True

/-- Every operation is a sequence of moves. -/
theorem Operation.moves (spare : List Nat) {op : Operation} (written : ∀ doc content, op = .write doc content → W content)
    (named : N ∨ (∃ held, c.db.docs.Holding held) ∧ c.db.themes.Stored c.db.docs ∧ c.Unclaimed op)
    (runs : op.run? c = some c') :
    Moves W N (spare, c.db) (spare, c'.db) := by
  have unclaimed : N ∨ c.Unclaimed op := named.imp_right fun known => known.2.2
  cases op with
  | update mode =>
    obtain rfl := Option.some.inj runs
    exact moves_update spare c unclaimed mode
  | resume =>
    obtain rfl := Option.some.inj runs
    exact moves_resume spare c unclaimed
  | newBundle name =>
    obtain rfl := Option.some.inj runs
    exact moves_newBundle spare c name
  | editBundle id => exact moves_of_map (fun _ _ ran => moves_editBundle? spare ran) runs
  | saveBundle id => exact moves_of_map (fun _ _ ran => moves_saveBundle? spare ran) runs
  | deleteBundle id => exact moves_of_map (fun _ _ ran => moves_deleteBundle? spare ran) runs
  | restoreBundle id => exact moves_of_map (fun _ _ ran => moves_restoreBundle? spare ran) runs
  | newItem kind owner name => exact moves_of_map (fun _ _ ran => moves_newItem? spare ran) runs
  | editItem kind owner id => exact moves_of_map (fun _ _ ran => moves_editItem? spare unclaimed ran) runs
  | saveItem kind owner id => exact moves_of_map (fun _ _ ran => moves_saveItem? spare unclaimed ran) runs
  | deleteItem kind owner id => exact moves_of_map (fun _ _ ran => moves_deleteItem? spare ran) runs
  | restoreItem kind owner id => exact moves_of_map (fun _ _ ran => moves_restoreItem? spare ran) runs
  | newTheme name =>
    obtain rfl := Option.some.inj runs
    exact moves_newTheme spare c name named
  | editTheme id => exact moves_of_map (fun _ _ ran => moves_editTheme? spare unclaimed ran) runs
  | markTheme id => exact moves_markTheme? spare runs
  | saveTheme id => exact moves_of_map (fun _ _ ran => moves_saveTheme? spare ran) runs
  | deleteTheme id => exact moves_of_map (fun _ _ ran => moves_deleteTheme? spare ran) runs
  | restoreTheme id => exact moves_of_map (fun _ _ ran => moves_restoreTheme? spare ran) runs
  | write doc content => exact moves_write? spare (written doc content rfl) runs
  | setSyntax ext name =>
    obtain rfl := Option.some.inj runs
    exact .single .associate
  | commit =>
    obtain rfl := Option.some.inj runs
    exact moves_commit spare c
  | flush =>
    obtain rfl := Option.some.inj runs
    rw [flush_db]
  | flushIfDue now =>
    obtain rfl := Option.some.inj runs
    rw [flushIfDue_db]
  | exportBundle target id => exact moves_of_map (fun _ _ ran => exportBundle?_db ran ▸ .refl) runs
  | exportItem target kind owner id => exact moves_of_map (fun _ _ ran => exportItem?_db ran ▸ .refl) runs
  | changeFiles files =>
    obtain rfl := Option.some.inj runs
    exact .refl

end EditorBundles.Catalog
