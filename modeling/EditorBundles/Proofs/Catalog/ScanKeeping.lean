import EditorBundles.Catalog.Scan
import EditorBundles.Proofs.Catalog.BundleKeeping
import EditorBundles.Proofs.Catalog.SyncKeeping

/-!
# Scans and the documents of a catalog

The themes and the bundles of a catalog share one table of documents, and what is not theirs is vacant:
`Database.Keeping`. A scan keeps it so. On its way it holds documents that no row has yet, which are the
spare ones.
-/

namespace EditorBundles.Catalog
set_option autoImplicit false
open PropertyList
open PropertyList.DocumentTable (Rewrites Trades)

/-- Themes and bundles are sound, and the documents are the spare ones and those of the themes and bundles,
each held once. -/
structure Database.Keeping (db : Database) (spare : List Nat) : Prop where
  themes : db.themes.Sound
  bundles : db.bundles.Sound
  holding : db.docs.Holding (spare ++ (db.themes.held ++ db.bundles.held))

variable {db : Database} {spare taken : List Nat} {docs : DocumentTable}

/-- An operation on the themes passes their documents on, and takes some of the spare ones. -/
theorem EntryTable.Passes.inThemes {themes : EntryTable Entry} (passes : Passes taken db.themes db.docs themes docs)
    (h : db.Keeping (taken ++ spare)) : ({ db with themes, docs } : Database).Keeping spare where
  themes := passes.sound
  bundles := h.bundles
  holding := by
    have before : (taken ++ spare ++ (db.themes.held ++ db.bundles.held)).Perm
        (taken ++ db.themes.held ++ (spare ++ db.bundles.held)) := by
      rw [List.append_assoc, List.append_assoc]
      exact (List.perm_append_comm_assoc _ _ _).append_left taken
    exact (passes.trades _ (h.holding.perm before)).1.perm (List.perm_append_comm_assoc _ _ _)

/-- An operation on the bundles passes their documents on, and takes some of the spare ones. -/
theorem EntryTable.Passes.inBundles {bundles : EntryTable Bundle} (passes : Passes taken db.bundles db.docs bundles docs)
    (h : db.Keeping (taken ++ spare)) : ({ db with bundles, docs } : Database).Keeping spare where
  themes := h.themes
  bundles := passes.sound
  holding := by
    have before : (taken ++ spare ++ (db.themes.held ++ db.bundles.held)).Perm
        (taken ++ db.bundles.held ++ (spare ++ db.themes.held)) := by
      simp only [List.perm_iff_count, List.count_append]
      intro index
      omega
    refine (passes.trades _ (h.holding.perm before)).1.perm ?_
    exact List.perm_append_comm.trans (.of_eq (List.append_assoc _ _ _))

namespace Database

theorem keeping_empty : Keeping {} [] := ⟨EntryTable.sound_empty, EntryTable.sound_empty, DocumentTable.holding_empty⟩

namespace Keeping

/-- A document that is stored is a spare one. -/
theorem store (h : db.Keeping spare) {doc : Nat} (stored : db.docs.Trades docs [] [doc]) :
    ({ db with docs } : Database).Keeping (doc :: spare) :=
  ⟨h.themes, h.bundles, (stored _ h.holding).1⟩

/-- A factory document of a bundle is there. -/
theorem isVacant_factoryDoc (h : db.Keeping spare) {id doc : Nat} {e : Entry} (found : db.bundles.entryAt? id = some e)
    (named : e.factoryDoc = some doc) : (db.docs.get doc).isVacant = false := by
  obtain ⟨b, place, rfl⟩ := EntryTable.row?_of_entryAt? found
  refine h.holding.stored doc (List.mem_append_right _ (List.mem_append_right _ ?_))
  refine List.mem_flatMap.2 ⟨b, EntryTable.mem_of_row? place, ?_⟩
  simp [heldBy, Entry.held, named]

/-- Documents are written to. -/
theorem rewrite (h : db.Keeping spare) (rewrites : db.docs.Rewrites docs) : ({ db with docs } : Database).Keeping spare :=
  ⟨h.themes, h.bundles, h.holding.rewrite rewrites⟩

end Keeping

end Database

/-! ## Documents of a catalog -/

variable {c : Catalog} {loc : Locality} {id doc : Nat}

/-- A new document is stored. -/
theorem createDoc_db (c : Catalog) (name : String) (filename : Option String) :
    ∃ docs, (c.createDoc name filename).1.db = { c.db with docs } ∧
      c.db.docs.Trades docs [] [(c.createDoc name filename).2] :=
  ⟨_, rfl, c.db.docs.trades_insert rfl⟩

/-- Writing a document to its file notes the time of the file. -/
theorem saveDoc_db (c : Catalog) (doc : Nat) (dir : String) :
    ∃ docs, (c.saveDoc doc dir).1.db = { c.db with docs } ∧ c.db.docs.Rewrites docs := by
  rw [saveDoc]
  cases saved : c.db.docs.save c.files doc dir with
  | mk docs rest =>
    have rewrites := DocumentTable.rewrites_save c.db.docs c.files doc dir
    rw [saved] at rewrites
    obtain ⟨files, result⟩ := rest
    cases result <;> exact ⟨docs, rfl, rewrites⟩

/-- A manifest gets its file name and is written. -/
theorem nameManifest_db (c : Catalog) (manifest : Nat) (bundleDir : String) :
    ∃ docs, ((c.withDocs (c.db.docs.modify manifest fun d => { d with filename := manifestName })).saveDoc manifest
      bundleDir).1.db = { c.db with docs } ∧ c.db.docs.Rewrites docs := by
  obtain ⟨docs, saved, rewrites⟩ :=
    (c.withDocs (c.db.docs.modify manifest fun d => { d with filename := manifestName })).saveDoc_db manifest bundleDir
  have named : c.db.docs.Rewrites (c.db.docs.modify manifest fun d => { d with filename := manifestName }) :=
    c.db.docs.rewrites_set rfl
  exact ⟨docs, saved, named.trans rewrites⟩

/-- A manifest that is made is a new document, which no bundle has yet. -/
theorem makeManifest_keeps (h : c.db.Keeping spare) (bundleDir dirName : String) (factory : Option Nat)
    (stored : ∀ doc ∈ factory, (c.db.docs.get doc).isVacant = false) :
    (c.makeManifest bundleDir dirName factory).1.db.Keeping ((c.makeManifest bundleDir dirName factory).2 :: spare) ∧
      (c.makeManifest bundleDir dirName factory).1.db.bundles = c.db.bundles := by
  -- whichever document is stored is named and written
  have ending {c' saved : Catalog} {docs : DocumentTable} {manifest : Nat} (same : c'.db = { c.db with docs })
      (trades : c.db.docs.Trades docs [] [manifest])
      (saves : ∃ docs', saved.db = { c'.db with docs := docs' } ∧ c'.db.docs.Rewrites docs') :
      saved.db.Keeping (manifest :: spare) ∧ saved.db.bundles = c.db.bundles := by
    obtain ⟨docs', saved_eq, rewrites⟩ := saves
    rw [same] at saved_eq rewrites
    rw [saved_eq]
    exact ⟨(h.store trades).rewrite rewrites, rfl⟩
  cases factory with
  | none =>
    obtain ⟨docs, same, trades⟩ := c.createDoc_db (displayName dirName) (some manifestName)
    exact ending same trades (nameManifest_db _ _ bundleDir)
  | some factory =>
    have trades : c.db.docs.Trades (c.db.docs.copy factory).1 [] [(c.db.docs.copy factory).2] :=
      c.db.docs.trades_insert (stored factory rfl)
    have saves := (c.withDocs (c.db.docs.copy factory).1).nameManifest_db (c.db.docs.copy factory).2 bundleDir
    have stored : (c.withDocs (c.db.docs.copy factory).1).db = { c.db with docs := (c.db.docs.copy factory).1 } := rfl
    exact ending stored trades saves

/-- The factory manifest of a bundle is there. -/
theorem isVacant_factoryManifest (h : c.db.Keeping spare) (id : Nat) (named : doc ∈ c.factoryManifest? id) :
    (c.db.docs.get doc).isVacant = false := by
  obtain ⟨e, found, named⟩ := Option.bind_eq_some_iff.1 named
  split at named
  · exact h.isVacant_factoryDoc found named
  · cases named

/-! ## Bundles and their directories -/

/-- A manifest that is stored is recorded as a version of a bundle. -/
theorem registerManifest_keeps (h : c.db.Keeping (doc :: spare)) (source : loc.IsSource) (here : c.db.bundles.Here id) :
    (c.registerManifest id doc loc).db.Keeping spare ∧ (c.registerManifest id doc loc).db.bundles.Here id :=
  ⟨(EntryTable.passes_register h.bundles source here doc c.db.docs).inBundles h,
    EntryTable.here_register here source doc c.db.docs⟩

theorem dropBundle_keeps (h : c.db.Keeping spare) (id : Nat) (loc : Locality) : (c.dropBundle id loc).db.Keeping spare :=
  (EntryTable.passes_drop h.bundles id loc c.db.docs).inBundles h

/-- The items of a bundle that is there are brought in line with its directory. -/
theorem syncItems_keeps (h : c.db.Keeping spare) (source : loc.IsSource) (here : c.db.bundles.Here id)
    (bundleDir : String) (kinds : List ItemKind) :
    (c.syncItems bundleDir loc id kinds).db.Keeping spare ∧ (c.syncItems bundleDir loc id kinds).db.bundles.Here id := by
  induction kinds generalizing c with
  | nil => exact ⟨h, here⟩
  | cons kind kinds ih =>
    obtain ⟨b, place, here⟩ := here.exists_row
    have sound := h.bundles.rows b (EntryTable.mem_of_row? place)
    have passes := EntryTable.passes_sync (sound.settled kind) source c.db.docs c.files (Path.join bundleDir kind.dirName)
      kind.extension
    rw [syncItems, place]
    exact ih ((Bundle.passes_items h.bundles place here passes).inBundles h)
      (EntryTable.here_setRow (EntryTable.lt_of_row? place) here)

/-- The manifest of a bundle is brought in line with its directory. -/
theorem updateManifest_keeps (h : c.db.Keeping spare) (source : loc.IsSource) (here : c.db.bundles.Here id)
    (bundleDir dirName : String) :
    (c.updateManifest id bundleDir dirName loc).1.db.Keeping spare ∧
      ((c.updateManifest id bundleDir dirName loc).2 = true →
        (c.updateManifest id bundleDir dirName loc).1.db.bundles.Here id) := by
  have dropped := dropBundle_keeps h id loc
  rw [updateManifest]
  dsimp only
  split
  · cases (c.db.bundles.entryAt? id).bind (·.docFor loc) with
    | none => exact ⟨h, fun _ => here⟩
    | some current =>
      dsimp only
      split
      · cases loaded : c.db.docs.load c.files (Path.join bundleDir manifestName) with
        | error fault => exact ⟨dropped, fun kept => Bool.noConfusion kept⟩
        | ok result =>
          obtain ⟨-, -, -, stored⟩ := DocumentTable.load_eq_ok loaded
          have registered := registerManifest_keeps (c := c.withDocs result.1) (h.store stored) source here
          exact ⟨registered.1, fun _ => registered.2⟩
      · exact ⟨h, fun _ => here⟩
  · split
    · obtain ⟨keeping, same⟩ := makeManifest_keeps h bundleDir dirName _ fun _ => isVacant_factoryManifest h id
      generalize c.makeManifest bundleDir dirName (c.factoryManifest? id) = result at keeping same
      obtain ⟨c', manifest⟩ := result
      have registered := registerManifest_keeps keeping source (by rwa [same])
      exact ⟨registered.1, fun _ => registered.2⟩
    · exact ⟨dropped, fun kept => Bool.noConfusion kept⟩

/-! ## Scans -/

/-- A bundle with a version at a locality is there. -/
theorem here_of_contains (h : c.db.Keeping spare) (source : loc.IsSource) {b : Bundle}
    (place : c.db.bundles.row? id = some b) (contains : b.entry.locality.contains loc = true) : c.db.bundles.Here id := by
  have sound := h.bundles.rows b (EntryTable.mem_of_row? place)
  exact EntryTable.here_of_row? place (sound.live_of_hasSource (source.hasSource_of_contains contains)).here

theorem updateKnown_keeps (h : c.db.Keeping spare) (source : loc.IsSource) (root : String) (mode : ScanMode)
    (dirs : List String) (ids : List Nat) : (c.updateKnown root loc mode dirs ids).1.db.Keeping spare := by
  induction ids generalizing c dirs with
  | nil => exact h
  | cons id ids ih =>
    rw [updateKnown]
    cases found : (c.db.bundles.row? id).filter fun b => b.entry.locality.contains loc with
    | none => exact ih h dirs
    | some b =>
      obtain ⟨place, contains⟩ := Option.filter_eq_some_iff.1 found
      have here := here_of_contains h source place contains
      dsimp only
      split
      · split
        · exact ih h _
        · have read : ∀ result, result =
              (if mode = .rest then (c, true) else c.updateManifest id (Path.join root b.dirName) b.dirName loc) →
              result.1.db.Keeping spare ∧ (result.2 = true → result.1.db.bundles.Here id) := by
            rintro result rfl
            split
            · exact ⟨h, fun _ => here⟩
            · exact updateManifest_keeps h source here _ _
          generalize (if mode = .rest then (c, true) else
            c.updateManifest id (Path.join root b.dirName) b.dirName loc) = result at read
          obtain ⟨c', kept⟩ := result
          obtain ⟨updated, here⟩ := read _ rfl
          dsimp only
          split
          · exact ih (syncItems_keeps updated source (here ‹_›) _ _).1 _
          · exact ih updated _
      · split
        · exact ih h dirs
        · exact ih (dropBundle_keeps h id loc) dirs

/-- The bundle that has a directory is there. -/
theorem here_of_findDir? {dirName : String} (found : c.findDir? dirName = some id) : c.db.bundles.Here id := by
  obtain ⟨bound, matches_, -⟩ := List.findIdx?_eq_some_iff_getElem.1 found
  rw [Bool.and_eq_true, Bool.not_eq_true'] at matches_
  exact EntryTable.here_of_row? (List.getElem?_eq_getElem bound) matches_.1

/-- The manifest of a new bundle is a document that no bundle has yet. -/
theorem newManifest?_keeps (h : c.db.Keeping spare) {bundleDir dirName : String} {existing : Option Nat} {c' : Catalog}
    {manifest : Nat} (made : c.newManifest? bundleDir dirName loc existing = some (c', manifest)) :
    c'.db.Keeping (manifest :: spare) ∧ c'.db.bundles = c.db.bundles := by
  rw [newManifest?] at made
  split at made
  · cases loaded : c.db.docs.load c.files (Path.join bundleDir manifestName) with
    | error fault =>
      rw [loaded] at made
      cases made
    | ok result =>
      obtain ⟨-, -, -, stored⟩ := DocumentTable.load_eq_ok loaded
      rw [loaded] at made
      obtain ⟨rfl, rfl⟩ := Prod.mk.inj (Option.some.inj made)
      exact ⟨h.store stored, rfl⟩
  · split at made
    · have keeps := makeManifest_keeps h bundleDir dirName (existing.bind c.factoryManifest?) fun doc named => by
        obtain ⟨id, -, named⟩ := Option.bind_eq_some_iff.1 named
        exact isVacant_factoryManifest h id named
      rwa [Option.some.inj made] at keeps
    · cases made

/-- A manifest that is stored gets a new row, which has the name of its directory. -/
theorem insertBundle_keeps {manifest : Nat} (h : c.db.Keeping (manifest :: spare)) (source : loc.IsSource) (dirName : String) :
    let inserted := c.db.bundles.insert manifest loc c.db.docs
    let bundles : EntryTable Bundle := ⟨inserted.1.rows.modify inserted.2 fun b => { b with dirName }⟩
    ({ c.db with bundles } : Database).Keeping spare ∧ bundles.Here inserted.2 := by
  have inserted := (EntryTable.passes_insert h.bundles source manifest c.db.docs).inBundles h
  obtain ⟨b, place, here⟩ := (EntryTable.here_insert c.db.bundles source manifest c.db.docs).exists_row
  have named := (EntryTable.passes_modify inserted.bundles (c.db.bundles.insert manifest loc c.db.docs).2
    (fun b => { b with dirName }) c.db.docs (by
      intro other found sound
      obtain rfl := Option.some.inj (place.symm.trans found)
      exact ⟨⟨sound.settled, .inl (sound.live here)⟩, rfl, rfl⟩)).inBundles inserted
  exact ⟨named, EntryTable.here_modify place (fun b => { b with dirName }) here⟩

theorem addBundles_keeps (h : c.db.Keeping spare) (source : loc.IsSource) (root : String) (mode : ScanMode)
    (dirs : List String) : (c.addBundles root loc mode dirs).db.Keeping spare := by
  induction dirs generalizing c with
  | nil => exact h
  | cons dirName dirs ih =>
    rw [addBundles]
    dsimp only
    split
    · exact ih h
    · cases made : c.newManifest? (Path.join root dirName) dirName loc (c.findDir? dirName) with
      | none => exact ih h
      | some result =>
        obtain ⟨c', manifest⟩ := result
        obtain ⟨keeping, same⟩ := newManifest?_keeps h made
        dsimp only
        cases existing : c.findDir? dirName with
        | some id =>
          have here := here_of_findDir? existing
          rw [← same] at here
          obtain ⟨registered, here⟩ := registerManifest_keeps keeping source here
          exact ih (syncItems_keeps registered source here _ _).1
        | none =>
          obtain ⟨inserted, here⟩ := insertBundle_keeps keeping source dirName
          exact ih (syncItems_keeps inserted source here _ _).1

theorem updateBundles_keeps (h : c.db.Keeping spare) (source : loc.IsSource) (root : String) (mode : ScanMode) :
    (c.updateBundles root loc mode).db.Keeping spare := by
  rw [updateBundles]
  split
  · exact addBundles_keeps (updateKnown_keeps h source root mode _ _) source root mode _
  · exact (EntryTable.passes_dropVanished h.bundles loc c.db.docs).inBundles h

theorem updateThemes_keeps (h : c.db.Keeping spare) (source : loc.IsSource) (dir : String) :
    (c.updateThemes dir loc).db.Keeping spare :=
  (EntryTable.passes_sync h.themes source c.db.docs c.files dir ".tmTheme").inThemes h

/-- A scan leaves no document behind and names none twice. -/
theorem update_keeps (h : c.db.Keeping spare) (mode : ScanMode) : (c.update mode).db.Keeping spare := by
  have themes : (if mode = .rest then c
      else (c.updateThemes c.config.pristineThemes { pristine := true }).updateThemes c.config.ownThemes
        { own := true }).db.Keeping spare := by
    split
    · exact h
    · exact updateThemes_keeps (updateThemes_keeps h .pristine _) .own _
  rw [update]
  generalize (if mode = .rest then c
      else (c.updateThemes c.config.pristineThemes { pristine := true }).updateThemes c.config.ownThemes
        { own := true }) = c₁ at themes
  have installed := updateBundles_keeps themes .installed c₁.config.installedBundles mode
  have pristine (root : String) := updateBundles_keeps installed .pristine root mode
  have own (root₁ root₂ : String) := updateBundles_keeps (pristine root₁) .own root₂ mode
  split <;> exact own _ _

theorem resume_keeps (h : c.db.Keeping spare) : c.resume.1.db.Keeping spare := by
  rw [resume]
  split
  · exact h
  · exact update_keeps (c := { c with pending := none }) h .languages
  · exact update_keeps (c := { c with pending := none }) h _

end EditorBundles.Catalog
