import EditorBundles.Proofs.Catalog.PlainNames
import EditorBundles.Proofs.Catalog.ScanAlike

/-!
# What a scan can change

A scan writes no file but the manifests of bundles of the user's own that have none: the directories of its
configuration are read and stay what they are.
-/

namespace EditorBundles
set_option autoImplicit false
open PropertyList
open EditorBundles.Path (IsPlain)

/-- A manifest may be put into the directory of a bundle at a place that has none there, and the directory gets another
time. -/
def Grant.completing (fs : FileSystem) (root : Place) : Grant := fun here fate =>
  ∃ dirName mode modified, Catalog.hasExtension dirName ".tmbundle" = true ∧
    fs.node? (root ++ [dirName]) = some (.directory mode modified) ∧
    ((fate = .file ∧ here = root ++ [dirName] ++ [Catalog.manifestName] ∧ fs.node? here = none) ∨
      (fate = .dated ∧ here = root ++ [dirName]))

namespace FileSystem

variable {fs fs' : FileSystem} {root here : Place}

/-- Writing manifests that are missing leaves directories where they are. -/
theorem TouchesOnly.keepsDirectories (h : fs.TouchesOnly (.completing fs root) fs') : KeepsDirectories fs fs' := by
  intro here mode modified found
  rcases h here with same | ⟨fate, ⟨dirName, -, -, -, -, ⟨rfl, -, none_⟩ | ⟨rfl, -⟩⟩, meets⟩
  · exact ⟨modified, same.trans found⟩
  · rw [none_] at found
    cases found
  · rw [found] at meets
    generalize fs'.node? here = after at meets
    cases meets with
    | dated _ modified' => exact ⟨modified', rfl⟩

/-- It makes no directories. -/
theorem TouchesOnly.directories_kept (h : fs.TouchesOnly (.completing fs root) fs') : KeepsDirectories fs' fs := by
  intro here mode modified found
  rcases h here with same | ⟨fate, ⟨dirName, -, -, -, -, ⟨rfl, -, -⟩ | ⟨rfl, -⟩⟩, meets⟩
  · exact ⟨modified, same.symm.trans found⟩
  · rw [found] at meets
    cases meets
  · generalize before : fs.node? here = node at meets
    rw [found] at meets
    generalize after : some (FileNode.directory mode modified) = node' at meets
    cases meets with
    | dated _ modified' =>
      cases node with
      | none => cases after
      | some node =>
        cases node with
        | file => cases after
        | directory mode' modified'' =>
          cases after
          exact ⟨modified'', rfl⟩

/-- Nothing is taken out. -/
theorem TouchesOnly.none_before (h : fs.TouchesOnly (.completing fs root) fs') (none_ : fs'.node? here = none) :
    fs.node? here = none := by
  rcases h here with same | ⟨fate, ⟨dirName, -, -, -, -, ⟨rfl, -, -⟩ | ⟨rfl, -⟩⟩, meets⟩
  · exact same.symm.trans none_
  · rw [none_] at meets
    cases meets
  · rw [none_] at meets
    cases before : fs.node? here with
    | none => rfl
    | some node =>
      rw [before] at meets
      cases meets

theorem KeepsDirectories.locate {path : String} {place : Place} {mode : Nat} {modified : Int} (h : KeepsDirectories fs fs')
    (located : fs.locate path = .ok (place, .directory mode modified)) :
    ∃ modified', fs'.locate path = .ok (place, .directory mode modified') := by
  obtain ⟨resolved, found, -⟩ := locate_eq_ok.1 located
  obtain ⟨modified', found'⟩ := h _ _ _ found
  exact ⟨modified', locate_eq_ok.2 ⟨h.resolve resolved, found', fun _ => rfl⟩⟩

end FileSystem

namespace Catalog

/-! ## Catalogs -/

/-- A catalog of a configuration whose files became what they are by nothing but what is granted. They are regular, and
the names of directories and files lead down. -/
structure Within (T : Grant) (config : Config) (fs : FileSystem) (c : Catalog) : Prop where
  config : c.config = config
  regular : c.files.Regular
  plain : c.db.Plain
  touched : fs.TouchesOnly T c.files

/-- A catalog whose files became what they are by nothing but writing manifests that were missing. -/
abbrev Scanning (config : Config) (fs : FileSystem) (c : Catalog) : Prop :=
  Within (.completing fs (Path.place config.ownBundles)) config fs c

variable {T : Grant} {config : Config} {fs : FileSystem} {c c' : Catalog} {id doc : Nat} {loc : Locality}
  {bundles : EntryTable Bundle} {docs : DocumentTable}

theorem evolves_sameDirs :
    EntryTable.Evolves (fun b : Bundle => b.dirName = "") (fun b b' : Bundle => b'.dirName = b.dirName) where
  mark := rfl
  after none_ same := same.trans none_
  trans first second := second.trans first

namespace Within

theorem withDocs (h : Within T config fs c) (plain : docs.Plain) : Within T config fs (c.withDocs docs) :=
  ⟨h.config, h.regular, h.plain.withDocs plain, h.touched⟩

theorem withBundles (h : Within T config fs c) (same : SameDirs c.db.bundles bundles) (plain : docs.Plain) :
    Within T config fs (c.withDb { c.db with bundles, docs }) :=
  ⟨h.config, h.regular, h.plain.withBundles same plain, h.touched⟩

theorem modifyBundle (h : Within T config fs c) (id : Nat) (change : Bundle → Bundle)
    (plain : ∀ b, IsPlain b.dirName → IsPlain (change b).dirName) : Within T config fs (c.modifyBundle id change) := by
  refine ⟨h.config, h.regular, ⟨fun other b found => ?_, h.plain.docs⟩, h.touched⟩
  obtain ⟨before, there, rfl⟩ := Option.map_eq_some_iff.1 ((List.getElem?_modify _ _ _ _).symm.trans found)
  split
  · exact plain before (h.plain.dirs other before there)
  · exact h.plain.dirs other before there

theorem createDoc (h : Within T config fs c) (name : String) (filename : Option String)
    (plain : ∀ given ∈ filename, IsPlain given) : Within T config fs (c.createDoc name filename).1 := by
  have named : IsPlain (filename.getD (Document.create name c.identities.draw.1).filename) := by
    cases filename with
    | none =>
      have unnamed : (Document.create name c.identities.draw.1).filename = "" :=
        ((Document.new.sameFile_setString _ _ _).trans (Document.sameFile_setString _ _ _ _)).1
      exact unnamed ▸ Path.isPlain_empty
    | some given => exact plain given rfl
  have stored := h.plain.withDocs (h.plain.docs.insert (d := { Document.create name c.identities.draw.1 with
    filename := filename.getD (Document.create name c.identities.draw.1).filename }) named)
  exact ⟨h.config, h.regular, stored, h.touched⟩

theorem saveDoc (h : Within T config fs c) (doc : Nat) {dir : String}
    (touched : c.files.TouchesOnly T ((c.db.docs.get doc).save c.files dir).1) : Within T config fs (c.saveDoc doc dir).1 := by
  have regular := regular_saveDoc h.regular doc dir
  rw [Catalog.saveDoc, DocumentTable.save] at regular ⊢
  cases saved : (c.db.docs.get doc).save c.files dir with
  | mk files result =>
    rw [saved] at touched regular
    cases result with
    | error fault => exact ⟨h.config, regular, h.plain, h.touched.trans touched⟩
    | ok result =>
      obtain ⟨modTime, stamped⟩ := Document.exists_modTime_of_save saved
      have named : IsPlain result.1.filename := stamped ▸ h.plain.docs doc
      exact ⟨h.config, regular, h.plain.withDocs (h.plain.docs.set doc named), h.touched.trans touched⟩

theorem registerManifest (h : Within T config fs c) (id manifest : Nat) (loc : Locality) :
    Within T config fs (c.registerManifest id manifest loc) :=
  h.withBundles (EntryTable.alters_register fun _ _ => rfl) (h.plain.docs.thin (EntryTable.thins_register _ _ _ _ _))

theorem dropBundle (h : Within T config fs c) (id : Nat) (loc : Locality) : Within T config fs (c.dropBundle id loc) :=
  h.withBundles (EntryTable.alters_drop evolves_sameDirs.mark fun _ _ _ _ => rfl)
    (h.plain.docs.thin (EntryTable.thins_drop _ _ _ _))

theorem syncItems (h : Within T config fs c) (bundleDir : String) (loc : Locality) (id : Nat) (kinds : List ItemKind) :
    Within T config fs (c.syncItems bundleDir loc id kinds) := by
  induction kinds generalizing c with
  | nil => exact h
  | cons kind kinds ih =>
    rw [Catalog.syncItems]
    cases found : c.db.bundles.row? id with
    | none => exact h
    | some b =>
      refine ih (h.withBundles (EntryTable.alters_setRow found ?_) (EntryTable.plain_sync h.plain.docs _ _ _ _ _))
      rfl

theorem updateThemes (h : Within T config fs c) (dir : String) (loc : Locality) :
    Within T config fs (c.updateThemes dir loc) :=
  ⟨h.config, h.regular, ⟨h.plain.dirs, EntryTable.plain_sync h.plain.docs c.db.themes _ _ _ _⟩, h.touched⟩

end Within

/-! ## Manifests -/

/-- A document that is given a name has it, if it is there. -/
theorem filename_named (docs : DocumentTable) (doc : Nat) (name : String) :
    ((docs.modify doc fun d => { d with filename := name }).get doc).filename = name ∨
      ((docs.modify doc fun d => { d with filename := name }).get doc).filename = "" := by
  by_cases bound : doc < docs.size
  · rw [DocumentTable.modify, docs.get_set_self bound]
    exact .inl rfl
  · have absent : (docs.modify doc fun d => { d with filename := name }).documents[doc]? = none := by
      rw [Array.getElem?_eq_none_iff, DocumentTable.modify, ← DocumentTable.size, DocumentTable.size_set]
      exact Nat.not_lt.1 bound
    rw [DocumentTable.get, absent]
    exact .inr rfl

/-- A document without a name is not written. -/
theorem files_save_unnamed {d : Document} (unnamed : d.filename = "") (fs : FileSystem) (dir : String) :
    (d.save fs dir).1 = fs := by
  rw [Document.save]
  dsimp only
  rw [if_pos (String.isEmpty_iff.2 unnamed)]

/-- The directory of a bundle below that of the user's own. -/
structure OwnDir (config : Config) (fs : FileSystem) (bundleDir dirName : String) : Prop where
  isName : IsFileName dirName
  extension : hasExtension dirName ".tmbundle" = true
  path : bundleDir = Path.join config.ownBundles dirName
  there : fs.isDirectory bundleDir = true

variable {bundleDir dirName : String}

/-- A manifest that is missing may be written. -/
theorem OwnDir.touchesOnly_save (own : OwnDir config fs bundleDir dirName)
    (h : Scanning config fs c)
    (missing : c.files.isFile (Path.join bundleDir manifestName) = false) {d : Document} (named : d.filename = manifestName) :
    c.files.TouchesOnly (.completing fs (Path.place config.ownBundles)) (d.save c.files bundleDir).1 := by
  obtain ⟨place, mode, modified, located⟩ := FileSystem.isDirectory_iff.1 own.there
  obtain ⟨modified', located'⟩ := h.touched.keepsDirectories.locate located
  have found := (FileSystem.locate_eq_ok.1 located).2.1
  have home : place = Path.place config.ownBundles ++ [dirName] := by
    rw [FileSystem.place_of_locate located, own.path, own.isName.isPlain.place_join own.isName.present]
  have spelled : Path.place (Path.join bundleDir d.filename) = place ++ [manifestName] := by
    rw [named, isFileName_manifestName.isPlain.place_join isFileName_manifestName.present,
      FileSystem.place_of_locate located]
  have made := FileSystem.createDirectories_of_locate located' rfl
  rw [home] at found
  refine FileSystem.touchesOnly_save d (made ▸ .refl _ _) (fun fs₁ same free => ?_) ?_
  · obtain rfl := congrArg Prod.fst (made.symm.trans same)
    rw [spelled] at free ⊢
    refine ⟨dirName, mode, modified, own.extension, found, .inl ⟨rfl, by rw [home], h.touched.none_before ?_⟩⟩
    -- what is not a file there, and no directory, is nothing
    have resolved := FileSystem.resolve_join located' rfl isFileName_manifestName
    cases there : c.files.node? (place ++ [manifestName]) with
    | none => rfl
    | some node =>
      cases node with
      | directory mode modified => exact absurd there (free mode modified)
      | file octets mode modified =>
        have isFile := FileSystem.locate_eq_ok.2 ⟨resolved, there, fun wants => by
          rw [isFileName_manifestName.wantsDirectory_join] at wants
          cases wants⟩
        rw [FileSystem.isFile, isFile] at missing
        cases missing
  · rw [spelled, List.dropLast_concat]
    exact ⟨dirName, mode, modified, own.extension, found, .inr ⟨rfl, home⟩⟩

namespace Within

/-- The catalog with a manifest for a directory of the user's own that has none. -/
theorem makeManifest (h : Scanning config fs c)
    (own : OwnDir config fs bundleDir dirName) (missing : c.files.isFile (Path.join bundleDir manifestName) = false)
    (name : String) (factory : Option Nat) :
    Scanning config fs (c.makeManifest bundleDir name factory).1 := by
  -- whichever document is stored is named and written
  have ending (c : Catalog) (h : Scanning config fs c)
      (missing : c.files.isFile (Path.join bundleDir manifestName) = false) (manifest : Nat) :
      let named := c.withDocs (c.db.docs.modify manifest fun d => { d with filename := manifestName })
      Scanning config fs (named.saveDoc manifest bundleDir).1 := by
    intro named
    have renamed : Scanning config fs named :=
      h.withDocs (h.plain.docs.modify manifest fun _ _ => isFileName_manifestName.isPlain)
    refine renamed.saveDoc manifest ?_
    rcases filename_named c.db.docs manifest manifestName with given | unnamed
    · exact own.touchesOnly_save renamed missing given
    · have same : ((named.db.docs.get manifest).save named.files bundleDir).1 = named.files := files_save_unnamed unnamed _ _
      rw [same]
      exact .refl _ _
  cases factory with
  | none =>
    have created : Scanning config fs
        (c.createDoc (displayName name) (some manifestName)).1 :=
      h.createDoc _ _ fun given same => by
        obtain rfl := Option.some.inj same
        exact isFileName_manifestName.isPlain
    have same : (c.createDoc (displayName name) (some manifestName)).1.files = c.files := rfl
    rw [Catalog.makeManifest]
    generalize c.createDoc (displayName name) (some manifestName) = result at created same
    exact ending result.1 created (same ▸ missing) result.2
  | some factory =>
    have copied := h.plain.docs.copy factory
    rw [Catalog.makeManifest]
    generalize c.db.docs.copy factory = result at copied
    exact ending (c.withDocs result.1) (h.withDocs copied) missing result.2

/-! ## Scans -/

variable {root : String} {dirs : List String} {mode : ScanMode}

theorem updateManifest (h : Scanning config fs c)
    (own : loc.own = true → OwnDir config fs bundleDir dirName) (id : Nat) (name : String) :
    Scanning config fs (c.updateManifest id bundleDir name loc).1 := by
  rw [Catalog.updateManifest]
  dsimp only
  split
  · cases (c.db.bundles.entryAt? id).bind (·.docFor loc) with
    | none => exact h
    | some current =>
      dsimp only
      split
      · cases loaded : c.db.docs.load c.files (Path.join bundleDir manifestName) with
        | error fault => exact h.dropBundle id loc
        | ok result => exact (h.withDocs (h.plain.docs.load loaded)).registerManifest id _ loc
      · exact h
  · rename_i missing
    split
    · rename_i users
      have made := h.makeManifest (own users) (Bool.eq_false_of_not_eq_true missing) name (c.factoryManifest? id)
      generalize c.makeManifest bundleDir name (c.factoryManifest? id) = result at made
      exact made.registerManifest id result.2 loc
    · exact h.dropBundle id loc

theorem newManifest? {existing : Option Nat} {manifest : Nat} {name : String}
    (h : Scanning config fs c)
    (own : loc.own = true → OwnDir config fs bundleDir dirName)
    (made : c.newManifest? bundleDir name loc existing = some (c', manifest)) :
    Scanning config fs c' := by
  rw [Catalog.newManifest?] at made
  split at made
  · split at made
    · rename_i loaded
      obtain ⟨rfl, -⟩ := Prod.mk.inj (Option.some.inj made)
      exact h.withDocs (h.plain.docs.load loaded)
    · cases made
  · rename_i missing
    split at made
    · rename_i users
      have written := h.makeManifest (own users) (Bool.eq_false_of_not_eq_true missing) name
        (existing.bind c.factoryManifest?)
      rwa [Option.some.inj made] at written
    · cases made

theorem updateKnown (h : Scanning config fs c)
    (own : ∀ dirName ∈ dirs, loc.own = true → OwnDir config fs (Path.join root dirName) dirName) (ids : List Nat) :
    Scanning config fs (c.updateKnown root loc mode dirs ids).1 := by
  induction ids generalizing c dirs with
  | nil => exact h
  | cons id ids ih =>
    rw [Catalog.updateKnown]
    split
    · exact ih h own
    · rename_i b _
      dsimp only
      split
      · rename_i listed
        have left : ∀ dirName ∈ dirs.erase b.dirName, loc.own = true → OwnDir config fs (Path.join root dirName) dirName :=
          fun dirName member => own dirName (List.mem_of_mem_erase member)
        split
        · exact ih h left
        · have read : Scanning config fs (if mode = .rest then (c, true) else
              c.updateManifest id (Path.join root b.dirName) b.dirName loc).1 := by
            split
            · exact h
            · exact h.updateManifest (own b.dirName (List.contains_iff_mem.1 listed)) id _
          generalize (if mode = .rest then (c, true) else
            c.updateManifest id (Path.join root b.dirName) b.dirName loc) = result at read
          refine ih ?_ left
          split
          · exact read.syncItems _ loc id _
          · exact read
      · split
        · exact ih h own
        · exact ih (h.dropBundle id loc) own

/-- What is left of a list of directories is in it. -/
theorem subset_updateKnown (c : Catalog) (root : String) (loc : Locality) (mode : ScanMode) (dirs : List String)
    (ids : List Nat) : (c.updateKnown root loc mode dirs ids).2 ⊆ dirs := by
  induction ids generalizing c dirs with
  | nil => exact List.Subset.refl dirs
  | cons id ids ih =>
    rw [Catalog.updateKnown]
    split
    · exact ih c dirs
    · rename_i b _
      dsimp only
      have left := List.erase_subset (a := b.dirName) (l := dirs)
      split
      · split
        · exact List.Subset.trans (ih _ _) left
        · exact List.Subset.trans (ih _ _) left
      · split
        · exact ih c dirs
        · exact ih _ dirs

theorem addBundles (h : Scanning config fs c)
    (own : ∀ dirName ∈ dirs, loc.own = true → OwnDir config fs (Path.join root dirName) dirName)
    (plain : ∀ dirName ∈ dirs, IsPlain dirName) :
    Scanning config fs (c.addBundles root loc mode dirs) := by
  induction dirs generalizing c with
  | nil => exact h
  | cons dirName dirs ih =>
    rw [List.forall_mem_cons] at own plain
    rw [Catalog.addBundles]
    dsimp only
    split
    · exact ih h own.2 plain.2
    · split
      · exact ih h own.2 plain.2
      · rename_i c₁ manifest made
        have stored := h.newManifest? own.1 made
        split
        · exact ih ((stored.registerManifest _ manifest loc).syncItems _ loc _ _) own.2 plain.2
        · have new : SameDirs c₁.db.bundles (c₁.db.bundles.insert manifest loc c₁.db.docs).1 :=
            EntryTable.alters_insert (by rfl) c₁.db.bundles
          have placed := (stored.withBundles new stored.plain.docs).modifyBundle
            (c₁.db.bundles.insert manifest loc c₁.db.docs).2 (fun b => { b with dirName }) fun _ _ => plain.1
          exact ih (placed.syncItems _ loc _ _) own.2 plain.2

/-- A scan below a root writes manifests if the root is that of the user's own bundles. -/
theorem updateBundles (h : Scanning config fs c) (users : loc.own = true → root = config.ownBundles) (mode : ScanMode) :
    Scanning config fs (c.updateBundles root loc mode) := by
  rw [Catalog.updateBundles]
  split
  · have known {dirName : String} (listed : dirName ∈ listDir c.files root true fun name => hasExtension name ".tmbundle") :=
      locate_bundleDir h.regular listed
    have own : ∀ dirName ∈ listDir c.files root true fun name => hasExtension name ".tmbundle", loc.own = true →
        OwnDir config fs (Path.join root dirName) dirName := by
      intro dirName listed own
      obtain ⟨place, mode, modified, located, -, isName, extension⟩ := known listed
      obtain ⟨modified', located'⟩ := h.touched.directories_kept.locate located
      exact ⟨isName, extension, by rw [users own], FileSystem.isDirectory_iff.2 ⟨_, mode, modified', located'⟩⟩
    have plain : ∀ dirName ∈ listDir c.files root true fun name => hasExtension name ".tmbundle", IsPlain dirName := by
      intro dirName listed
      obtain ⟨-, -, -, -, -, isName, -⟩ := known listed
      exact isName.isPlain
    generalize listDir c.files root true (fun name => hasExtension name ".tmbundle") = dirs at own plain
    have left := subset_updateKnown c root loc mode dirs (List.range c.db.bundles.size)
    exact (h.updateKnown own _).addBundles (fun _ member => own _ (left member)) fun _ member => plain _ (left member)
  · refine h.withBundles ?_ (h.plain.docs.thin (EntryTable.thins_dropWhere _ _ _ _ _))
    exact EntryTable.alters_dropWhere evolves_sameDirs (fun _ _ _ => rfl) _ _ _ _

/-- A scan writes manifests that are missing, and nothing else. -/
theorem update (h : Scanning config fs c) (mode : ScanMode) : Scanning config fs (c.update mode) := by
  have themes : Scanning config fs (if mode = .rest then c
      else (c.updateThemes c.config.pristineThemes { pristine := true }).updateThemes c.config.ownThemes
        { own := true }) := by
    split
    · exact h
    · exact (h.updateThemes _ _).updateThemes _ _
  rw [Catalog.update]
  generalize (if mode = .rest then c
      else (c.updateThemes c.config.pristineThemes { pristine := true }).updateThemes c.config.ownThemes
        { own := true }) = c₁ at themes
  have installed : Scanning config fs (c₁.updateBundles c₁.config.installedBundles { installed := true } mode) :=
    themes.updateBundles (fun users => Bool.noConfusion users) mode
  generalize c₁.updateBundles c₁.config.installedBundles { installed := true } mode = c₂ at installed
  have pristine : Scanning config fs (c₂.updateBundles c₂.config.pristineBundles { pristine := true } mode) :=
    installed.updateBundles (fun users => Bool.noConfusion users) mode
  generalize c₂.updateBundles c₂.config.pristineBundles { pristine := true } mode = c₃ at pristine
  have users : Scanning config fs (c₃.updateBundles c₃.config.ownBundles { own := true } mode) :=
    pristine.updateBundles (fun _ => congrArg Config.ownBundles pristine.config) mode
  generalize c₃.updateBundles c₃.config.ownBundles { own := true } mode = c₄ at users
  split <;> exact ⟨users.config, users.regular, users.plain, users.touched⟩

theorem resume (h : Scanning config fs c) : Scanning config fs c.resume.1 := by
  have rescan (mode : ScanMode) : Scanning config fs (({ c with pending := none } : Catalog).update mode) :=
    update (c := { c with pending := none }) ⟨h.config, h.regular, h.plain, h.touched⟩ mode
  rw [Catalog.resume]
  split
  · exact h
  · have scanned := rescan .languages
    exact ⟨scanned.config, scanned.regular, scanned.plain, scanned.touched⟩
  · exact rescan _

end Within

end Catalog

end EditorBundles
