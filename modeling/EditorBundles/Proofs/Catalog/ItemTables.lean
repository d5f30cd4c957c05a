import EditorBundles.Proofs.Catalog.Directories
import EditorBundles.Proofs.Catalog.Outcomes

/-!
# Tables of items in a catalog

A bundle that is gone can still be given items, and the flags of a bundle do not always say which documents it names.
The tables of its items are in order all the same: whatever is done to a catalog, each row of theirs is live or stands
for one that is gone.
-/

namespace EditorBundles.Catalog
set_option autoImplicit false
open PropertyList

/-! ## Tables of bundles -/

namespace EntryTable

variable {t t' t'' : EntryTable Bundle} {docs docs' : DocumentTable} {id : Nat} {b b' : Bundle} {loc : Locality}

/-- The tables of the items of a bundle are in order. -/
def InOrder (b : Bundle) : Prop := Bundle.ItemsSound b.items

/-- Every bundle has its items in order if it had them so before. -/
def KeepsItems (t t' : EntryTable Bundle) : Prop := Alters InOrder (fun b b' => InOrder b → InOrder b') t t'

theorem inOrder_ofEntry (e : Entry) : InOrder (Row.ofEntry e) := Keeper.settled_ofEntry (ρ := Bundle) e

theorem evolves_keepsItems : Evolves InOrder (fun b b' => InOrder b → InOrder b') := evolves_keeps (inOrder_ofEntry _)

theorem KeepsItems.refl (t : EntryTable Bundle) : KeepsItems t t := Alters.refl t

theorem KeepsItems.trans (first : KeepsItems t t') (second : KeepsItems t' t'') : KeepsItems t t'' :=
  Alters.trans first evolves_keepsItems second

/-- A table whose bundles have their items in order keeps them so. -/
theorem KeepsItems.inOrder (keeps : KeepsItems t t') (h : ∀ b ∈ t.rows, InOrder b) : ∀ b ∈ t'.rows, InOrder b :=
  keeps.all_rows h

theorem keepsItems_setRow (found : t.row? id = some b) (stays : InOrder b → InOrder b') : KeepsItems t (t.setRow id b') :=
  alters_setRow found stays

theorem keepsItems_modify {change : Bundle → Bundle} (stays : ∀ b, InOrder b → InOrder (change b)) :
    KeepsItems t ⟨t.rows.modify id change⟩ := by
  cases found : t.row? id with
  | none =>
    have absent : t.rows[id]? = none := found
    rw [List.modify_eq_set_getElem?, absent]
    exact .refl t
  | some b =>
    rw [modify_eq found]
    exact keepsItems_setRow found (stays b)

theorem keepsItems_insert (t : EntryTable Bundle) (doc : Nat) (loc : Locality) (docs : DocumentTable) :
    KeepsItems t (t.insert doc loc docs).1 := alters_insert (inOrder_ofEntry _) t

theorem keepsItems_register (t : EntryTable Bundle) (id doc : Nat) (loc : Locality) (docs : DocumentTable) :
    KeepsItems t (t.register id doc loc docs).1 := alters_register fun _ _ => fun sound => sound

theorem keepsItems_editable? {own : Nat} (edited : t.editable? id docs = some (t', docs', own)) : KeepsItems t t' :=
  alters_editable? edited fun _ _ _ _ _ => fun sound => sound

theorem inOrder_release (loc : Locality) (docs : DocumentTable) (h : InOrder b) : InOrder (Row.release loc b docs).1 :=
  (Keeper.release loc b docs h).1

theorem inOrder_dropRow (loc : Locality) (docs : DocumentTable) (h : InOrder b) : InOrder (dropRow b loc docs) :=
  inOrder_release _ docs (b := Row.withEntry b _) h

theorem keepsItems_drop (t : EntryTable Bundle) (id : Nat) (loc : Locality) (docs : DocumentTable) :
    KeepsItems t (t.drop id loc docs).1 :=
  alters_drop evolves_keepsItems.mark fun _ docs' _ _ => inOrder_dropRow loc docs'

theorem keepsItems_dropVanished (t : EntryTable Bundle) (loc : Locality) (docs : DocumentTable) :
    KeepsItems t (t.dropVanished loc docs).1 :=
  alters_dropWhere evolves_keepsItems (fun _ docs' _ => inOrder_dropRow loc docs') _ _ _ _

theorem keepsItems_delete {dir : String} {fs fs' : FileSystem} (deleted : t.delete id dir docs fs = .ok (t', docs', fs')) :
    KeepsItems t t' :=
  alters_delete evolves_keepsItems.mark (fun _ _ _ => fun sound => sound) deleted

end EntryTable

open EntryTable (KeepsItems InOrder keepsItems_setRow keepsItems_modify keepsItems_insert keepsItems_register keepsItems_drop)

variable {c c' : Catalog} {loc : Locality} {id doc owner : Nat} {kind : ItemKind}

/-! ## Scans -/

theorem keepsItems_syncItems (c : Catalog) (source : loc.IsSource) (bundleDir : String) (id : Nat) (kinds : List ItemKind) :
    KeepsItems c.db.bundles (c.syncItems bundleDir loc id kinds).db.bundles := by
  induction kinds generalizing c with
  | nil => exact .refl _
  | cons kind kinds ih =>
    rw [syncItems]
    cases found : c.db.bundles.row? id with
    | none => exact .refl _
    | some b =>
      refine .trans ?_ (ih _)
      exact keepsItems_setRow found fun sound => sound.set kind (EntryTable.passes_sync (sound kind) source _ _ _ _).sound

theorem keepsItems_updateManifest (c : Catalog) (id : Nat) (bundleDir dirName : String) (loc : Locality) :
    KeepsItems c.db.bundles (c.updateManifest id bundleDir dirName loc).1.db.bundles := by
  rw [updateManifest]
  dsimp only
  split
  · cases (c.db.bundles.entryAt? id).bind (·.docFor loc) with
    | none => exact .refl _
    | some current =>
      dsimp only
      split
      · cases c.db.docs.load c.files (Path.join bundleDir manifestName) with
        | error fault => exact keepsItems_drop c.db.bundles id loc _
        | ok result => exact keepsItems_register c.db.bundles id _ loc _
      · exact .refl _
  · split
    · have same := bundles_makeManifest c bundleDir dirName (c.factoryManifest? id)
      generalize c.makeManifest bundleDir dirName (c.factoryManifest? id) = made at same
      rw [← same]
      exact keepsItems_register made.1.db.bundles id _ loc _
    · exact keepsItems_drop c.db.bundles id loc _

theorem keepsItems_updateKnown (c : Catalog) (source : loc.IsSource) (root : String) (mode : ScanMode) (dirs : List String)
    (ids : List Nat) : KeepsItems c.db.bundles (c.updateKnown root loc mode dirs ids).1.db.bundles := by
  induction ids generalizing c dirs with
  | nil => exact .refl _
  | cons id ids ih =>
    rw [updateKnown]
    split
    · exact ih c dirs
    · rename_i b _
      dsimp only
      split
      · split
        · exact ih c _
        · have read : KeepsItems c.db.bundles (if mode = .rest then (c, true) else
              c.updateManifest id (Path.join root b.dirName) b.dirName loc).1.db.bundles := by
            split
            · exact .refl _
            · exact keepsItems_updateManifest c id _ _ loc
          generalize (if mode = .rest then (c, true) else
            c.updateManifest id (Path.join root b.dirName) b.dirName loc) = result at read
          split
          · exact (read.trans (keepsItems_syncItems result.1 source _ id _)).trans (ih _ _)
          · exact read.trans (ih _ _)
      · split
        · exact ih c dirs
        · exact (keepsItems_drop c.db.bundles id loc _).trans (ih (c.dropBundle id loc) dirs)

theorem keepsItems_addBundles (c : Catalog) (source : loc.IsSource) (root : String) (mode : ScanMode) (dirs : List String) :
    KeepsItems c.db.bundles (c.addBundles root loc mode dirs).db.bundles := by
  induction dirs generalizing c with
  | nil => exact .refl _
  | cons dirName dirs ih =>
    rw [addBundles]
    dsimp only
    split
    · exact ih c
    · cases made : c.newManifest? (Path.join root dirName) dirName loc (c.findDir? dirName) with
      | none => exact ih c
      | some result =>
        rw [← bundles_newManifest? made]
        dsimp only
        cases c.findDir? dirName with
        | some id =>
          refine .trans (.trans ?_ (keepsItems_syncItems _ source _ id _)) (ih _)
          exact keepsItems_register result.1.db.bundles id _ loc _
        | none =>
          have inserted := keepsItems_insert result.1.db.bundles result.2 loc result.1.db.docs
          refine .trans (.trans (inserted.trans ?_) (keepsItems_syncItems _ source _ _ _)) (ih _)
          exact keepsItems_modify fun _ sound => sound

theorem keepsItems_updateBundles (c : Catalog) (source : loc.IsSource) (root : String) (mode : ScanMode) :
    KeepsItems c.db.bundles (c.updateBundles root loc mode).db.bundles := by
  rw [updateBundles]
  split
  · exact (keepsItems_updateKnown c source root mode _ _).trans (keepsItems_addBundles _ source root mode _)
  · exact EntryTable.keepsItems_dropVanished _ loc _

theorem keepsItems_update (c : Catalog) (mode : ScanMode) : KeepsItems c.db.bundles (c.update mode).db.bundles := by
  have themes : (if mode = .rest then c
      else (c.updateThemes c.config.pristineThemes { pristine := true }).updateThemes c.config.ownThemes
        { own := true }).db.bundles = c.db.bundles := by
    split <;> rfl
  rw [update, ← themes]
  generalize (if mode = .rest then c
      else (c.updateThemes c.config.pristineThemes { pristine := true }).updateThemes c.config.ownThemes
        { own := true }) = c₁
  have installed := keepsItems_updateBundles c₁ .installed c₁.config.installedBundles mode
  generalize c₁.updateBundles c₁.config.installedBundles { installed := true } mode = c₂ at installed
  have pristine := keepsItems_updateBundles c₂ .pristine c₂.config.pristineBundles mode
  generalize c₂.updateBundles c₂.config.pristineBundles { pristine := true } mode = c₃ at pristine
  have own := keepsItems_updateBundles c₃ .own c₃.config.ownBundles mode
  split <;> exact (installed.trans pristine).trans own

theorem keepsItems_resume (c : Catalog) : KeepsItems c.db.bundles c.resume.1.db.bundles := by
  rw [resume]
  split
  · exact .refl _
  · exact keepsItems_update { c with pending := none } .languages
  · exact keepsItems_update { c with pending := none } _

/-! ## Bundles -/

theorem SavesBundle.keepsItems {result : Except Fault Unit} (saves : c.SavesBundle id c' result) :
    KeepsItems c.db.bundles c'.db.bundles := by
  have placed (dirName : String) (files : FileSystem) : KeepsItems c.db.bundles (c.placed id dirName files).db.bundles :=
    keepsItems_modify fun _ sound => sound
  have written {own : Nat} {dirName : String} {files : FileSystem} {c' : Catalog} {result : Except Fault Unit}
      (written : ((c.placed id dirName files).nameDoc own fun _ => manifestName).saveDoc own (c.ownDir dirName) =
        (c', result)) : KeepsItems c.db.bundles c'.db.bundles := by
    have same := (bundles_saveDoc ((c.placed id dirName files).nameDoc own fun _ => manifestName) own (c.ownDir dirName)).trans
      (bundles_nameDoc _ own _)
    rw [written] at same
    rw [show c'.db.bundles = _ from same]
    exact placed dirName files
  cases saves with
  | refused => exact .refl _
  | stuck => exact placed _ _
  | unwritten _ _ wrote => exact written wrote
  | saved _ _ wrote => exact (written wrote).trans (keepsItems_modify fun _ sound => sound)

theorem DeletesBundle.keepsItems {result : Except Fault Bool} (deletes : c.DeletesBundle id c' result) :
    KeepsItems c.db.bundles c'.db.bundles := by
  have inOrder {b released : Bundle} {docs : DocumentTable} (dropping : c.Dropping id b released docs) (entry : Entry)
      (sound : InOrder b) : InOrder { released with entry } := by
    have kept := EntryTable.inOrder_release { own := true, installed := true } c.db.docs sound
    rwa [dropping.release] at kept
  have uninstalled {b released : Bundle} {docs : DocumentTable} (dropping : c.Dropping id b released docs) :
      KeepsItems c.db.bundles (c.uninstalled id b released docs).db.bundles :=
    keepsItems_setRow dropping.found (inOrder dropping _)
  cases deletes with
  | hides dropping => exact keepsItems_setRow dropping.found (inOrder dropping _)
  | unplaced dropping => exact (uninstalled dropping).trans (keepsItems_drop _ id Locality.sources _)
  | stuck dropping => exact uninstalled dropping
  | deleted dropping _ _ removed => exact (uninstalled dropping).trans (EntryTable.keepsItems_delete removed)

theorem keepsItems_restoreBundle? {result : Except Fault Bool} (restored : c.restoreBundle? id = some (c', result)) :
    KeepsItems c.db.bundles c'.db.bundles := by
  obtain ⟨b, found, restored⟩ := Option.bind_eq_some_iff.1 restored
  split at restored
  · dsimp only at restored
    split at restored
    · cases loaded : c.db.docs.load c.files (Path.join (Path.join c.config.pristineBundles b.dirName) manifestName) with
      | error fault =>
        rw [loaded] at restored
        obtain ⟨rfl, -⟩ := Prod.mk.inj (Option.some.inj restored)
        exact .refl _
      | ok stored =>
        rw [loaded] at restored
        obtain ⟨rfl, -⟩ := Prod.mk.inj (Option.some.inj restored)
        have shown : KeepsItems c.db.bundles ((c.withDocs stored.1).modifyBundle id fun b =>
            { b with entry := { b.entry with locality := { pristine := true } } }).db.bundles :=
          keepsItems_modify fun _ sound => sound
        exact (shown.trans (keepsItems_register _ id _ _ _)).trans (keepsItems_syncItems _ .pristine _ id _)
    · obtain ⟨rfl, -⟩ := Prod.mk.inj (Option.some.inj restored)
      exact .refl _
  · obtain ⟨rfl, -⟩ := Prod.mk.inj (Option.some.inj restored)
    exact .refl _

/-! ## Items -/

/-- Items are put into a bundle that are in order if those of the bundle are. -/
theorem keepsItems_withItems {b : Bundle} {table : EntryTable Entry} (found : c.db.bundles.row? owner = some b)
    (sound : (b.items.get kind).Sound → table.Sound) :
    KeepsItems c.db.bundles (c.withItems kind owner table).db.bundles := by
  rw [withItems, modifyBundle, withDb, EntryTable.modify_eq found]
  exact keepsItems_setRow found fun before => before.set kind (sound (before kind))

theorem keepsItems_newItem? {name : String} {i : Nat} (made : c.newItem? kind owner name = some (c', i)) :
    KeepsItems c.db.bundles c'.db.bundles := by
  obtain ⟨items, found, made⟩ := Option.bind_eq_some_iff.1 made
  obtain ⟨b, place, rfl⟩ := Option.map_eq_some_iff.1 found
  obtain ⟨rfl, -⟩ := Prod.mk.inj (Option.some.inj made)
  exact keepsItems_withItems (c := (c.createDoc name none).1) place fun sound => (EntryTable.passes_insert sound .own _ _).sound

theorem keepsItems_editItem? {own : Nat} (edited : c.editItem? kind owner id = some (c', own)) :
    KeepsItems c.db.bundles c'.db.bundles := by
  obtain ⟨items, found, edited⟩ := Option.bind_eq_some_iff.1 edited
  obtain ⟨b, place, rfl⟩ := Option.map_eq_some_iff.1 found
  obtain ⟨⟨table, docs, doc⟩, made, edited⟩ := Option.bind_eq_some_iff.1 edited
  obtain ⟨rfl, -⟩ := Prod.mk.inj (Option.some.inj edited)
  refine keepsItems_withItems (c := c.withDocs docs) place fun sound => ?_
  exact (EntryTable.passes_mark (EntryTable.passes_editable? sound made).sound (EntryTable.here_editable? sound made) docs).sound

theorem Readies.keepsItems {result : Except Fault Unit} (readies : c.Readies owner c' result) :
    KeepsItems c.db.bundles c'.db.bundles := by
  cases readies with
  | there => exact .refl _
  | saved _ _ saves => exact saves.keepsItems

theorem SavesItem.keepsItems {result : Except Fault Unit} (saves : c.SavesItem kind owner id c' result) :
    KeepsItems c.db.bundles c'.db.bundles := by
  have written {c₁ c' : Catalog} {own : Nat} {dirName : String} {result : Except Fault Unit}
      (readied : c.Readies owner c₁ (.ok ()))
      (written : (c₁.namedItem kind own (c₁.ownItemDir kind dirName)).saveDoc own (c₁.ownItemDir kind dirName) =
        (c', result)) : KeepsItems c.db.bundles c'.db.bundles := by
    have same := (bundles_saveDoc (c₁.namedItem kind own (c₁.ownItemDir kind dirName)) own
      (c₁.ownItemDir kind dirName)).trans (bundles_nameDoc c₁ own _)
    rw [written] at same
    rw [show c'.db.bundles = _ from same]
    exact readied.keepsItems
  cases saves with
  | refused => exact .refl _
  | homeless _ _ readied => exact readied.keepsItems
  | unwritten _ _ readied _ wrote => exact written readied wrote
  | saved _ _ readied _ wrote =>
    refine (written readied wrote).trans (keepsItems_modify fun b sound => ?_)
    exact sound.set kind (EntryTable.passes_unmark (sound kind) id {}).sound

theorem keepsItems_deleteItem? {result : Except Fault Reload} (deleted : c.deleteItem? kind owner id = some (c', result)) :
    KeepsItems c.db.bundles c'.db.bundles := by
  obtain ⟨b, place, deleted⟩ := Option.bind_eq_some_iff.1 deleted
  obtain ⟨e, -, deleted⟩ := Option.bind_eq_some_iff.1 deleted
  split at deleted
  · obtain ⟨rfl, -⟩ := Prod.mk.inj (Option.some.inj deleted)
    exact .refl _
  · rename_i removed
    obtain ⟨rfl, -⟩ := Prod.mk.inj (Option.some.inj deleted)
    exact keepsItems_withItems (c := c.withDocs _) place fun sound => (EntryTable.passes_delete sound removed).sound

theorem keepsItems_restoreItem? {restored : Bool} (shown : c.restoreItem? kind owner id = some (c', restored)) :
    KeepsItems c.db.bundles c'.db.bundles := by
  obtain ⟨e, -, shown⟩ := Option.bind_eq_some_iff.1 shown
  obtain ⟨items, found, shown⟩ := Option.bind_eq_some_iff.1 shown
  obtain ⟨b, place, rfl⟩ := Option.map_eq_some_iff.1 found
  have sound (sound : (b.items.get kind).Sound) := (EntryTable.passes_restore sound id c.db.docs).sound
  generalize (b.items.get kind).restore id = ending at shown sound
  obtain ⟨table, done⟩ := ending
  cases done <;> obtain ⟨rfl, -⟩ := Prod.mk.inj (Option.some.inj shown)
  · exact .refl _
  · exact keepsItems_withItems place sound

/-! ## Operations -/

/-- An operation that gives a result next to the catalog. -/
theorem keepsItems_of_map {α : Type} {run : Option (Catalog × α)}
    (keeps : ∀ c' result, run = some (c', result) → KeepsItems c.db.bundles c'.db.bundles)
    (runs : run.map Prod.fst = some c') : KeepsItems c.db.bundles c'.db.bundles := by
  obtain ⟨⟨c', result⟩, ran, rfl⟩ := Option.map_eq_some_iff.1 runs
  exact keeps c' result ran

theorem keepsItems_of_eq (same : c'.db.bundles = c.db.bundles) : KeepsItems c.db.bundles c'.db.bundles := by
  rw [same]
  exact .refl _

/-- Every operation keeps the items of all bundles in order. -/
theorem Operation.keepsItems {op : Operation} (runs : op.run? c = some c') : KeepsItems c.db.bundles c'.db.bundles := by
  cases op with
  | update mode =>
    obtain rfl := Option.some.inj runs
    exact keepsItems_update c mode
  | resume =>
    obtain rfl := Option.some.inj runs
    exact keepsItems_resume c
  | newBundle name =>
    obtain rfl := Option.some.inj runs
    exact keepsItems_insert c.db.bundles _ _ _
  | editBundle id =>
    refine keepsItems_of_map (fun _ _ ran => ?_) runs
    obtain ⟨⟨bundles, docs, doc⟩, made, edited⟩ := Option.bind_eq_some_iff.1 ran
    obtain ⟨rfl, -⟩ := Prod.mk.inj (Option.some.inj edited)
    exact EntryTable.keepsItems_editable? made
  | saveBundle id => exact keepsItems_of_map (fun _ _ ran => (savesBundle_of_saveBundle? ran).keepsItems) runs
  | deleteBundle id => exact keepsItems_of_map (fun _ _ ran => (deletesBundle_of_deleteBundle? ran).keepsItems) runs
  | restoreBundle id => exact keepsItems_of_map (fun _ _ ran => keepsItems_restoreBundle? ran) runs
  | newItem kind owner name => exact keepsItems_of_map (fun _ _ ran => keepsItems_newItem? ran) runs
  | editItem kind owner id => exact keepsItems_of_map (fun _ _ ran => keepsItems_editItem? ran) runs
  | saveItem kind owner id => exact keepsItems_of_map (fun _ _ ran => (savesItem_of_saveItem? ran).keepsItems) runs
  | deleteItem kind owner id => exact keepsItems_of_map (fun _ _ ran => keepsItems_deleteItem? ran) runs
  | restoreItem kind owner id => exact keepsItems_of_map (fun _ _ ran => keepsItems_restoreItem? ran) runs
  | newTheme name =>
    obtain rfl := Option.some.inj runs
    exact .refl _
  | editTheme id => exact keepsItems_of_map (fun _ _ ran => keepsItems_of_eq (bundles_editTheme? ran)) runs
  | markTheme id =>
    obtain ⟨e, -, marked⟩ := Option.bind_eq_some_iff.1 runs
    obtain rfl := Option.some.inj marked
    exact .refl _
  | saveTheme id => exact keepsItems_of_map (fun _ _ ran => keepsItems_of_eq (bundles_saveTheme? ran)) runs
  | deleteTheme id => exact keepsItems_of_map (fun _ _ ran => keepsItems_of_eq (bundles_deleteTheme? ran)) runs
  | restoreTheme id => exact keepsItems_of_map (fun _ _ ran => keepsItems_of_eq (bundles_restoreTheme? ran)) runs
  | write doc content => exact keepsItems_of_eq (bundles_write? runs)
  | setSyntax ext name =>
    obtain rfl := Option.some.inj runs
    exact .refl _
  | commit =>
    obtain rfl := Option.some.inj runs
    exact keepsItems_of_eq (bundles_commit c)
  | flush =>
    obtain rfl := Option.some.inj runs
    exact keepsItems_of_eq (congrArg Database.bundles (flush_db c))
  | flushIfDue now =>
    obtain rfl := Option.some.inj runs
    exact keepsItems_of_eq (congrArg Database.bundles (flushIfDue_db c now))
  | exportBundle target id =>
    exact keepsItems_of_map (fun _ _ ran => keepsItems_of_eq (congrArg Database.bundles (exportBundle?_db ran))) runs
  | exportItem target kind owner id =>
    exact keepsItems_of_map (fun _ _ ran => keepsItems_of_eq (congrArg Database.bundles (exportItem?_db ran))) runs
  | changeFiles files =>
    obtain rfl := Option.some.inj runs
    exact .refl _

/-- Over every run of a catalog the items of all bundles are in order, of those that are gone, too. -/
theorem inOrder_of_reachable {allowed : Catalog → Operation → Prop} (reached : Reachable allowed c) :
    ∀ b ∈ c.db.bundles.rows, InOrder b :=
  reached.induct (P := fun db => ∀ b ∈ db.bundles.rows, InOrder b) (fun _ member => absurd member List.not_mem_nil)
    (fun c h => (keepsItems_resume c).inOrder h) fun _ _ _ h _ runs => (Operation.keepsItems runs).inOrder h

end EditorBundles.Catalog
