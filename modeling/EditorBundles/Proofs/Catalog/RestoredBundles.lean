import EditorBundles.Proofs.Catalog.ItemTables
import EditorBundles.Proofs.Catalog.ShippedFiles
import EditorBundles.Proofs.Catalog.StableRows
import EditorBundles.Proofs.Catalog.SteadyRows

/-!
# Bundles that are deleted and restored

A bundle that came with the editor loses all other versions when it is deleted, and so do its items; it is hidden then. When
it is restored its manifest is read again, and its items are brought in line with its directory: those whose files have not
changed are where they were, disabled or not as before. Any other bundle is gone when it is deleted.
-/

namespace EditorBundles.Catalog
set_option autoImplicit false
open PropertyList

/-! ## Items that are dropped -/

namespace EntryView

variable {e : EntryView} {loc : Locality}

/-- What an entry with a pristine version and no installed one is without its other versions. -/
theorem dropVersions_pristine (pristine : e.locality.pristine = true) (installed : e.locality.installed = false) :
    (e.dropVersions { own := true, installed := true }).1.factory = e.factory ∧
      (e.dropVersions { own := true, installed := true }).1.locality =
        { pristine := true, disabled := e.locality.disabled, deleted := e.locality.deleted } := by
  simp [dropVersions, Locality.without, pristine, installed]

end EntryView

namespace TableView

variable {t : TableView EntryView} {id : Nat} {e : EntryView} {loc : Locality}

theorem meets_of_dropAll (apart : loc.deleted = false) (found : (t.dropAll loc).row? id = some e) :
    e.locality.meets loc = false := by
  refine eq_false_of_dropWhere (p := fun e => e.locality.meets loc) (fun e => e.meets_dropVersions loc) ?_ found
  simp [EntryView.tombstone, Locality.meets, apart]

/-- A document is in a file of a directory that can hold versions of a kind, and the file has not changed since. -/
structure InFile (fs : FileSystem) (dir extension : String) (d : Document) : Prop where
  listed : d.filename ∈ versionFiles fs dir extension
  unchanged : EntryTable.hasChanged fs (Path.join dir d.filename) d = false

variable {fs : FileSystem} {dir extension : String} {d : Document}

/-- An entry whose pristine version is in its file stays when all other versions are dropped and the pristine ones are
brought in line with their directory. -/
theorem row?_sync_dropAll (found : t.row? id = some e) (here : e.locality.deleted = false)
    (pristine : e.locality.pristine = true) (installed : e.locality.installed = false) (version : e.factory = some d)
    (inFile : InFile fs dir extension d) :
    ∃ e', ((t.dropAll { own := true, installed := true }).sync fs dir { pristine := true } extension).row? id = some e' ∧
      e'.locality.pristine = true ∧ e'.locality.disabled = e.locality.disabled := by
  obtain ⟨factory, flags⟩ := EntryView.dropVersions_pristine pristine installed
  have left : (e.dropVersions { own := true, installed := true }).1.locality.hasSource = true := by
    simp [flags, Locality.hasSource]
  obtain ⟨e₁, there, kept⟩ := row?_dropWhere (p := fun e => e.locality.meets { own := true, installed := true })
    found here (List.nodup_range (n := t.size)) fun _ => left
  obtain ⟨version₁, here₁, pristine₁, installed₁, disabled₁⟩ : e₁.factory = some d ∧ e₁.locality.deleted = false ∧
      e₁.locality.pristine = true ∧ e₁.locality.installed = false ∧ e₁.locality.disabled = e.locality.disabled := by
    rcases kept with rfl | ⟨-, rfl⟩
    · exact ⟨version, here, pristine, installed, rfl⟩
    · show (e.dropVersions { own := true, installed := true }).1.factory = some d ∧
        (e.dropVersions { own := true, installed := true }).1.locality.deleted = false ∧ _ ∧ _ ∧ _
      rw [factory, flags]
      exact ⟨version, here, by simp [dropRow, RowView.entry, RowView.release, RowView.withEntry, flags]⟩
  have steady : e₁.Steady fs dir { pristine := true } (versionFiles fs dir extension) := by
    intro v tracked
    have named : e₁.tracked? { pristine := true } = some ⟨d, d.filename, false⟩ := by
      simp [EntryView.tracked?, Locality.contains, EntryView.version, version₁, pristine₁, installed₁]
    obtain rfl := Option.some.inj (named.symm.trans tracked)
    exact .inr ⟨inFile.listed, inFile.unchanged⟩
  have directory : fs.isDirectory dir = true := by
    by_contra missing
    have listed := inFile.listed
    rw [versionFiles, FileSystem.listDir_of_not_isDirectory (Bool.not_eq_true _ ▸ missing)] at listed
    cases listed
  obtain ⟨e₂, stays, gains⟩ := row?_sync directory there here₁ .pristine steady
  refine ⟨e₂, stays, ?_⟩
  have gains : e₂.locality = e₁.locality ∨ e₂.locality = e₁.locality.union { pristine := true } := gains
  rcases gains with same | same
  · rw [same]
    exact ⟨pristine₁, disabled₁⟩
  · rw [same]
    exact ⟨Bool.or_true _, (Bool.or_false _).trans disabled₁⟩

end TableView

/-! ## Items that are brought in line -/

open EntryTable (InOrder inOrder_release)

variable {c c' : Catalog} {id : Nat} {b released : Bundle} {docs : DocumentTable} {others : List Nat} {loc : Locality}
  {bundleDir : String} {kinds : List ItemKind}

theorem EntryTable.setRow_setRow {ρ : Type} (t : EntryTable ρ) (id : Nat) (row row' : ρ) :
    (t.setRow id row).setRow id row' = t.setRow id row' := congrArg EntryTable.mk (List.set_set row)

/-- The items of some kinds in a bundle are brought in line with its directory, which gives them new documents and leaves
those of its manifest alone. -/
structure BringsInLine (c : Catalog) (bundleDir : String) (loc : Locality) (id : Nat) (kinds : List ItemKind) (b : Bundle)
    (items : PerKind (EntryTable Entry)) (docs : DocumentTable) : Prop where
  result : c.syncItems bundleDir loc id kinds =
    c.withDb { c.db with bundles := c.db.bundles.setRow id { b with items }, docs }
  trades : c.db.docs.Trades docs c.db.bundles.held (c.db.bundles.setRow id { b with items }).held
  entry : ∀ index ∈ b.entry.held, docs.get index = c.db.docs.get index
  seen : ∀ kind, (items.get kind).view docs =
    if kind ∈ kinds then
      ((b.items.get kind).view c.db.docs).sync c.files (Path.join bundleDir kind.dirName) loc kind.extension
    else (b.items.get kind).view c.db.docs

theorem exists_bringsInLine (found : c.db.bundles.row? id = some b) (sound : InOrder b)
    (holding : c.db.docs.Holding (c.db.bundles.held ++ others)) (source : loc.IsSource) (bundleDir : String)
    (once : kinds.Nodup) : ∃ items docs, c.BringsInLine bundleDir loc id kinds b items docs := by
  induction kinds generalizing c b with
  | nil =>
    have same : c.db.bundles.setRow id b = c.db.bundles := by
      obtain ⟨bound, at_id⟩ := List.getElem?_eq_some_iff.1 found
      rw [EntryTable.setRow, ← at_id, List.set_getElem_self]
    refine ⟨b.items, c.db.docs, ?_, ?_, fun _ _ => rfl, fun _ => (if_neg List.not_mem_nil).symm⟩
    · exact congrArg (fun bundles => c.withDb { c.db with bundles }) same.symm
    · rw [show ({ b with items := b.items } : Bundle) = b from rfl, same]
      exact .refl _ _
  | cons kind kinds ih =>
    obtain ⟨fresh, once⟩ := List.nodup_cons.1 once
    obtain ⟨rest, perm, inEntry, inItems, -⟩ := Bundle.exists_held_besides found kind
    have held := holding.perm (perm.append_right others)
    rw [List.append_assoc] at held
    have seen := EntryTable.view_sync (EntryTable.lasting_sound source) ⟨sound kind, _, held⟩ c.files
      (Path.join bundleDir kind.dirName) kind.extension
    have passes := EntryTable.passes_sync (sound kind) source c.db.docs c.files (Path.join bundleDir kind.dirName)
      kind.extension
    obtain ⟨table, docs₁, synced⟩ : ∃ table docs₁, (b.items.get kind).sync c.db.docs c.files
      (Path.join bundleDir kind.dirName) loc kind.extension = (table, docs₁) := ⟨_, _, rfl⟩
    rw [synced] at seen passes
    -- the other kinds and the manifest keep their documents
    obtain ⟨-, kept⟩ := passes.trades _ held
    replace kept (index : Nat) (member : index ∈ rest) : docs₁.get index = c.db.docs.get index :=
      kept index (List.mem_append_left _ member)
    have ofRow : c.db.docs.Trades docs₁ ([] ++ heldBy b) (heldBy { b with items := b.items.set kind table }) :=
      (Bundle.trades_set passes.trades).frame_left b.entry.held
    have trades := EntryTable.trades_setRow found ofRow
    have place := EntryTable.row?_setRow_self (EntryTable.lt_of_row? found) { b with items := b.items.set kind table }
    obtain ⟨items, docs, line⟩ := ih
      (c := c.withDb { c.db with bundles := c.db.bundles.setRow id { b with items := b.items.set kind table }, docs := docs₁ })
      place (sound.set kind passes.sound) (trades others holding).1 once
    refine ⟨items, docs, ?_, ?_, fun index member => ?_, fun other => ?_⟩
    · rw [syncItems, found]
      dsimp only
      rw [synced]
      refine line.result.trans ?_
      exact congrArg (fun bundles => c.withDb { c.db with bundles, docs }) (EntryTable.setRow_setRow _ id _ _)
    · exact EntryTable.setRow_setRow c.db.bundles id _ { b with items } ▸ trades.trans line.trades
    · exact (line.entry index member).trans (kept index (inEntry index member))
    · rw [line.seen other]
      by_cases same : other = kind
      · subst same
        rw [if_neg fresh, if_pos List.mem_cons_self, ← seen]
        exact congrArg (fun table => EntryTable.view table docs₁) (PerKind.get_set_self b.items other table)
      · have unseen : ((b.items.set kind table).get other).view docs₁ = (b.items.get other).view c.db.docs := by
          rw [PerKind.get_set_of_ne _ same]
          exact EntryTable.view_congr fun index member => kept index (inItems other same index member)
        simp only [List.mem_cons, same, false_or]
        exact unseen ▸ rfl

/-! ## Deleting a bundle -/

/-- The items of a bundle in its row, when it has dropped some versions and nothing else was done but to delete documents. -/
theorem view_released {t : EntryTable Bundle} {docs docs' : DocumentTable} {b₁ : Bundle} (found : t.row? id = some b₁)
    (items : b₁.items = (Row.release loc b docs).1.items) (prunes : docs.Prunes docs')
    (holding : docs'.Holding (t.held ++ others)) (kind : ItemKind) :
    (b₁.items.get kind).view docs' = ((b.items.get kind).view docs).dropAll loc := by
  obtain ⟨rest, perm, -⟩ := Bundle.exists_held_besides found kind
  have held := holding.perm (perm.append_right others)
  rw [List.append_assoc] at held
  rw [EntryTable.view_prune prunes held, items]
  exact (Bundle.view_dropItems docs loc (by decide) kind).trans (if_pos (ItemKind.mem_all kind))

/-- A bundle that came with the editor is deleted: it is hidden, and it and its items drop all versions but the pristine
ones. -/
structure Withdraws (c : Catalog) (id : Nat) (b : Bundle) (c₁ : Catalog) (b₁ : Bundle) : Prop where
  deleted : c.deleteBundle? id = some (c₁, .ok false)
  found : c₁.db.bundles.row? id = some b₁
  config : c₁.config = c.config
  dirName : b₁.dirName = b.dirName
  entry : b₁.entry =
    { b.entry with ownDoc := none, locality := { pristine := true, disabled := true }, modified := false }
  sound : InOrder b₁
  themes : c₁.db.themes = c.db.themes
  trades : c.db.docs.Trades c₁.db.docs c.db.bundles.held c₁.db.bundles.held
  seen : ∀ kind, (b₁.items.get kind).view c₁.db.docs =
    ((b.items.get kind).view c.db.docs).dropAll { own := true, installed := true }

theorem exists_withdraws (found : c.db.bundles.row? id = some b) (sound : InOrder b)
    (holding : c.db.docs.Holding (c.db.bundles.held ++ others)) (pristine : b.entry.locality.pristine = true) :
    ∃ c₁ b₁, c.Withdraws id b c₁ b₁ := by
  obtain ⟨settled, trades⟩ := Keeper.release { own := true, installed := true } b c.db.docs sound
  have prunes := Pruning.prunes_release { own := true, installed := true } b c.db.docs
  have entry : (Row.release { own := true, installed := true } b c.db.docs).1.entry = b.entry :=
    Row.entry_release { own := true, installed := true } b c.db.docs
  have dropped := trades_hide found trades
  have place := EntryTable.row?_setRow_self (EntryTable.lt_of_row? found)
    { (Row.release { own := true, installed := true } b c.db.docs).1 with entry :=
      { b.entry with ownDoc := none, locality := { pristine := true, disabled := true }, modified := false } }
  refine ⟨(c.hidden id b (Row.release { own := true, installed := true } b c.db.docs).1
    (Row.release { own := true, installed := true } b c.db.docs).2).cleared (c.doomedDirs b), _, ?_, place, rfl, rfl, rfl,
    settled, rfl, dropped, ?_⟩
  · rw [deleteBundle?, found]
    simp only [Option.bind_eq_bind, Option.bind_some, entry, pristine, if_true, Option.pure_def]
    rfl
  · exact view_released place rfl (prunes.trans (prunes_dropDoc _ b.entry.ownDoc)) (dropped others holding).1

/-- What becomes of a bundle that did not come with the editor when it is deleted: its row is taken out. -/
theorem eq_of_row?_deleteBundle? (found : c.db.bundles.row? id = some b) (sound : InOrder b)
    (pristine : b.entry.locality.pristine = false) (deleted : c.deleteBundle? id = some (c', .ok true)) {b' : Bundle}
    (there : c'.db.bundles.row? id = some b') : b' = Row.ofEntry Entry.tombstone := by
  have cut {t : EntryTable Bundle} {b' : Bundle} (there : (t.cut id).row? id = some b') : b' = Row.ofEntry Entry.tombstone :=
    (EntryTable.row?_cut there).resolve_right fun other => other.1 rfl
  cases deletesBundle_of_deleteBundle? deleted with
  | @unplaced b₀ released docs dropping _ _ =>
    obtain rfl := Option.some.inj (found.symm.trans dropping.found)
    have settled := inOrder_release { own := true, installed := true } c.db.docs sound
    rw [dropping.release] at settled
    have place := EntryTable.row?_setRow_self (EntryTable.lt_of_row? found) { released with entry := b.entry.uninstalled }
    have none_ := EntryTable.hasSource_dropVersions b.entry.uninstalled (show Locality.sources.pristine = true from rfl) rfl rfl
    obtain ⟨same, -⟩ := EntryTable.drop_eq_cut place settled none_
      (c.uninstalled id b released docs).db.docs
    exact cut ((congrArg (fun t => EntryTable.row? t id) same).symm.trans there)
  | @deleted b₀ released docs docs' bundles files dropping _ _ removed =>
    obtain rfl := Option.some.inj (found.symm.trans dropping.found)
    have place := EntryTable.row?_setRow_self (EntryTable.lt_of_row? found) { released with entry := b.entry.uninstalled }
    have noFactory : b.entry.uninstalled.disowned.locality.isFactory = false := by
      rw [Entry.disowned, Entry.uninstalled]
      cases installed : b.entry.locality.installed <;> cases own : b.entry.locality.own <;>
        simp [installed, own, pristine, Locality.isFactory]
    obtain ⟨docs₁, -, ⟨factory, -⟩ | ⟨-, gone⟩⟩ := EntryTable.delete_cases (congrArg (Option.map Row.entry) place) removed
    · exact Bool.noConfusion (noFactory.symm.trans factory)
    · rw [EntryTable.modifyEntry_eq place] at gone
      have bare := EntryTable.row?_setRow_self (EntryTable.lt_of_row? place)
        (Row.withEntry { released with entry := b.entry.uninstalled } b.entry.uninstalled.disowned)
      have same : bundles = _ := (congrArg Prod.fst gone).trans (EntryTable.fst_removeRow bare docs₁)
      exact cut (same ▸ there)

/-! ## Restoring a bundle -/

theorem isFile_of_load {fs : FileSystem} {path : String} {d : Document} (read : Document.load fs path = .ok d) :
    fs.isFile path = true := by
  obtain ⟨octets, found, -⟩ := bind_eq_ok read
  have found := mapError_eq_ok found
  rw [FileSystem.read] at found
  rw [FileSystem.isFile]
  split at found
  · next located =>
    rw [located]
    rfl
  all_goals cases found

/-- The bundle of a hidden row when it has been given a manifest again. -/
def Bundle.revealed (b : Bundle) (manifest : Nat) (d : Document) : Bundle :=
  { b with entry := { b.entry with factoryDoc := some manifest, locality := { pristine := true } }.identify d }

/-- The catalog with a bundle that is shown again, before its items are read. -/
def revealed (c : Catalog) (id : Nat) (b : Bundle) (d : Document) : Catalog :=
  c.withDb { c.db with
    bundles := c.db.bundles.setRow id (b.revealed (c.db.docs.insert d).2 d)
    docs := dropDoc (c.db.docs.insert d).1 b.entry.factoryDoc }

variable {d : Document}

/-- The manifest of a bundle that is shown again takes the place of the one that it had. -/
theorem trades_revealed (found : c.db.bundles.row? id = some b) (stored : d.isVacant = false) :
    c.db.docs.Trades (c.revealed id b d).db.docs c.db.bundles.held (c.revealed id b d).db.bundles.held := by
  have inserted := (c.db.docs.trades_insert stored).frame c.db.bundles.held
  have dropped := (EntryTable.trades_dropDoc (c.db.docs.insert d).1 b.entry.factoryDoc).frame
    ([(c.db.docs.insert d).2] ++ b.entry.ownDoc.toList ++ Keeper.inner b)
  refine inserted.trans (EntryTable.trades_setRow found (dropped.perm ?_ (.of_eq rfl)))
  simp only [heldBy, show Row.entry b = b.entry from rfl, Entry.held, List.perm_iff_count, List.count_append]
  intro index
  omega

/-- Showing a bundle again is to record its manifest in a row that has the flag of the pristine version alone. -/
theorem registerManifest_eq_revealed (found : c.db.bundles.row? id = some b)
    (holding : c.db.docs.Holding (c.db.bundles.held ++ others)) (d : Document) :
    ((c.withDocs (c.db.docs.insert d).1).modifyBundle id fun b =>
      { b with entry := { b.entry with locality := { pristine := true } } }).registerManifest id (c.db.docs.insert d).2
        { pristine := true } = c.revealed id b d := by
  have shown := EntryTable.row?_setRow_self (EntryTable.lt_of_row? found)
    { b with entry := { b.entry with locality := { pristine := true } } }
  have entry := congrArg (Option.map Row.entry) shown
  have rows := EntryTable.fst_register shown (c.db.docs.insert d).2 { pristine := true } (c.db.docs.insert d).1
  have docs : (EntryTable.register (c.db.bundles.setRow id
      { b with entry := { b.entry with locality := { pristine := true } } }) id (c.db.docs.insert d).2 { pristine := true }
        (c.db.docs.insert d).1).2 = dropDoc (c.db.docs.insert d).1 b.entry.factoryDoc := by
    rw [EntryTable.register, show EntryTable.entryAt? _ id = _ from entry]
    rfl
  have row : Row.withEntry { b with entry := { b.entry with locality := { pristine := true } } }
      (Entry.registered { b.entry with locality := { pristine := true } } (c.db.docs.insert d).2 { pristine := true } d) =
        b.revealed (c.db.docs.insert d).2 d := by
    rw [Entry.registered, if_neg Bool.false_ne_true, if_neg fun shadowed => Bool.noConfusion shadowed.2]
    have flags : ({ pristine := true } : Locality).union { pristine := true } = { pristine := true } := by decide
    exact congrArg (fun locality =>
      ({ b with entry := ({ b.entry with factoryDoc := some (c.db.docs.insert d).2, locality } : Entry).identify d } : Bundle)) flags
  rw [DocumentTable.get_insert holding d] at rows
  replace rows := rows.trans ((EntryTable.setRow_setRow c.db.bundles id _ _).trans (congrArg (c.db.bundles.setRow id) row))
  rw [registerManifest, modifyBundle, show (c.withDocs (c.db.docs.insert d).1).db.bundles.rows.modify id _ = _ from
    congrArg EntryTable.rows (EntryTable.modify_eq found _)]
  dsimp only [withDb, withDocs] at rows docs ⊢
  rw [rows, docs]
  rfl

theorem restoreBundle?_eq (found : c.db.bundles.row? id = some b) (pristine : b.entry.locality.pristine = true)
    (hidden : b.entry.locality.disabled = true) (holding : c.db.docs.Holding (c.db.bundles.held ++ others))
    (read : Document.load c.files (Path.join (Path.join c.config.pristineBundles b.dirName) manifestName) = .ok d) :
    c.restoreBundle? id = some (((c.revealed id b d).syncItems (Path.join c.config.pristineBundles b.dirName)
      { pristine := true } id ItemKind.all).markDirty, .ok true) := by
  have loaded : c.db.docs.load c.files (Path.join (Path.join c.config.pristineBundles b.dirName) manifestName) =
      .ok (c.db.docs.insert d) := by rw [DocumentTable.load, read]; rfl
  rw [restoreBundle?, found]
  simp only [Option.bind_eq_bind, Option.bind_some, pristine, hidden, Bool.and_self, if_true, isFile_of_load read, loaded,
    Option.pure_def]
  rw [registerManifest_eq_revealed found holding]
  rfl

/-- The items of a bundle that is shown again are seen as before, and so is its manifest as it was read. -/
theorem view_revealed (found : c.db.bundles.row? id = some b) (holding : c.db.docs.Holding (c.db.bundles.held ++ others))
    (stored : d.isVacant = false) :
    (c.revealed id b d).db.docs.get (c.db.docs.insert d).2 = d ∧
      ∀ kind, (b.items.get kind).view (c.revealed id b d).db.docs = (b.items.get kind).view c.db.docs := by
  have held := (trades_revealed found stored others holding).1
  have place : (c.revealed id b d).db.bundles.row? id = some (b.revealed (c.db.docs.insert d).2 d) :=
    EntryTable.row?_setRow_self (EntryTable.lt_of_row? found) _
  have prunes : (c.db.docs.insert d).1.Prunes (c.revealed id b d).db.docs := prunes_dropDoc _ b.entry.factoryDoc
  obtain ⟨-, kept⟩ := c.db.docs.trades_insert stored _ holding
  constructor
  · obtain ⟨rest, perm, inEntry, -⟩ := Bundle.exists_held_besides place .language
    have named : (c.db.docs.insert d).2 ∈ (c.revealed id b d).db.bundles.held :=
      perm.mem_iff.2 (List.mem_append_right _ (inEntry _ List.mem_cons_self))
    exact (prunes.kept _ (held.mem_iff.1 (List.mem_append_left _ named))).trans (DocumentTable.get_insert holding d)
  · intro kind
    obtain ⟨rest, perm, -⟩ := Bundle.exists_held_besides place kind
    obtain ⟨before, old, -⟩ := Bundle.exists_held_besides found kind
    have items := held.perm (perm.append_right others)
    rw [List.append_assoc] at items
    refine (EntryTable.view_prune prunes items).trans (EntryTable.view_congr fun index member => kept index ?_)
    exact List.mem_append_left _ (old.mem_iff.2 (List.mem_append_left _ member))

/-- A hidden bundle is restored: it has its pristine version alone, its manifest is read again, and its items are brought in
line with its directory. -/
structure Restores (c : Catalog) (id : Nat) (b : Bundle) (d : Document) (c' : Catalog) (b' : Bundle) : Prop where
  restored : c.restoreBundle? id = some (c', .ok true)
  found : c'.db.bundles.row? id = some b'
  locality : b'.entry.locality = { pristine := true }
  manifest : ∃ doc, b'.entry.factoryDoc = some doc ∧ c'.db.docs.get doc = d
  themes : c'.db.themes = c.db.themes
  trades : c.db.docs.Trades c'.db.docs c.db.bundles.held c'.db.bundles.held
  seen : ∀ kind : ItemKind, (b'.items.get kind).view c'.db.docs = ((b.items.get kind).view c.db.docs).sync c.files
    (Path.join (Path.join c.config.pristineBundles b.dirName) kind.dirName) { pristine := true } kind.extension

theorem exists_restores (found : c.db.bundles.row? id = some b) (sound : InOrder b)
    (holding : c.db.docs.Holding (c.db.bundles.held ++ others)) (pristine : b.entry.locality.pristine = true)
    (hidden : b.entry.locality.disabled = true)
    (read : Document.load c.files (Path.join (Path.join c.config.pristineBundles b.dirName) manifestName) = .ok d) :
    ∃ c' b', c.Restores id b d c' b' := by
  have stored := Document.isVacant_of_load read
  have trades := trades_revealed found stored
  have held := (trades others holding).1
  have place : (c.revealed id b d).db.bundles.row? id = some (b.revealed (c.db.docs.insert d).2 d) :=
    EntryTable.row?_setRow_self (EntryTable.lt_of_row? found) _
  obtain ⟨items, docs, line⟩ := exists_bringsInLine place sound held .pristine
    (Path.join c.config.pristineBundles b.dirName) (show ItemKind.all.Nodup by decide)
  obtain ⟨manifest, unread⟩ := view_revealed found holding stored
  refine ⟨((c.revealed id b d).withDb { (c.revealed id b d).db with
      bundles := (c.revealed id b d).db.bundles.setRow id { b.revealed (c.db.docs.insert d).2 d with items }, docs }).markDirty,
    { b.revealed (c.db.docs.insert d).2 d with items }, ?_, EntryTable.row?_setRow_self (EntryTable.lt_of_row? place) _, rfl,
    ⟨(c.db.docs.insert d).2, rfl, ?_⟩, rfl, trades.trans line.trades, fun kind => ?_⟩
  · rw [restoreBundle?_eq found pristine hidden holding read, line.result]
  · exact (line.entry _ List.mem_cons_self).trans manifest
  · have seen := line.seen kind
    rw [if_pos (ItemKind.mem_all kind), show ((b.revealed _ d).items.get kind).view _ = _ from unread kind] at seen
    exact seen

/-! ## Deleting and restoring -/

/-- There are as many documents more or less in a catalog as there are names of documents in its rows. -/
def Balances (c c' : Catalog) : Prop :=
  c'.db.docs.liveCount + (c.db.themes.held ++ c.db.bundles.held).length =
    c.db.docs.liveCount + (c'.db.themes.held ++ c'.db.bundles.held).length

theorem balances_of_trades (holding : c.db.docs.Holding (c.db.bundles.held ++ others))
    (trades : c.db.docs.Trades c'.db.docs c.db.bundles.held c'.db.bundles.held) (themes : c'.db.themes = c.db.themes) :
    c.Balances c' := by
  have before := holding.liveCount_eq
  have after := (trades others holding).1.liveCount_eq
  rw [List.length_append] at before after
  rw [Balances, before, after, themes, List.length_append, List.length_append]
  omega

/-- A bundle is hidden, and neither it nor any of its items has a version but the pristine one. -/
structure Bundle.Withdrawn (b : Bundle) : Prop where
  locality : b.entry.locality = { pristine := true, disabled := true }
  ownDoc : b.entry.ownDoc = none
  items : ∀ kind i e, (b.items.get kind).entryAt? i = some e → e.locality.own = false ∧ e.locality.installed = false

theorem Withdraws.withdrawn {c₁ : Catalog} {b₁ : Bundle} (h : c.Withdraws id b c₁ b₁) : b₁.Withdrawn where
  locality := by rw [h.entry]
  ownDoc := by rw [h.entry]
  items kind i e item := by
    have seen := EntryTable.entryAt?_view (b₁.items.get kind) c₁.db.docs i
    rw [item, h.seen kind] at seen
    obtain ⟨row, found, entry⟩ := Option.map_eq_some_iff.1 seen
    have apart : row.locality.meets { own := true, installed := true } = false := TableView.meets_of_dropAll rfl found
    rw [show row = e.view c₁.db.docs from entry] at apart
    simpa [Locality.meets] using apart

/-- An item with a pristine version and no installed one is where it was when its bundle was deleted and restored, disabled
or not as before, if the file of that version has not changed. -/
theorem Withdraws.item {c₁ c₂ : Catalog} {b₁ b₂ : Bundle} {kind : ItemKind} {i doc : Nat} {e : Entry}
    (h : c.Withdraws id b c₁ b₁) (restores : c₁.Restores id b₁ d c₂ b₂) (sound : InOrder b)
    (item : (b.items.get kind).entryAt? i = some e) (pristine : e.locality.pristine = true)
    (installed : e.locality.installed = false) (named : e.factoryDoc = some doc)
    (inFile : TableView.InFile c₁.files (Path.join (Path.join c.config.pristineBundles b.dirName) kind.dirName) kind.extension
      (c.db.docs.get doc)) :
    ∃ e', (b₂.items.get kind).entryAt? i = some e' ∧ e'.locality.pristine = true ∧
      e'.locality.disabled = e.locality.disabled := by
  obtain ⟨row, place, rfl⟩ := EntryTable.row?_of_entryAt? item
  have live := ((sound kind).rows row (EntryTable.mem_of_row? place)).live_of_hasSource
    (by simp [Locality.hasSource, show (Row.entry row).locality.pristine = true from pristine])
  have there := EntryTable.row?_view (b.items.get kind) c.db.docs i
  rw [place, Option.map_some] at there
  obtain ⟨e', stays, pristine', disabled⟩ := TableView.row?_sync_dropAll there live.here pristine installed
    (show (row.view c.db.docs).factory = _ from congrArg (Option.map c.db.docs.get) named) inFile
  rw [← h.seen kind, ← h.config, ← h.dirName, ← restores.seen kind, EntryTable.row?_view] at stays
  obtain ⟨entry, found, rfl⟩ := Option.map_eq_some_iff.1 stays
  exact ⟨entry, congrArg (Option.map Row.entry) found, pristine', disabled⟩

/-! ## A bundle that came with the editor -/

/-- A file system with the directory of a bundle that came with the editor. There is a language in it. -/
def bundledFiles : FileSystem := { nodes := [([], .directory 0o755 0), (["app"], .directory 0o755 0),
  (["app", "Bundles"], .directory 0o755 0), (["app", "Bundles", "A.tmbundle"], .directory 0o755 0),
  (["app", "Bundles", "A.tmbundle", "info.plist"], .file appText 0o644 1000000000),
  (["app", "Bundles", "A.tmbundle", "Syntaxes"], .directory 0o755 0),
  (["app", "Bundles", "A.tmbundle", "Syntaxes", "A.tmLanguage"], .file appText 0o644 1000000000)] }

theorem isFileName_language : IsFileName "A.tmLanguage" := ⟨by decide, by decide, by decide, by decide, by decide⟩

theorem locate_bundled : bundledFiles.locate appConfig.pristineBundles = .ok (["app", "Bundles"], .directory 0o755 0) :=
  locate_join (locate_name isFileName_app rfl rfl rfl rfl) rfl isFileName_bundles rfl

theorem locate_bundledBundle : bundledFiles.locate (Path.join appConfig.pristineBundles "A.tmbundle") =
    .ok (["app", "Bundles", "A.tmbundle"], .directory 0o755 0) := locate_join locate_bundled rfl isFileName_bundle rfl

theorem locate_bundledSyntaxes :
    bundledFiles.locate (Path.join (Path.join appConfig.pristineBundles "A.tmbundle") ItemKind.language.dirName) =
      .ok (["app", "Bundles", "A.tmbundle", "Syntaxes"], .directory 0o755 0) :=
  locate_join locate_bundledBundle rfl ItemKind.language.isFileName_dirName rfl

/-- The manifest of the bundle and its language can be read. -/
theorem load_bundled : ∃ d e, Document.load bundledFiles
      (Path.join (Path.join appConfig.pristineBundles "A.tmbundle") manifestName) = .ok d ∧
    Document.load bundledFiles (Path.join (Path.join (Path.join appConfig.pristineBundles "A.tmbundle")
      ItemKind.language.dirName) "A.tmLanguage") = .ok e ∧ e.filename = "A.tmLanguage" ∧ e.modTime = 1 := by
  obtain ⟨d, parsed, -⟩ := exists_parse_appText
  exact ⟨_, _, Document.load_of_locate (locate_join locate_bundledBundle rfl isFileName_manifestName rfl) parsed
      (isFileName_manifestName.fileName?_join _),
    Document.load_of_locate (locate_join locate_bundledSyntaxes rfl isFileName_language rfl) parsed
      (isFileName_language.fileName?_join _), rfl, rfl⟩

theorem versionFiles_bundled : TableView.versionFiles bundledFiles
    (Path.join (Path.join appConfig.pristineBundles "A.tmbundle") ItemKind.language.dirName) ItemKind.language.extension =
      ["A.tmLanguage"] := by
  have kept : hasExtension "A.tmLanguage" ".plist" = false ∧ hasExtension "A.tmLanguage" ".tmLanguage" = true := by
    constructor <;> decide +kernel
  rw [TableView.versionFiles, listDir, FileSystem.children_eq locate_bundledSyntaxes rfl,
    show bundledFiles.childrenAt ["app", "Bundles", "A.tmbundle", "Syntaxes"] =
      [("A.tmLanguage", .file appText 0o644 1000000000)] from rfl]
  simp [FileNode.isDirectory, kept, ItemKind.extension]

/-- What is recorded of the bundle and its language. -/
def bundledBundle (d e : Document) : Bundle where
  entry := (Entry.new { pristine := true } 0).identify d
  dirName := "A.tmbundle"
  items := (PerKind.replicate {}).set .language ⟨[(Entry.new { pristine := true } 1).identify e]⟩

/-- Tables with the bundle and nothing else. -/
def bundledTables (d e : Document) : Database := { bundles := ⟨[bundledBundle d e]⟩, docs := { documents := #[d, e] } }

/-- A scan for the languages finds the bundle and its language. -/
theorem updateBundles_bundled (files : c.files = bundledFiles) (empty : c.db = {}) :
    ∃ d e, e.filename = "A.tmLanguage" ∧ e.modTime = 1 ∧
      Document.load bundledFiles (Path.join (Path.join appConfig.pristineBundles "A.tmbundle") manifestName) = .ok d ∧
      c.updateBundles appConfig.pristineBundles { pristine := true } .languages = c.withDb (bundledTables d e) := by
  obtain ⟨config, db, fs, identities, dirty, lastFlush, pending, complete⟩ := c
  obtain rfl : fs = bundledFiles := files
  obtain rfl : db = {} := empty
  obtain ⟨d, e, manifest, language, filename, time⟩ := load_bundled
  have listed : listDir bundledFiles appConfig.pristineBundles true (fun name => hasExtension name ".tmbundle") =
      ["A.tmbundle"] := by
    have kept : hasExtension "A.tmbundle" ".tmbundle" = true := by decide +kernel
    rw [listDir, FileSystem.children_eq locate_bundled rfl,
      show bundledFiles.childrenAt ["app", "Bundles"] = [("A.tmbundle", .directory 0o755 0)] from rfl]
    simp [FileNode.isDirectory, kept]
  have made : newManifest? { config, db := {}, files := bundledFiles, identities, dirty, lastFlush, pending, complete }
      (Path.join appConfig.pristineBundles "A.tmbundle") "A.tmbundle" { pristine := true } none =
      some ({ config, files := bundledFiles, identities, dirty, lastFlush, pending, complete,
              db := { docs := { documents := #[d] } } }, 0) := by
    rw [newManifest?, if_pos (isFile_of_load manifest), DocumentTable.load, manifest]
    rfl
  have read : DocumentTable.load { documents := #[d] } bundledFiles (Path.join (Path.join
      (Path.join appConfig.pristineBundles "A.tmbundle") ItemKind.language.dirName) "A.tmLanguage") =
        .ok ({ documents := #[d, e] }, 1) := by
    rw [DocumentTable.load, language]
    rfl
  have unknown : (e.rootString? "uuid").bind (EntryTable.findUuid? ({} : EntryTable Entry)) = none := by
    cases e.rootString? "uuid" <;> rfl
  have synced : EntryTable.sync ({} : EntryTable Entry) { documents := #[d] } bundledFiles
      (Path.join (Path.join appConfig.pristineBundles "A.tmbundle") ItemKind.language.dirName) { pristine := true }
      ItemKind.language.extension =
        (⟨[(Entry.new { pristine := true } 1).identify e]⟩, { documents := #[d, e] }) := by
    rw [EntryTable.sync, if_pos (FileSystem.isDirectory_iff.2 ⟨_, _, _, locate_bundledSyntaxes⟩),
      show listDir _ _ false _ = _ from versionFiles_bundled]
    change EntryTable.addNew bundledFiles _ { pristine := true } ({} : EntryTable Entry) { documents := #[d] }
      ["A.tmLanguage"] = _
    rw [EntryTable.addNew, read]
    dsimp only
    rw [show ({ documents := #[d, e] } : DocumentTable).get 1 = e from rfl, unknown]
    rfl
  let bundle : Bundle := { entry := (Entry.new { pristine := true } 0).identify d, dirName := "A.tmbundle" }
  refine ⟨d, e, filename, time, manifest, ?_⟩
  rw [updateBundles, if_pos (FileSystem.isDirectory_iff.2 ⟨_, _, _, locate_bundled⟩), listed]
  change addBundles _ _ _ _ ["A.tmbundle"] = _
  rw [addBundles, show findDir? _ "A.tmbundle" = none from rfl]
  dsimp only
  rw [made, if_neg (by decide)]
  dsimp only
  rw [addBundles]
  change syncItems { config, files := bundledFiles, identities, dirty, lastFlush, pending, complete,
                     db := { bundles := ⟨[bundle]⟩, docs := { documents := #[d] } } }
    (Path.join appConfig.pristineBundles "A.tmbundle") { pristine := true } 0 [.language] = _
  rw [syncItems, show EntryTable.row? ⟨[bundle]⟩ 0 = some bundle from rfl]
  dsimp only
  rw [show bundle.items.get .language = {} from rfl, synced, syncItems]
  rfl

/-- A scan for the languages finds the bundle and nothing else. -/
theorem exists_update_bundled (config : c.config = appConfig) (files : c.files = bundledFiles) (empty : c.db = {}) :
    ∃ d e, e.filename = "A.tmLanguage" ∧ e.modTime = 1 ∧
      Document.load bundledFiles (Path.join (Path.join appConfig.pristineBundles "A.tmbundle") manifestName) = .ok d ∧
      c.update .languages = (c.withDb (bundledTables d e)).markDirty := by
  have app {name : String} (h : IsFileName name) (missing : bundledFiles.node? ["app", name] = none) :
      bundledFiles.isDirectory (Path.join "app" name) = false :=
    not_isDirectory_join (locate_name isFileName_app rfl rfl rfl rfl) rfl h missing
  have data {name : String} (h : IsFileName name) (missing : bundledFiles.node? [name] = none) :
      bundledFiles.isDirectory (Path.join "" name) = false :=
    not_isDirectory_of_follow (by rw [h.parts_join, Path.parts_empty]; rfl) (FileSystem.follow_name rfl rfl h) missing
  have themes {dir : String} (loc : Locality) (missing : bundledFiles.isDirectory dir = false) : c.updateThemes dir loc = c := by
    refine updateThemes_same ?_
    rw [files, EntryTable.sync, if_neg (Bool.eq_false_iff.1 missing), empty]
    rfl
  obtain ⟨d, e, filename, time, manifest, found⟩ := updateBundles_bundled files empty
  refine ⟨d, e, filename, time, manifest, ?_⟩
  have themed : (if ScanMode.languages = .rest then c else
      (c.updateThemes c.config.pristineThemes { pristine := true }).updateThemes c.config.ownThemes { own := true }) = c := by
    have first : c.updateThemes appConfig.pristineThemes { pristine := true } = c := themes _ (app isFileName_themes rfl)
    have second : c.updateThemes appConfig.ownThemes { own := true } = c := themes _ (data isFileName_themes rfl)
    rw [if_neg (by decide), config, first, second]
  have installed : c.updateBundles appConfig.installedBundles { installed := true } .languages = c :=
    updateBundles_missing (files ▸ data isFileName_installedBundles rfl) (congrArg Database.bundles empty) .languages
  have own : (c.withDb (bundledTables d e)).updateBundles appConfig.ownBundles { own := true } .languages =
      c.withDb (bundledTables d e) := by
    have missing : (c.withDb (bundledTables d e)).files.isDirectory appConfig.ownBundles = false :=
      files ▸ data isFileName_bundles rfl
    have stays (docs : DocumentTable) : (⟨[bundledBundle d e]⟩ : EntryTable Bundle).dropVanished { own := true } docs =
        (⟨[bundledBundle d e]⟩, docs) := by
      have apart : ({ pristine := true } : Locality).meets { own := true } = false := by decide
      rw [EntryTable.dropVanished, show (⟨[bundledBundle d e]⟩ : EntryTable Bundle).size = 1 from rfl, List.range_one,
        EntryTable.dropWhere, show EntryTable.entryAt? ⟨[bundledBundle d e]⟩ 0 = some (bundledBundle d e).entry from rfl,
        Option.any_some, show (bundledBundle d e).entry.locality = { pristine := true } from rfl, apart]
      rfl
    rw [updateBundles, if_neg (Bool.eq_false_iff.1 missing),
      show (c.withDb (bundledTables d e)).db.bundles = ⟨[bundledBundle d e]⟩ from rfl, stays]
    rfl
  rw [update, themed, config, installed, config, found, show (c.withDb (bundledTables d e)).config = appConfig from config,
    own]
  rfl

/-- The language is in its file. -/
theorem inFile_bundled {e : Document} (filename : e.filename = "A.tmLanguage") (time : e.modTime = 1) :
    TableView.InFile bundledFiles (Path.join (Path.join appConfig.pristineBundles "A.tmbundle") ItemKind.language.dirName)
      ItemKind.language.extension e where
  listed := by
    rw [versionFiles_bundled, filename]
    exact List.mem_singleton_self _
  unchanged := by
    have modTime := Document.modTime_of_locate (locate_join locate_bundledSyntaxes rfl isFileName_language rfl)
    rw [filename, EntryTable.hasChanged, modTime, time]
    rfl

/-- No directory goes with the bundle. -/
theorem doomedDirs_bundled (config : c.config = appConfig) (files : c.files = bundledFiles) (d e : Document) :
    c.doomedDirs (bundledBundle d e) = [] := by
  have missing : c.files.isDirectory (c.ownDir "A.tmbundle") = false := by
    rw [files, ownDir, config]
    have parts : Path.parts (Path.join appConfig.ownBundles "A.tmbundle") = ["Bundles"] ++ ["A.tmbundle"] := by
      rw [isFileName_bundle.parts_join, show appConfig.ownBundles = "Bundles" from isFileName_bundles.join_empty,
        isFileName_bundles.parts]
    exact not_isDirectory_of_follow parts (FileSystem.follow_name rfl rfl isFileName_bundles) rfl
  have dirName : (bundledBundle d e).dirName = "A.tmbundle" := rfl
  rw [doomedDirs, dirName, if_neg (by decide), missing]
  rfl

/-- Deleting a bundle that came with the editor hides it with its pristine version, the only one that is left of it and of
its items. If its manifest can be read it can be restored: it has its pristine version alone then, with the manifest as it
was read, and the items whose files have not changed are where they were, disabled or not as before. No document is lost or
left over. A bundle that did not come with the editor is gone when it was deleted. -/
theorem restores_of_reachable (reached : Reachable (fun _ _ => True) c) (found : c.db.bundles.row? id = some b) :
    (b.entry.locality.pristine = true → ∃ c₁ b₁, c.deleteBundle? id = some (c₁, .ok false) ∧
      c₁.db.bundles.row? id = some b₁ ∧ b₁.Withdrawn ∧ c.Balances c₁ ∧
      ∀ d, Document.load c₁.files (Path.join (Path.join c.config.pristineBundles b.dirName) manifestName) = .ok d →
        ∃ c₂ b₂, c₁.restoreBundle? id = some (c₂, .ok true) ∧ c₂.db.bundles.row? id = some b₂ ∧
          b₂.entry.locality = { pristine := true } ∧ (∃ doc, b₂.entry.factoryDoc = some doc ∧ c₂.db.docs.get doc = d) ∧
          (∀ kind i e doc, (b.items.get kind).entryAt? i = some e → e.locality.pristine = true →
            e.locality.installed = false → e.factoryDoc = some doc →
            TableView.InFile c₁.files (Path.join (Path.join c.config.pristineBundles b.dirName) kind.dirName) kind.extension
              (c.db.docs.get doc) →
            ∃ e', (b₂.items.get kind).entryAt? i = some e' ∧ e'.locality.pristine = true ∧
              e'.locality.disabled = e.locality.disabled) ∧
          c.Balances c₂) ∧
    (b.entry.locality.pristine = false → ∀ c', c.deleteBundle? id = some (c', .ok true) →
      ∀ b', c'.db.bundles.row? id = some b' → b' = Row.ofEntry Entry.tombstone) := by
  have sound := inOrder_of_reachable reached b (EntryTable.mem_of_row? found)
  obtain ⟨left, holding⟩ := (owns_of_reachable reached).holding
  obtain ⟨others, holding⟩ : ∃ others, c.db.docs.Holding (c.db.bundles.held ++ others) := by
    rw [List.nil_append, Database.entries, List.flatMap_append, EntryTable.held_bundleEntries, ← List.append_assoc] at holding
    exact ⟨_, holding.perm List.perm_append_comm⟩
  refine ⟨fun pristine => ?_, fun pristine c' deleted b' there => eq_of_row?_deleteBundle? found sound pristine deleted there⟩
  obtain ⟨c₁, b₁, withdraws⟩ := exists_withdraws found sound holding pristine
  refine ⟨c₁, b₁, withdraws.deleted, withdraws.found, withdraws.withdrawn,
    balances_of_trades holding withdraws.trades withdraws.themes, fun d read => ?_⟩
  rw [← withdraws.config, ← withdraws.dirName] at read
  obtain ⟨c₂, b₂, restores⟩ := exists_restores withdraws.found withdraws.sound (withdraws.trades others holding).1
    (by rw [withdraws.entry]) (by rw [withdraws.entry]) read
  exact ⟨c₂, b₂, restores.restored, restores.found, restores.locality, restores.manifest,
    fun kind i e doc item pristine installed named inFile =>
      withdraws.item restores sound item pristine installed named inFile,
    balances_of_trades holding (withdraws.trades.trans restores.trades) (restores.themes.trans withdraws.themes)⟩

/-- A bundle that came with the editor is found by a scan with its language, deleted and restored, and a new bundle is
gone when it is deleted. -/
theorem restores_of_reachable_bundled :
    (∃ (c c₁ c₂ : Catalog) (b b₁ b₂ : Bundle), Reachable (fun _ _ => True) c ∧ c.db.bundles.row? 0 = some b ∧
      b.entry.locality.pristine = true ∧ c.deleteBundle? 0 = some (c₁, .ok false) ∧
      c₁.db.bundles.row? 0 = some b₁ ∧ b₁.Withdrawn ∧ c.Balances c₁ ∧ c₁.restoreBundle? 0 = some (c₂, .ok true) ∧
      c₂.db.bundles.row? 0 = some b₂ ∧ b₂.entry.locality = { pristine := true } ∧ c.Balances c₂ ∧
      ∃ e, (b₂.items.get .language).entryAt? 0 = some e ∧ e.locality.pristine = true ∧ e.locality.disabled = false) ∧
    ∃ (c c' : Catalog) (b : Bundle), Reachable (fun _ _ => True) c ∧ c.db.bundles.row? 0 = some b ∧
      b.entry.locality.pristine = false ∧ c.deleteBundle? 0 = some (c', .ok true) ∧
      ∀ b', c'.db.bundles.row? 0 = some b' → b' = Row.ofEntry Entry.tombstone := by
  obtain ⟨empty, start, config, bare, opens⟩ := @openAt_bare appConfig rfl rfl { nth := fun _ => "U" }
  have opened : Reachable (fun _ _ => True) { start.update .languages with pending := some .rest } := .opened empty opens
  have kept : (start.update .languages).config = appConfig :=
    (config_update (bare.tables ▸ Database.keeping_empty) .languages).trans config
  have tables : (start.update .languages).db = {} := (bare.update .languages).tables
  constructor
  · have placed := opened.step (.changeFiles bundledFiles) rfl
    have scanned := placed.step (.update .languages) rfl
    obtain ⟨d, e, filename, time, manifest, found⟩ := exists_update_bundled
      (c := { start.update .languages with pending := some .rest, files := bundledFiles }) kept rfl tables
    rw [found] at scanned
    obtain ⟨c, reached, config, files, tables⟩ : ∃ c : Catalog, Reachable (fun _ _ => True) c ∧ c.config = appConfig ∧
        c.files = bundledFiles ∧ c.db = bundledTables d e := ⟨_, scanned, kept, rfl, rfl⟩
    have there : c.db.bundles.row? 0 = some (bundledBundle d e) := by rw [tables]; rfl
    obtain ⟨c₁, b₁, deleted, found₁, withdrawn, balances₁, restorable⟩ := (restores_of_reachable reached there).1 rfl
    have files₁ : c₁.files = bundledFiles := by
      cases deletesBundle_of_deleteBundle? deleted with
      | hides dropping _ =>
        obtain rfl := Option.some.inj (there.symm.trans dropping.found)
        rw [doomedDirs_bundled config files d e]
        exact files
    rw [files₁, config] at restorable
    obtain ⟨c₂, b₂, restored, found₂, flags, -, items, balances₂⟩ := restorable d manifest
    refine ⟨c, c₁, c₂, _, b₁, b₂, reached, there, rfl, deleted, found₁, withdrawn, balances₁, restored, found₂, flags,
      balances₂, items .language 0 _ 1 rfl rfl rfl rfl ?_⟩
    rw [tables]
    exact inFile_bundled filename time
  · obtain ⟨empty, c, files, opens, bare⟩ := bare_openAt { nth := fun _ => "A" }
    have opened : Reachable (fun _ _ => True) c := .opened empty opens
    obtain ⟨config, db, files, identities, dirty, lastFlush, pending, complete⟩ := c
    obtain ⟨rfl, rfl⟩ := bare
    obtain ⟨c, c', b, reached, there, own, deleted⟩ : ∃ (c c' : Catalog) (b : Bundle), Reachable (fun _ _ => True) c ∧
        c.db.bundles.row? 0 = some b ∧ b.entry.locality.pristine = false ∧ c.deleteBundle? 0 = some (c', .ok true) :=
      ⟨_, _, _, opened.step (.newBundle "b") rfl, rfl, rfl, rfl⟩
    exact ⟨c, c', b, reached, there, own, deleted, (restores_of_reachable reached there).2 own c' deleted⟩

end EditorBundles.Catalog
