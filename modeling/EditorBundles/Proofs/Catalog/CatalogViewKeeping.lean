import EditorBundles.Proofs.Catalog.CatalogViews
import EditorBundles.Proofs.Catalog.ScanKeeping
import EditorBundles.Proofs.Catalog.StableRows

/-!
# Scans as they are seen

A scan of a catalog that has its documents is seen as the scan of what is seen of the catalog. So what a scan
leaves does not depend on where the documents are in their table, except for that.
-/

namespace EditorBundles.Catalog
set_option autoImplicit false
open PropertyList

/-- What is seen of a catalog. -/
def view (c : Catalog) : CatalogView where
  config := c.config
  themes := c.db.themes.view c.db.docs
  bundles := c.db.bundles.view c.db.docs
  syntaxes := c.db.syntaxes
  files := c.files
  identities := c.identities
  dirty := c.dirty
  lastFlush := c.lastFlush
  pending := c.pending
  complete := c.complete

open EntryTable (held_entries held_bundleEntries)

namespace Database

variable {db : Database} {taken spare : List Nat}

theorem held_eq (db : Database) : db.entries.flatMap Entry.held = db.themes.held ++ db.bundles.held := by
  rw [entries, List.flatMap_append, held_entries, held_bundleEntries]

theorem Keeping.holds (h : db.Keeping spare) : db.Holds spare := by
  refine ⟨[], ?_⟩
  rw [List.nil_append, held_eq]
  exact h.holding

/-- What is held besides the documents of the bundles. -/
theorem Holds.exists_bundles (h : db.Holds (taken ++ spare)) :
    ∃ others, db.themes.held ⊆ others ∧ db.docs.Holding (taken ++ db.bundles.held ++ others) := by
  obtain ⟨left, holding⟩ := h
  rw [held_eq] at holding
  refine ⟨db.themes.held ++ (spare ++ left), List.subset_append_left _ _, holding.perm ?_⟩
  simp only [List.perm_iff_count, List.count_append]
  intro index
  omega

/-- What is held besides the documents of the themes. -/
theorem Holds.exists_themes (h : db.Holds (taken ++ spare)) :
    ∃ others, db.bundles.held ⊆ others ∧ db.docs.Holding (taken ++ db.themes.held ++ others) := by
  obtain ⟨left, holding⟩ := h
  rw [held_eq] at holding
  refine ⟨db.bundles.held ++ (spare ++ left), List.subset_append_left _ _, holding.perm ?_⟩
  simp only [List.perm_iff_count, List.count_append]
  intro index
  omega

/-- What themes and bundles hold is held besides the spare documents. -/
theorem Holds.exists_seen (h : db.Holds spare) :
    ∃ left, db.docs.Holding (left ++ spare ++ (db.themes.held ++ db.bundles.held)) := by
  obtain ⟨left, holding⟩ := h
  rw [held_eq, ← List.append_assoc] at holding
  exact ⟨left, holding⟩

end Database

variable {c : Catalog} {spare taken : List Nat} {docs : DocumentTable} {loc : Locality} {id doc : Nat}

/-- Only the documents that themes and bundles hold are seen. -/
theorem view_withDocs (same : ∀ index ∈ c.db.themes.held ++ c.db.bundles.held, docs.get index = c.db.docs.get index) :
    (c.withDocs docs).view = c.view := by
  have themes : c.db.themes.view docs = c.db.themes.view c.db.docs :=
    EntryTable.view_congr fun index member => same index (List.mem_append_left _ member)
  have bundles : c.db.bundles.view docs = c.db.bundles.view c.db.docs :=
    EntryTable.view_congr fun index member => same index (List.mem_append_right _ member)
  show ({ c.view with themes := c.db.themes.view docs, bundles := c.db.bundles.view docs } : CatalogView) = c.view
  rw [themes, bundles]
  rfl

/-- What is done to the bundles is seen in the bundles alone. -/
theorem view_withBundles {bundles : EntryTable Bundle}
    (carries : Carries taken c.db.bundles.entries c.db.docs [] bundles.entries docs) (h : c.db.Holds (taken ++ spare)) :
    (c.withDb { c.db with bundles, docs }).view = { c.view with bundles := bundles.view docs } := by
  obtain ⟨others, inside, holding⟩ := h.exists_bundles
  obtain ⟨-, kept⟩ := EntryTable.exists_holding_of_carries held_bundleEntries carries holding
  have themes : c.db.themes.view docs = c.db.themes.view c.db.docs :=
    EntryTable.view_congr fun index member => kept index (inside member)
  show ({ c.view with themes := c.db.themes.view docs, bundles := bundles.view docs } : CatalogView) = _
  rw [themes]
  rfl

/-- What is done to the themes is seen in the themes alone. -/
theorem view_withThemes {themes : EntryTable Entry}
    (carries : Carries taken c.db.themes.entries c.db.docs [] themes.entries docs) (h : c.db.Holds (taken ++ spare)) :
    (c.withDb { c.db with themes, docs }).view = { c.view with themes := themes.view docs } := by
  obtain ⟨others, inside, holding⟩ := h.exists_themes
  obtain ⟨-, kept⟩ := EntryTable.exists_holding_of_carries held_entries carries holding
  have bundles : c.db.bundles.view docs = c.db.bundles.view c.db.docs :=
    EntryTable.view_congr fun index member => kept index (inside member)
  show ({ c.view with themes := themes.view docs, bundles := c.db.bundles.view docs } : CatalogView) = _
  rw [bundles]
  rfl

/-! ## Manifests -/

theorem view_dropBundle (h : c.db.Holds spare) (source : loc.IsSource) (id : Nat) :
    (c.dropBundle id loc).view = c.view.dropBundle id loc := by
  have free : c.db.Holds ([] ++ spare) := h
  obtain ⟨others, -, holding⟩ := free.exists_bundles
  have seen := EntryTable.view_drop (EntryTable.lasting_named held_bundleEntries source) ⟨trivial, others, holding⟩ id
  have whole := view_withBundles (EntryTable.carries_drop c.db.bundles id loc c.db.docs) free
  rw [seen] at whole
  exact whole

theorem view_registerManifest (h : c.db.Holds (doc :: spare)) (source : loc.IsSource) (id : Nat) :
    (c.registerManifest id doc loc).view = c.view.registerManifest id (c.db.docs.get doc) loc := by
  have given : c.db.Holds ([doc] ++ spare) := h
  have carries := EntryTable.carries_register c.db.bundles source id doc c.db.docs
  obtain ⟨others, -, holding⟩ := given.exists_bundles
  obtain ⟨⟨left, held⟩, -⟩ := EntryTable.exists_holding_of_carries held_bundleEntries carries holding
  have whole := view_withBundles carries given
  rw [EntryTable.view_register held] at whole
  exact whole

/-- A document that is loaded is not seen until it is recorded. -/
theorem view_load (h : c.db.Holds spare) {path : String} {fresh : Nat}
    (loaded : c.db.docs.load c.files path = .ok (docs, fresh)) :
    ∃ d, Document.load c.files path = .ok d ∧ docs.get fresh = d ∧ (c.withDocs docs).view = c.view ∧
      (c.withDocs docs).db.Holds (fresh :: spare) := by
  obtain ⟨d, read, inserted, stored⟩ := DocumentTable.load_eq_ok loaded
  obtain ⟨left, holding⟩ := h.exists_seen
  have content := DocumentTable.get_insert holding d
  rw [← inserted] at content
  obtain ⟨-, kept⟩ := stored _ holding
  exact ⟨d, read, content, view_withDocs fun index member => kept index (List.mem_append_right _ member),
    h.moves (Database.moves_load (W := fun _ => True) (N := True) spare c.db loaded)⟩

/-- A manifest that no bundle has yet is named and written. -/
theorem view_writeManifest {manifest : Nat} (h : c.db.Holds (manifest :: spare)) (bundleDir : String) :
    ((c.withDocs (c.db.docs.modify manifest fun d => { d with filename := manifestName })).saveDoc manifest
        bundleDir).1.view = (c.view.writeManifest bundleDir (c.db.docs.get manifest)).1 ∧
      ((c.withDocs (c.db.docs.modify manifest fun d => { d with filename := manifestName })).saveDoc manifest
        bundleDir).1.db.docs.get manifest = (c.view.writeManifest bundleDir (c.db.docs.get manifest)).2 := by
  obtain ⟨left, holding⟩ := h.exists_seen
  have bound := holding.lt (List.mem_append_left _ (List.mem_append_right _ List.mem_cons_self))
  have apart : ∀ index ∈ c.db.themes.held ++ c.db.bundles.held, index ≠ manifest := by
    rintro index member rfl
    obtain ⟨-, -, apart⟩ := List.nodup_append.1 holding.nodup
    exact apart index (List.mem_append_right _ List.mem_cons_self) index member rfl
  have unseen (docs : DocumentTable) (same : ∀ index, index ≠ manifest → docs.get index = c.db.docs.get index) :
      (c.withDocs docs).view = c.view := view_withDocs fun index member => same index (apart index member)
  rw [saveDoc, CatalogView.writeManifest, DocumentTable.save, DocumentTable.modify]
  have named := DocumentTable.get_set_self c.db.docs bound { c.db.docs.get manifest with filename := manifestName }
  generalize { c.db.docs.get manifest with filename := manifestName } = d at named
  dsimp only [withDocs]
  rw [named, show c.view.files = c.files from rfl]
  obtain ⟨files, result⟩ := d.save c.files bundleDir
  cases result with
  | error fault =>
    have same := unseen (c.db.docs.set manifest d) fun index other => DocumentTable.get_set_of_ne _ other d
    exact ⟨congrArg (fun v : CatalogView => { v with files }) same, named⟩
  | ok result =>
    obtain ⟨saved, path⟩ := result
    have same := unseen ((c.db.docs.set manifest d).set manifest saved) fun index other =>
      (DocumentTable.get_set_of_ne _ other saved).trans (DocumentTable.get_set_of_ne _ other d)
    have bound' : manifest < (c.db.docs.set manifest d).size := by
      rw [DocumentTable.size_set]
      exact bound
    exact ⟨congrArg (fun v : CatalogView => { v with files }) same, DocumentTable.get_set_self _ bound' saved⟩

/-- A document that was just stored is not seen. -/
theorem view_store (h : c.db.Holds spare) {d : Document} (there : d.isVacant = false) :
    (c.withDocs (c.db.docs.insert d).1).view = c.view ∧ (c.db.docs.insert d).1.get (c.db.docs.insert d).2 = d ∧
      (c.withDocs (c.db.docs.insert d).1).db.Holds ((c.db.docs.insert d).2 :: spare) := by
  obtain ⟨left, holding⟩ := h.exists_seen
  obtain ⟨-, kept⟩ := c.db.docs.trades_insert there _ holding
  exact ⟨view_withDocs fun index member => kept index (List.mem_append_right _ member),
    DocumentTable.get_insert holding d, h.carried (.along (.store there spare c.db.entries c.db.docs))⟩

theorem view_createDoc (h : c.db.Holds spare) (name filename : String) :
    (c.createDoc name (some filename)).1.view = { c.view with identities := c.identities.draw.2 } ∧
      (c.createDoc name (some filename)).1.db.docs.get (c.createDoc name (some filename)).2 =
        { Document.create name c.identities.draw.1 with filename } ∧
      (c.createDoc name (some filename)).1.db.Holds ((c.createDoc name (some filename)).2 :: spare) := by
  have fresh : ({ Document.create name c.identities.draw.1 with filename } : Document).isVacant = false := rfl
  obtain ⟨same, content, holds⟩ := view_store h fresh
  exact ⟨congrArg (fun v : CatalogView => { v with identities := c.identities.draw.2 }) same, content, holds⟩

/-- What is seen when a manifest is made for a bundle directory. -/
theorem view_makeManifest (h : c.db.Holds spare) (bundleDir dirName : String) (factory : Option Nat)
    (stored : ∀ doc ∈ factory, (c.db.docs.get doc).isVacant = false) :
    (c.makeManifest bundleDir dirName factory).1.view =
        (c.view.makeManifest bundleDir dirName (factory.map c.db.docs.get)).1 ∧
      (c.makeManifest bundleDir dirName factory).1.db.docs.get (c.makeManifest bundleDir dirName factory).2 =
        (c.view.makeManifest bundleDir dirName (factory.map c.db.docs.get)).2 := by
  have named (v : CatalogView) (d : Document) :
      v.writeManifest bundleDir { d with filename := manifestName } = v.writeManifest bundleDir d := rfl
  cases factory with
  | none =>
    obtain ⟨seen, content, holds⟩ := view_createDoc h (displayName dirName) manifestName
    rw [makeManifest.eq_def]
    dsimp only
    generalize c.createDoc (displayName dirName) (some manifestName) = created at seen content holds
    obtain ⟨c', manifest⟩ := created
    have written := view_writeManifest holds bundleDir
    rw [seen, content, named] at written
    exact written
  | some factory =>
    obtain ⟨seen, content, holds⟩ := view_store h (d := (c.db.docs.get factory).copy) (stored factory rfl)
    rw [show c.db.docs.insert (c.db.docs.get factory).copy = c.db.docs.copy factory from rfl] at seen content holds
    rw [makeManifest.eq_def]
    dsimp only
    generalize c.db.docs.copy factory = created at seen content holds
    obtain ⟨docs, manifest⟩ := created
    have written := view_writeManifest holds bundleDir
    rw [seen, show (c.withDocs docs).db.docs.get manifest = _ from content] at written
    exact written

/-! ## Items -/

/-- What is seen when the items of one kind are brought in line with a directory. -/
theorem view_syncKind (h : c.db.Holds spare) (source : loc.IsSource) {b : Bundle} (place : c.db.bundles.row? id = some b)
    (dir : String) (kind : ItemKind) :
    (c.withDb { c.db with
        bundles := c.db.bundles.setRow id { b with
          items := b.items.set kind ((b.items.get kind).sync c.db.docs c.files dir loc kind.extension).1 }
        docs := ((b.items.get kind).sync c.db.docs c.files dir loc kind.extension).2 }).view =
      { c.view with bundles := c.view.bundles.setRow id ((b.view c.db.docs).syncKind c.files dir loc kind) } := by
  have free : c.db.Holds ([] ++ spare) := h
  obtain ⟨others, -, holding⟩ := free.exists_bundles
  obtain ⟨rest, perm, -⟩ := Bundle.exists_held_besides place kind
  have held := holding.perm (perm.append_right others)
  rw [List.append_assoc] at held
  have seen := EntryTable.view_sync (EntryTable.lasting_named held_entries source) ⟨trivial, _, held⟩ c.files dir kind.extension
  have moved : EntryTable.Moves True ([], b.items.get kind, c.db.docs) _ :=
    EntryTable.moves_sync source (fun _ => trivial) (b.items.get kind) c.db.docs c.files dir kind.extension
  have carries := EntryTable.carries_moves moved
  have whole := view_withBundles (Bundle.carries_items place carries) free
  obtain ⟨left, trades⟩ := carries.trades
  rw [List.nil_append, held_entries] at trades
  rw [Bundle.view_setItems place holding trades, seen] at whole
  rw [whole, BundleView.syncKind, Bundle.view, PerKind.get_map]
  rfl

/-- Bringing the items of one more kind in line comes first. -/
theorem BundleView.syncItems_cons {kind : ItemKind} {kinds : List ItemKind} (fresh : kind ∉ kinds) (fs : FileSystem)
    (bundleDir : String) (loc : Locality) (b : BundleView) :
    b.syncItems fs bundleDir loc (kind :: kinds) =
      (b.syncKind fs (Path.join bundleDir kind.dirName) loc kind).syncItems fs bundleDir loc kinds := by
  rw [syncItems, syncItems, syncKind]
  congr 1
  refine PerKind.ext_get fun other => ?_
  rw [PerKind.get_map, PerKind.get_map]
  by_cases same : other = kind
  · subst same
    rw [if_pos List.mem_cons_self, if_neg fresh, PerKind.get_set_self]
  · rw [PerKind.get_set_of_ne _ same]
    simp [same]

theorem row?_view (c : Catalog) (id : Nat) : c.view.bundles.row? id = (c.db.bundles.row? id).map (Bundle.view c.db.docs) :=
  EntryTable.row?_view c.db.bundles c.db.docs id

/-- What is seen when the items of a bundle are brought in line with its directory. -/
theorem view_syncItems (h : c.db.Holds spare) (source : loc.IsSource) (id : Nat) (bundleDir : String)
    {kinds : List ItemKind} (once : kinds.Nodup) :
    (c.syncItems bundleDir loc id kinds).view = c.view.syncItems bundleDir loc id kinds := by
  induction kinds generalizing c with
  | nil =>
    have same (b : BundleView) : b.syncItems c.files bundleDir loc [] = b := rfl
    have rows : c.view.bundles.modifyRow id (fun b => b.syncItems c.files bundleDir loc []) = c.view.bundles := by
      refine TableView.ext_row? fun other => ?_
      rw [TableView.row?_modifyRow, funext same, Option.map_id', ite_self]
    exact (congrArg (fun bundles => { c.view with bundles }) rows).symm
  | cons kind kinds ih =>
    obtain ⟨fresh, once⟩ := List.nodup_cons.1 once
    cases place : c.db.bundles.row? id with
    | none =>
      have absent : c.view.bundles.row? id = none := by rw [row?_view, place, Option.map_none]
      have same : c.syncItems bundleDir loc id (kind :: kinds) = c := by rw [syncItems, place]
      rw [same]
      refine congrArg (fun bundles => { c.view with bundles }) (TableView.ext_row? fun other => ?_)
      rw [TableView.row?_modifyRow]
      split
      · next here =>
        rw [← here, absent, Option.map_none]
        exact absent
      · rfl
    | some b =>
      have first := h.moves (moves_syncItems (W := fun _ => True) (N := True) spare c source (fun _ => .inl trivial) bundleDir
        id [kind])
      have seen := view_syncKind h source place (Path.join bundleDir kind.dirName) kind
      rw [syncItems, place] at first ⊢
      dsimp only at first ⊢
      rw [syncItems] at first
      rw [ih first once]
      refine (congrArg (·.syncItems bundleDir loc id kinds) seen).trans ?_
      have atPlace : c.view.bundles.row? id = some (b.view c.db.docs) := by
        rw [row?_view, place]
        rfl
      -- the row that was put is the one that is brought in line further
      refine congrArg (fun bundles => { c.view with bundles }) (TableView.ext_row? fun other => ?_)
      rw [TableView.row?_modifyRow, TableView.row?_modifyRow, TableView.row?_setRow]
      split
      · rename_i same
        rw [← same, atPlace, Option.map_some, Option.map_some, Option.map_some, BundleView.syncItems_cons fresh]
        rfl
      · rfl

/-! ## Bundles and their directories -/

theorem entryAt?_view (c : Catalog) (id : Nat) :
    c.view.bundles.entryAt? id = (c.db.bundles.entryAt? id).map (Entry.view c.db.docs) :=
  EntryTable.entryAt?_view c.db.bundles c.db.docs id

theorem factoryManifest?_view (c : Catalog) (id : Nat) :
    c.view.factoryManifest? id = (c.factoryManifest? id).map c.db.docs.get := by
  rw [CatalogView.factoryManifest?, factoryManifest?, entryAt?_view]
  cases c.db.bundles.entryAt? id with
  | none => rfl
  | some e =>
    rw [Option.map_some, Option.bind_some, Option.bind_some, Entry.view_locality]
    split <;> rfl

/-- A factory manifest is there. -/
theorem stored_of_factoryManifest? (h : c.db.Holds spare) (named : doc ∈ c.factoryManifest? id) :
    (c.db.docs.get doc).isVacant = false := by
  obtain ⟨id, e, found, factory⟩ := named_of_factoryManifest? named
  obtain ⟨b, place, rfl⟩ := EntryTable.row?_of_entryAt? found
  have among : Row.entry b ∈ c.db.entries :=
    List.mem_append_right _ (List.mem_flatMap.2 ⟨b, EntryTable.mem_of_row? place, List.mem_cons_self⟩)
  have held : doc ∈ c.db.entries.flatMap Entry.held := List.mem_flatMap.2 ⟨_, among, by simp [Entry.held, factory]⟩
  obtain ⟨left, holding⟩ := h
  exact holding.stored doc (List.mem_append_right _ (List.mem_append_right _ held))

/-- What is seen when the manifest of a bundle is brought in line with its directory. -/
theorem view_updateManifest (h : c.db.Holds spare) (source : loc.IsSource) (id : Nat) (bundleDir dirName : String) :
    ((c.updateManifest id bundleDir dirName loc).1.view, (c.updateManifest id bundleDir dirName loc).2) =
      c.view.updateManifest id bundleDir dirName loc := by
  have dropped := view_dropBundle h source id
  have current : (c.view.bundles.entryAt? id).bind (·.version loc) =
      ((c.db.bundles.entryAt? id).bind (·.docFor loc)).map c.db.docs.get := by
    rw [entryAt?_view, Option.bind_map, Option.map_bind]
    congr 1
    funext e
    exact Entry.version_view c.db.docs e loc
  rw [updateManifest, CatalogView.updateManifest, current, factoryManifest?_view, show c.view.files = c.files from rfl]
  dsimp only
  split
  · cases (c.db.bundles.entryAt? id).bind (·.docFor loc) with
    | none => rfl
    | some current =>
      dsimp only [Option.map_some]
      split
      · cases loaded : c.db.docs.load c.files (Path.join bundleDir manifestName) with
        | error fault =>
          rw [DocumentTable.load_eq_error loaded]
          exact congrArg (·, false) dropped
        | ok result =>
          obtain ⟨docs, fresh⟩ := result
          obtain ⟨d, read, content, same, holds⟩ := view_load h loaded
          have registered := view_registerManifest holds source id
          rw [same, show (c.withDocs docs).db.docs.get fresh = d from content] at registered
          rw [read]
          exact congrArg (·, true) registered
      · rfl
  · split
    · have holds := h.moves (moves_makeManifest (W := fun _ => True) (N := True) spare c bundleDir dirName
        (c.factoryManifest? id) fun _ => named_of_factoryManifest?)
      obtain ⟨seen, content⟩ := view_makeManifest h bundleDir dirName (c.factoryManifest? id)
        fun _ => stored_of_factoryManifest? h
      generalize c.makeManifest bundleDir dirName (c.factoryManifest? id) = made at holds seen content
      generalize c.view.makeManifest bundleDir dirName ((c.factoryManifest? id).map c.db.docs.get) = made' at seen content
      obtain ⟨c', manifest⟩ := made
      obtain ⟨v, d⟩ := made'
      have registered := view_registerManifest holds source id
      rw [seen, content] at registered
      exact congrArg (·, true) registered
    · exact congrArg (·, false) dropped

/-- What is seen when a bundle is brought in line with its directory. -/
theorem view_updateInDir (h : c.db.Holds spare) (source : loc.IsSource) (id : Nat) (bundleDir dirName : String)
    (mode : ScanMode) (read : Catalog × Bool)
    (reading : read = if mode = .rest then (c, true) else c.updateManifest id bundleDir dirName loc) :
    (if read.2 then read.1.syncBundleItems bundleDir loc id mode else read.1).view =
        c.view.updateInDir id bundleDir dirName loc mode ∧
      (if read.2 then read.1.syncBundleItems bundleDir loc id mode else read.1).db.Holds spare := by
  have after : read.1.db.Holds spare ∧
      (read.1.view, read.2) = if mode = .rest then (c.view, true) else c.view.updateManifest id bundleDir dirName loc := by
    rw [reading]
    split
    · exact ⟨h, rfl⟩
    · exact ⟨h.moves (moves_updateManifest (W := fun _ => True) (N := True) spare c source id bundleDir dirName),
        view_updateManifest h source id bundleDir dirName⟩
  obtain ⟨holds, seen⟩ := after
  rw [CatalogView.updateInDir, ← seen]
  dsimp only
  split
  · have once : (ItemKind.all.filter mode.covers).Nodup := List.Nodup.filter _ (by decide)
    exact ⟨view_syncItems holds source id bundleDir once, holds.moves (moves_syncItems (W := fun _ => True) (N := True) spare
      read.1 source (fun _ => .inl trivial) bundleDir id _)⟩
  · exact ⟨rfl, holds⟩

/-- What is seen when known bundles are brought in line with the directories below a root. -/
theorem view_updateKnown (h : c.db.Holds spare) (source : loc.IsSource) (root : String) (mode : ScanMode)
    (dirs : List String) (ids : List Nat) :
    ((c.updateKnown root loc mode dirs ids).1.view, (c.updateKnown root loc mode dirs ids).2) =
      c.view.updateKnown root loc mode dirs ids := by
  induction ids generalizing c dirs with
  | nil => rfl
  | cons id ids ih =>
    rw [updateKnown, CatalogView.updateKnown, row?_view]
    cases place : c.db.bundles.row? id with
    | none => exact ih h dirs
    | some b =>
      have flags : (b.view c.db.docs).entry.locality = b.entry.locality := rfl
      have dirName : (b.view c.db.docs).dirName = b.dirName := rfl
      have unsaved : (b.view c.db.docs).entry.hasUnsavedOwn = b.entry.hasUnsavedOwn c.db.docs :=
        Entry.hasUnsavedOwn_view c.db.docs b.entry
      simp only [Option.map_some, Option.filter_some, flags]
      cases contains : b.entry.locality.contains loc with
      | false => exact ih h dirs
      | true =>
        simp only [if_true, flags, dirName, unsaved]
        split
        · split
          · exact ih h _
          · obtain ⟨seen, holds⟩ := view_updateInDir h source id (Path.join root b.dirName) b.dirName mode _ rfl
            rw [← seen]
            exact ih holds _
        · split
          · exact ih h dirs
          · rw [← view_dropBundle h source]
            exact ih (h.moves (moves_dropBundle (W := fun _ => True) (N := True) spare c id loc)) dirs

theorem findDir?_view (c : Catalog) (dirName : String) : c.view.findDir? dirName = c.findDir? dirName := by
  show List.findIdx? _ (c.db.bundles.rows.map (Bundle.view c.db.docs)) = _
  rw [List.findIdx?_map]
  rfl

/-- What is seen of the manifest of a new bundle directory. -/
theorem view_newManifest? (h : c.db.Holds spare) (bundleDir dirName : String) (loc : Locality) (existing : Option Nat) :
    (c.newManifest? bundleDir dirName loc existing).map (fun made => (made.1.view, made.1.db.docs.get made.2)) =
      c.view.newManifest? bundleDir dirName loc existing := by
  rw [newManifest?, CatalogView.newManifest?, show c.view.files = c.files from rfl]
  split
  · cases loaded : c.db.docs.load c.files (Path.join bundleDir manifestName) with
    | error fault =>
      rw [DocumentTable.load_eq_error loaded]
      rfl
    | ok result =>
      obtain ⟨docs, fresh⟩ := result
      obtain ⟨d, read, content, same, -⟩ := view_load h loaded
      rw [read, Option.map_some, same, show (c.withDocs docs).db.docs.get fresh = d from content]
  · split
    · have factory : existing.bind c.view.factoryManifest? = (existing.bind c.factoryManifest?).map c.db.docs.get := by
        cases existing with
        | none => rfl
        | some id => exact factoryManifest?_view c id
      obtain ⟨seen, content⟩ := view_makeManifest h bundleDir dirName (existing.bind c.factoryManifest?) fun doc named => by
        obtain ⟨id, -, named⟩ := Option.bind_eq_some_iff.1 named
        exact stored_of_factoryManifest? h named
      rw [Option.map_some, factory, seen, content]
    · rfl

/-- What is seen when a manifest gets a new row. -/
theorem view_insertBundle (manifest : Nat) (loc : Locality) (dirName : String) :
    let inserted := c.db.bundles.insert manifest loc c.db.docs
    let seen := c.view.bundles.insert (c.db.docs.get manifest) loc
    let bundles : EntryTable Bundle := ⟨inserted.1.rows.modify inserted.2 fun b => { b with dirName }⟩
    (c.withDb { c.db with bundles }).view =
        { c.view with bundles := seen.1.modifyRow seen.2 fun b => { b with dirName } } ∧
      inserted.2 = seen.2 := by
  obtain ⟨rows, place⟩ := EntryTable.view_insert c.db.bundles c.db.docs manifest loc
  intro inserted seen bundles
  refine ⟨?_, place⟩
  have named : bundles.view c.db.docs = seen.1.modifyRow seen.2 fun b => { b with dirName } := by
    refine TableView.ext_row? fun other => ?_
    rw [TableView.row?_modifyRow, ← show inserted.2 = seen.2 from place,
      ← show inserted.1.view c.db.docs = seen.1 from rows, EntryTable.row?_view, EntryTable.row?_view]
    show (inserted.1.rows.modify inserted.2 fun b => { b with dirName })[other]?.map (Bundle.view c.db.docs) = _
    rw [List.getElem?_modify]
    show _ = if inserted.2 = other then ((inserted.1.rows[other]?).map (Bundle.view c.db.docs)).map _ else
      (inserted.1.rows[other]?).map (Bundle.view c.db.docs)
    split
    · cases inserted.1.rows[other]? <;> rfl
    · cases inserted.1.rows[other]? <;> rfl
  show ({ c.view with bundles := bundles.view c.db.docs } : CatalogView) = _
  rw [named]

/-- A manifest is given to a new row with a directory. -/
theorem moves_insertBundle {W : Document → Prop} {N : Prop} (spare : List Nat) (c : Catalog) (source : loc.IsSource)
    (manifest : Nat) (dirName : String) :
    let inserted := c.db.bundles.insert manifest loc c.db.docs
    Database.Moves W N (manifest :: spare, c.db)
      (spare, { c.db with bundles := ⟨inserted.1.rows.modify inserted.2 fun b => { b with dirName }⟩ }) :=
  .tail (.single (.bundles (.single (.insert source fun _ => .inl trivial)))) .place

/-- What is seen when the bundles in new directories are added. -/
theorem view_addBundles (h : c.db.Holds spare) (source : loc.IsSource) (root : String) (mode : ScanMode)
    (dirs : List String) : (c.addBundles root loc mode dirs).view = c.view.addBundles root loc mode dirs := by
  have once : (ItemKind.all.filter mode.covers).Nodup := List.Nodup.filter _ (by decide)
  induction dirs generalizing c with
  | nil => rfl
  | cons dirName dirs ih =>
    have installed (id : Nat) : (c.view.bundles.entryAt? id).any (·.locality.installed) =
        (c.db.bundles.entryAt? id).any (·.locality.installed) := by
      rw [entryAt?_view, Option.any_map]
      rfl
    rw [addBundles, CatalogView.addBundles, findDir?_view, ← view_newManifest? h]
    simp only [installed]
    split
    · exact ih h
    · cases made : c.newManifest? (Path.join root dirName) dirName loc (c.findDir? dirName) with
      | none => exact ih h
      | some result =>
        obtain ⟨c', manifest⟩ := result
        have holds := h.moves (moves_newManifest? (W := fun _ => True) (N := True) spare made)
        have synced {c : Catalog} (holds : c.db.Holds spare) (id : Nat) :=
          holds.moves (moves_syncItems (W := fun _ => True) (N := True) spare c source (fun _ => .inl trivial)
            (Path.join root dirName) id (ItemKind.all.filter mode.covers))
        simp only [Option.map_some, CatalogView.addBundle]
        cases existing : c.findDir? dirName with
        | some id =>
          have seen := view_registerManifest holds source id
          have registered := holds.moves (moves_registerManifest (W := fun _ => True) (N := True) spare c' source id manifest)
          dsimp only
          rw [← seen, ← view_syncItems registered source id _ once]
          exact ih (synced registered id)
        | none =>
          have seen := view_insertBundle (c := c') manifest loc dirName
          have inserted := holds.moves (moves_insertBundle (W := fun _ => True) (N := True) spare c' source manifest dirName)
          dsimp only at seen inserted ⊢
          rw [← seen.1, ← seen.2, ← view_syncItems inserted source _ _ once]
          exact ih (synced inserted _)

theorem view_updateBundles (h : c.db.Holds spare) (source : loc.IsSource) (root : String) (mode : ScanMode) :
    (c.updateBundles root loc mode).view = c.view.updateBundles root loc mode := by
  rw [updateBundles, CatalogView.updateBundles, show c.view.files = c.files from rfl]
  split
  · have size : c.view.bundles.size = c.db.bundles.size := EntryTable.size_view c.db.bundles c.db.docs
    rw [size, ← view_updateKnown h source]
    exact view_addBundles (h.moves (moves_updateKnown (W := fun _ => True) spare c source (.inl trivial) root mode _ _)) source
      root mode _
  · have free : c.db.Holds ([] ++ spare) := h
    obtain ⟨others, -, holding⟩ := free.exists_bundles
    have seen := EntryTable.view_dropVanished (EntryTable.lasting_named held_bundleEntries source) ⟨trivial, others, holding⟩
    have carries : Carries [] c.db.bundles.entries c.db.docs [] (c.db.bundles.dropVanished loc c.db.docs).1.entries
      (c.db.bundles.dropVanished loc c.db.docs).2 := EntryTable.carries_dropWhere _ loc _ _ _
    have whole := view_withBundles carries free
    rw [seen] at whole
    exact whole

theorem view_updateThemes (h : c.db.Holds spare) (source : loc.IsSource) (dir : String) :
    (c.updateThemes dir loc).view = c.view.updateThemes dir loc := by
  have free : c.db.Holds ([] ++ spare) := h
  obtain ⟨others, -, holding⟩ := free.exists_themes
  have seen := EntryTable.view_sync (EntryTable.lasting_named held_entries source) ⟨trivial, others, holding⟩ c.files dir
    ".tmTheme"
  have whole := view_withThemes (EntryTable.carries_moves (EntryTable.moves_sync (N := True) source (fun _ => trivial)
    c.db.themes c.db.docs c.files dir ".tmTheme")) free
  rw [seen] at whole
  exact whole

/-- What a scan of a catalog leaves to be seen is the scan of what is seen of the catalog. -/
theorem view_update (h : c.db.Holds spare) (mode : ScanMode) : (c.update mode).view = c.view.update mode := by
  have themed (c : Catalog) (holds : c.db.Holds spare) {loc : Locality} (source : loc.IsSource) (dir : String) :=
    holds.moves (moves_updateThemes (W := fun _ => True) (N := True) spare c source (.inl trivial) dir)
  have scanned (c : Catalog) (holds : c.db.Holds spare) {loc : Locality} (source : loc.IsSource) (root : String) :=
    holds.moves (moves_updateBundles (W := fun _ => True) (N := True) spare c source (.inl trivial) root mode)
  have themes : (if mode = .rest then c
      else (c.updateThemes c.config.pristineThemes { pristine := true }).updateThemes c.config.ownThemes
        { own := true }).db.Holds spare := by
    split
    · exact h
    · exact themed _ (themed c h .pristine _) .own _
  have seen : (if mode = .rest then c
      else (c.updateThemes c.config.pristineThemes { pristine := true }).updateThemes c.config.ownThemes
        { own := true }).view = if mode = .rest then c.view
      else (c.view.updateThemes c.view.config.pristineThemes { pristine := true }).updateThemes c.view.config.ownThemes
        { own := true } := by
    split
    · rfl
    · rw [view_updateThemes (themed c h .pristine _) .own, view_updateThemes h .pristine]
      rfl
  rw [update, CatalogView.update, ← seen]
  generalize (if mode = .rest then c
      else (c.updateThemes c.config.pristineThemes { pristine := true }).updateThemes c.config.ownThemes
        { own := true }) = c₁ at themes
  have installed := scanned c₁ themes .installed c₁.config.installedBundles
  rw [show c₁.view.config = c₁.config from rfl, ← view_updateBundles themes .installed]
  generalize c₁.updateBundles c₁.config.installedBundles { installed := true } mode = c₂ at installed
  have pristine := scanned c₂ installed .pristine c₂.config.pristineBundles
  rw [show c₂.view.config = c₂.config from rfl, ← view_updateBundles installed .pristine]
  generalize c₂.updateBundles c₂.config.pristineBundles { pristine := true } mode = c₃ at pristine
  rw [show c₃.view.config = c₃.config from rfl, ← view_updateBundles pristine .own]
  split <;> rfl

end EditorBundles.Catalog
