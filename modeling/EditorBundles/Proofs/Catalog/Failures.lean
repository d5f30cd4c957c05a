import EditorBundles.Proofs.Catalog.BundleAddresses
import EditorBundles.Proofs.Catalog.CachedNames
import EditorBundles.Proofs.Catalog.NamesApart
import EditorBundles.Proofs.Catalog.Outcomes

/-!
# Operations that fail

Saving and deleting choose names and drop versions before they work on the files, and keep what they have done so far
when a file cannot be written or deleted. What is left changed is confined to one bundle and its items. Nothing is left
changed by an operation that has nothing to choose and nothing to drop.
-/

namespace EditorBundles.PropertyList
set_option autoImplicit false

/-- A document that is not given in a trade is there afterwards as it was. -/
theorem DocumentTable.Trades.kept {t u : DocumentTable} {before after others : List Nat} {doc : Nat}
    (trades : t.Trades u before after) (holding : t.Holding (before ++ others)) (live : t.isLive doc = true)
    (apart : doc ∉ before) : u.isLive doc = true ∧ u.get doc = t.get doc := by
  obtain ⟨holding', kept⟩ := trades others holding
  have member : doc ∈ others := (List.mem_append.1 (holding.mem_iff.2 live)).resolve_left apart
  exact ⟨holding'.mem_iff.1 (List.mem_append_right _ member), kept doc member⟩

end EditorBundles.PropertyList

namespace EditorBundles.Catalog
set_option autoImplicit false
open PropertyList

variable {c c' c'' : Catalog} {kind : ItemKind} {owner id doc : Nat} {bundle : Option Nat} {docs : List Nat} {fault : Fault}

/-! ## One bundle and its documents -/

/-- The bundle that an operation saves or deletes, or whose items it does. -/
def Operation.bundle? : Operation → Option Nat
  | .saveBundle id => some id
  | .deleteBundle id => some id
  | .saveItem _ owner _ => some owner
  | .deleteItem _ owner _ => some owner
  | _ => none

/-- The documents that a bundle and its items name. -/
def documentsOf (c : Catalog) (bundle : Option Nat) : List Nat :=
  ((bundle.bind c.db.bundles.row?).map fun b => (EntryTable.entriesOf b).flatMap Entry.held).getD []

/-- Nothing is changed in the tables but the row of one bundle and some documents, and what was noted as changed before
still is. -/
structure Confined (bundle : Option Nat) (docs : List Nat) (c c' : Catalog) : Prop where
  dirty : c.dirty = true → c'.dirty = true
  themes : c'.db.themes = c.db.themes
  syntaxes : c'.db.syntaxes = c.db.syntaxes
  rows : ∀ other, bundle ≠ some other → c'.db.bundles.row? other = c.db.bundles.row? other
  docs : ∀ doc d, c.liveDoc? doc = some d → doc ∉ docs → c'.liveDoc? doc = some d

theorem Confined.refl (bundle : Option Nat) (docs : List Nat) (c : Catalog) : Confined bundle docs c c :=
  ⟨id, rfl, rfl, fun _ _ => rfl, fun _ _ live _ => live⟩

theorem Confined.trans (first : Confined bundle docs c c') (second : Confined bundle docs c' c'') :
    Confined bundle docs c c'' where
  dirty := second.dirty ∘ first.dirty
  themes := second.themes.trans first.themes
  syntaxes := second.syntaxes.trans first.syntaxes
  rows other apart := (second.rows other apart).trans (first.rows other apart)
  docs doc d live apart := second.docs doc d (first.docs doc d live apart) apart

/-- The tables are the same, whatever becomes of the files. -/
theorem confined_of_db (same : c'.db = c.db) (dirty : c.dirty = true → c'.dirty = true) : Confined bundle docs c c' := by
  refine ⟨dirty, by rw [same], by rw [same], fun _ _ => by rw [same], fun doc d live _ => ?_⟩
  rw [liveDoc?, same]
  exact live

theorem confined_modifyBundle (id : Nat) (change : Bundle → Bundle) (docs : List Nat) (c : Catalog) :
    Confined (some id) docs c (c.modifyBundle id change) := by
  refine ⟨fun h => h, rfl, rfl, fun other apart => ?_, fun _ _ live _ => live⟩
  have different : id ≠ other := fun same => apart (congrArg some same)
  simp [modifyBundle, withDb, EntryTable.row?, different]

/-- A document is replaced that may be. -/
theorem confined_setDoc {d : Document} (member : doc ∈ docs) : Confined bundle docs c (c.withDocs (c.db.docs.set doc d)) := by
  refine ⟨id, rfl, rfl, fun _ _ => rfl, fun other e live apart => ?_⟩
  have different : other ≠ doc := fun same => apart (same ▸ member)
  obtain ⟨there, rfl⟩ := liveDoc?_eq_some.1 live
  have same := DocumentTable.get_set_of_ne c.db.docs different d
  refine liveDoc?_eq_some.2 ⟨?_, same⟩
  rw [DocumentTable.isLive] at there ⊢
  change (decide (other < (c.db.docs.set doc d).size) && !((c.db.docs.set doc d).get other).isVacant) = true
  rw [same, DocumentTable.size_set]
  exact there

theorem confined_nameDoc (member : doc ∈ docs) (choose : String → String) :
    Confined bundle docs c (c.nameDoc doc choose) := by
  rw [nameDoc]
  split
  · exact confined_setDoc member
  · exact .refl bundle docs c

theorem confined_saveDoc (member : doc ∈ docs) (dir : String) : Confined bundle docs c (c.saveDoc doc dir).1 := by
  rw [saveDoc, DocumentTable.save]
  generalize (c.db.docs.get doc).save c.files dir = ending
  obtain ⟨files, result⟩ := ending
  cases result with
  | error fault => exact confined_of_db rfl id
  | ok saved => exact (confined_setDoc member).trans (confined_of_db rfl id)

theorem mem_documentsOf {b : Bundle} {e : Entry} (found : c.db.bundles.row? id = some b) (inside : e ∈ EntryTable.entriesOf b)
    (named : savable? e = some doc) : doc ∈ c.documentsOf (some id) := by
  rw [documentsOf, Option.bind_some, found]
  exact List.mem_flatMap.2 ⟨e, inside, mem_held_of_savable? named⟩

theorem mem_documentsOf_item {e : Entry} (item : c.item? kind owner id = some e) (named : savable? e = some doc) :
    doc ∈ c.documentsOf (some owner) := by
  obtain ⟨table, found, there⟩ := Option.bind_eq_some_iff.1 item
  obtain ⟨b, place, rfl⟩ := Option.map_eq_some_iff.1 found
  refine mem_documentsOf place (List.mem_cons_of_mem _ ?_) named
  exact List.mem_flatMap.2 ⟨kind, ItemKind.mem_all kind, EntryTable.mem_entries there⟩

theorem SavesBundle.confined {result : Except Fault Unit} (saves : c.SavesBundle id c' result) :
    Confined (some id) (c.documentsOf (some id)) c c' := by
  have chosen (dirName : String) (files : FileSystem) :
      Confined (some id) (c.documentsOf (some id)) c (c.placed id dirName files) :=
    (confined_modifyBundle id _ _ c).trans (confined_of_db rfl fun h => h)
  have tried {b : Bundle} {own : Nat} {dirName : String} (saving : c.Saving id b own dirName) (files : FileSystem) :
      Confined (some id) (c.documentsOf (some id)) c
        (((c.placed id dirName files).nameDoc own fun _ => manifestName).saveDoc own (c.ownDir dirName)).1 := by
    have member := mem_documentsOf saving.found List.mem_cons_self saving.named
    exact ((chosen dirName files).trans (confined_nameDoc member _)).trans (confined_saveDoc member _)
  cases saves with
  | refused => exact .refl _ _ c
  | stuck saving made => exact chosen _ _
  | @unwritten _ _ _ files _ _ saving made written =>
    have left := tried saving files
    rwa [written] at left
  | @saved _ _ _ files _ saving made written =>
    have left := tried saving files
    rw [written] at left
    exact (left.trans (confined_modifyBundle id _ _ _)).trans (confined_of_db rfl fun _ => rfl)

theorem Readies.confined {result : Except Fault Unit} (readies : c.Readies owner c' result) :
    Confined (some owner) (c.documentsOf (some owner)) c c' := by
  cases readies with
  | there => exact .refl _ _ c
  | saved _ _ saves => exact saves.confined

theorem SavesItem.confined {result : Except Fault Unit} (saves : c.SavesItem kind owner id c' result) :
    Confined (some owner) (c.documentsOf (some owner)) c c' := by
  have tried {e : Entry} {own : Nat} {c₁ : Catalog} (item : c.item? kind owner id = some e) (named : savable? e = some own)
      (readied : c.Readies owner c₁ (.ok ())) (dir : String) :
      Confined (some owner) (c.documentsOf (some owner)) c ((c₁.namedItem kind own dir).saveDoc own dir).1 := by
    have member := mem_documentsOf_item item named
    exact (readied.confined.trans (confined_nameDoc member _)).trans (confined_saveDoc member dir)
  cases saves with
  | refused => exact .refl _ _ c
  | homeless _ _ readied => exact readied.confined
  | @unwritten _ _ dirName c₁ _ _ item named readied _ written =>
    have left := tried item named readied (c₁.ownItemDir kind dirName)
    rwa [written] at left
  | @saved _ _ dirName c₁ _ item named readied _ written =>
    have left := tried item named readied (c₁.ownItemDir kind dirName)
    rw [written] at left
    exact (left.trans (confined_modifyBundle owner _ _ _)).trans (confined_of_db rfl fun _ => rfl)

/-- A bundle that loses its installed version trades its own documents only. -/
theorem confined_uninstalled (owns : c.db.Owns []) {b released : Bundle} {docs : DocumentTable}
    (dropping : c.Dropping id b released docs) (pristine : b.entry.locality.pristine = false) :
    Confined (some id) (c.documentsOf (some id)) c (c.uninstalled id b released docs) := by
  refine ⟨fun h => h, rfl, rfl, fun other apart => ?_, fun doc d live apart => ?_⟩
  · exact EntryTable.row?_setRow_of_ne _ (fun same => apart (congrArg some same.symm)) _
  · obtain ⟨there, rfl⟩ := liveDoc?_eq_some.1 live
    obtain ⟨left, trades⟩ := (Bundle.carries_uninstalledRow pristine dropping.release).trades
    obtain ⟨rest, split, -⟩ := EntryTable.entries_setRow dropping.found
    obtain ⟨spare, holding⟩ := owns.holding
    have mine : c.documentsOf (some id) = [] ++ (EntryTable.entriesOf b).flatMap Entry.held := by
      rw [documentsOf, Option.bind_some, dropping.found]
      rfl
    have parts : (spare ++ ([] ++ c.db.entries.flatMap Entry.held)).Perm
        (([] ++ (EntryTable.entriesOf b).flatMap Entry.held) ++
          (spare ++ (c.db.themes.entries.flatMap Entry.held ++ rest.flatMap Entry.held))) := by
      have bundles := split.flatMap_right Entry.held
      rw [List.flatMap_append] at bundles
      rw [Database.entries, List.flatMap_append, List.nil_append, List.nil_append]
      refine ((bundles.append_left _).append_left _).trans ?_
      exact ((List.perm_append_comm_assoc _ _ _).append_left _).trans (List.perm_append_comm_assoc _ _ _)
    exact liveDoc?_eq_some.2 (trades.kept (holding.perm parts) there (mine ▸ apart))

/-! ## Failures -/

/-- An operation of the user's that saves or deletes fails, and leaves a catalog behind. -/
inductive Fails (c : Catalog) : Operation → Catalog → Prop where
  | saveBundle {id : Nat} {c' : Catalog} {fault : Fault} (ran : c.saveBundle? id = some (c', .error fault)) :
      Fails c (.saveBundle id) c'
  | deleteBundle {id : Nat} {c' : Catalog} {fault : Fault} (ran : c.deleteBundle? id = some (c', .error fault)) :
      Fails c (.deleteBundle id) c'
  | saveItem {kind : ItemKind} {owner id : Nat} {c' : Catalog} {fault : Fault}
      (ran : c.saveItem? kind owner id = some (c', .error fault)) : Fails c (.saveItem kind owner id) c'
  | deleteItem {kind : ItemKind} {owner id : Nat} {c' : Catalog} {fault : Fault}
      (ran : c.deleteItem? kind owner id = some (c', .error fault)) : Fails c (.deleteItem kind owner id) c'
  | saveTheme {id : Nat} {c' : Catalog} {fault : Fault} (ran : c.saveTheme? id = some (c', .error fault)) :
      Fails c (.saveTheme id) c'
  | deleteTheme {id : Nat} {c' : Catalog} {fault : Fault} (ran : c.deleteTheme? id = some (c', .error fault)) :
      Fails c (.deleteTheme id) c'

/-- The own version of an entry has a file name by now, if there is one. -/
def Named (c : Catalog) (e : Entry) : Prop := ∀ doc, savable? e = some doc → (c.db.docs.get doc).filename ≠ ""

/-- The entry has no version that is dropped when its bundle is deleted. -/
def Undropped (e : Entry) : Prop := e.locality.own = false ∧ e.locality.installed = false

/-- There is nothing that an operation chooses or drops before it works on the files. -/
def Ready (c : Catalog) : Operation → Prop
  | .saveBundle id => ∀ b, c.db.bundles.row? id = some b → b.dirName ≠ "" ∧ c.Named b.entry
  | .saveItem kind owner id => (∀ b, c.db.bundles.row? owner = some b → b.dirName ≠ "") ∧
      ∀ e, c.item? kind owner id = some e → c.Named e
  | .deleteBundle id => ∀ b, c.db.bundles.row? id = some b → b.entry.locality.installed = false ∧
      ∀ kind, ∀ e ∈ (b.items.get kind).rows, Undropped e
  | _ => True

/-- A row that is put where it is changes nothing. -/
theorem EntryTable.setRow_idle {ρ : Type} {t : EntryTable ρ} {row : ρ} (found : t.row? id = some row) :
    t.setRow id row = t := by
  obtain ⟨bound, rfl⟩ := List.getElem?_eq_some_iff.1 found
  exact congrArg EntryTable.mk (List.set_getElem_self bound)

/-- Changing a bundle into what it is changes nothing. -/
theorem modifyBundle_idle {b : Bundle} (found : c.db.bundles.row? id = some b) {change : Bundle → Bundle}
    (same : change b = b) : c.modifyBundle id change = c := by
  rw [modifyBundle, EntryTable.modify_eq found, same, EntryTable.setRow_idle found]
  rfl

/-- A document that cannot be written stays as it is. -/
theorem eq_of_saveDoc_error {dir : String} (failed : c.saveDoc doc dir = (c', .error fault)) :
    c' = { c with files := c'.files } := by
  rw [saveDoc, DocumentTable.save] at failed
  generalize (c.db.docs.get doc).save c.files dir = ending at failed
  obtain ⟨files, result⟩ := ending
  cases result with
  | error fault =>
    obtain ⟨rfl, -⟩ := Prod.mk.inj failed
    rfl
  | ok saved => cases failed

theorem SavesBundle.unchanged (saves : c.SavesBundle id c' (.error fault)) (ready : c.Ready (.saveBundle id)) :
    c' = { c with files := c'.files } := by
  have idle {b : Bundle} {own : Nat} {dirName : String} (saving : c.Saving id b own dirName) (files : FileSystem) :
      c.placed id dirName files = { c with files } := by
    have same := saving.kept (ready b saving.found).1
    rw [placed, modifyBundle_idle saving.found (by rw [same])]
  cases saves with
  | refused => rfl
  | stuck saving made =>
    rw [idle saving]
  | unwritten saving made written =>
    have named := (ready _ saving.found).2 _ saving.named
    rw [idle saving, nameDoc, if_neg (mt String.isEmpty_iff.1 named)] at written
    have same := eq_of_saveDoc_error written
    exact same

theorem SavesItem.unchanged (saves : c.SavesItem kind owner id c' (.error fault))
    (ready : c.Ready (.saveItem kind owner id)) : c' = { c with files := c'.files } := by
  obtain ⟨home, named⟩ := ready
  cases saves with
  | refused => rfl
  | homeless item owned readied =>
    cases readied with
    | saved found unplaced => exact absurd unplaced (home _ found)
  | unwritten item owned readied stands written =>
    cases readied with
    | saved found unplaced => exact absurd unplaced (home _ found)
    | there =>
      rw [namedItem, nameDoc, if_neg (mt String.isEmpty_iff.1 (named _ item _ owned))] at written
      exact eq_of_saveDoc_error written

/-- Nothing is dropped from rows that have nothing to drop. -/
theorem EntryTable.dropAll_idle {t : EntryTable Entry} {loc : Locality}
    (apart : ∀ e ∈ t.rows, e.locality.meets loc = false) (docs : DocumentTable) : t.dropAll loc docs = (t, docs) := by
  have idle (ids : List Nat) : dropWhere (fun e _ => e.locality.meets loc) loc t docs ids = (t, docs) := by
    induction ids with
    | nil => rfl
    | cons id ids ih =>
      rw [dropWhere, if_neg, ih]
      intro some_
      obtain ⟨e, found, meets⟩ := (Option.any_eq_true _ _).1 some_
      obtain ⟨row, place, rfl⟩ := row?_of_entryAt? found
      exact Bool.noConfusion (meets.symm.trans (apart row (mem_of_row? place)))
  exact idle _

theorem Bundle.dropItems_idle {items : PerKind (EntryTable Entry)} {loc : Locality}
    (apart : ∀ kind, ∀ e ∈ (items.get kind).rows, e.locality.meets loc = false) (docs : DocumentTable)
    (kinds : List ItemKind) : dropItems loc items docs kinds = (items, docs) := by
  induction kinds with
  | nil => rfl
  | cons kind kinds ih =>
    rw [dropItems, EntryTable.dropAll_idle (apart kind)]
    dsimp only
    rw [PerKind.set_get, ih]

theorem DeletesBundle.unchanged (deletes : c.DeletesBundle id c' (.error fault)) (ready : c.Ready (.deleteBundle id)) :
    c' = { c with files := c'.files } := by
  cases deletes with
  | @stuck b released docs _ dropping _ _ _ =>
    obtain ⟨installed, undropped⟩ := ready b dropping.found
    have unmet (kind : ItemKind) (e : Entry) (item : e ∈ (b.items.get kind).rows) :
        e.locality.meets { own := true, installed := true } = false := by
      obtain ⟨own, installed⟩ := undropped kind e item
      simp [Locality.meets, own, installed]
    have same : (b, c.db.docs) = (released, docs) := by
      have idle := Bundle.dropItems_idle unmet c.db.docs ItemKind.all
      rw [← dropping.release]
      show (b, c.db.docs) = ({ b with items := (Bundle.dropItems _ b.items c.db.docs ItemKind.all).1 },
        (Bundle.dropItems _ b.items c.db.docs ItemKind.all).2)
      rw [idle]
    obtain ⟨rfl, rfl⟩ := Prod.mk.inj same
    have entry : b.entry.uninstalled = b.entry := if_neg (Bool.eq_false_iff.1 installed)
    rw [uninstalled, entry, installed]
    show c.withDb { c.db with bundles := c.db.bundles.setRow id b } = _
    rw [EntryTable.setRow_idle dropping.found]
    rfl

/-- Where saving or deleting fails, nothing is changed but one bundle, its items and the documents of these. Nothing at all
but files is changed if there was nothing to choose and nothing to drop, as there never is for themes and for items that
are deleted. -/
theorem confined_of_fails {allowed : Catalog → Operation → Prop} (reached : Reachable allowed c) {op : Operation}
    (fails : c.Fails op c') :
    Confined op.bundle? (c.documentsOf op.bundle?) c c' ∧ (c.Ready op → c' = { c with files := c'.files }) := by
  cases fails with
  | saveBundle ran =>
    have saves := savesBundle_of_saveBundle? ran
    exact ⟨saves.confined, saves.unchanged⟩
  | saveItem ran =>
    have saves := savesItem_of_saveItem? ran
    exact ⟨saves.confined, saves.unchanged⟩
  | deleteBundle ran =>
    have deletes := deletesBundle_of_deleteBundle? ran
    refine ⟨?_, deletes.unchanged⟩
    cases deletes with
    | stuck dropping pristine => exact confined_uninstalled (owns_of_reachable reached) dropping pristine
  | deleteItem ran =>
    obtain ⟨b, -, ran⟩ := Option.bind_eq_some_iff.1 ran
    obtain ⟨e, -, ran⟩ := Option.bind_eq_some_iff.1 ran
    split at ran <;> cases ran
    exact ⟨.refl _ _ c, fun _ => rfl⟩
  | saveTheme ran =>
    obtain ⟨e, -, ran⟩ := Option.bind_eq_some_iff.1 ran
    split at ran
    · cases ran
      exact ⟨.refl _ _ c, fun _ => rfl⟩
    · dsimp only at ran
      split at ran
      · rename_i failed
        obtain ⟨rfl, -⟩ := Prod.mk.inj (Option.some.inj ran)
        have same := eq_of_saveDoc_error failed
        exact ⟨confined_of_db (by rw [same]) (by rw [same]; exact id), fun _ => same⟩
      · cases ran
  | deleteTheme ran =>
    obtain ⟨e, -, ran⟩ := Option.bind_eq_some_iff.1 ran
    split at ran <;> cases ran
    exact ⟨.refl _ _ c, fun _ => rfl⟩

/-! ## A bundle that cannot be saved -/

/-- A file system with a file where the directories of the user's own bundles would be. -/
def blockedFiles : FileSystem := { nodes := [([], .directory 0o755 0), (["Bundles"], .file .empty 0o644 0)] }

/-- No directory can be made there. -/
theorem exists_createDirectories_blocked {path : String} {rest : List String} (parts : Path.parts path = "Bundles" :: rest) :
    ∃ fault, blockedFiles.createDirectories path = (blockedFiles, .error fault) := by
  have present : ¬path.isEmpty = true := by
    intro none_
    rw [String.isEmpty_iff.1 none_, Path.parts_empty] at parts
    cases parts
  rw [FileSystem.createDirectories, if_neg present]
  split
  · exact ⟨_, rfl⟩
  · split
    · exact ⟨_, rfl⟩
    · rw [parts, FileSystem.makeDirectories, if_neg isFileName_bundles.down.2, if_neg (Nat.not_lt.2 isFileName_bundles.short)]
      exact ⟨_, rfl⟩

/-- No path leads on from the file. -/
theorem exists_resolve_blocked {path next : String} {rest : List String} (parts : Path.parts path = "Bundles" :: next :: rest) :
    ∃ fault, blockedFiles.resolve path = .error fault := by
  rw [FileSystem.resolve]
  split
  · exact ⟨_, rfl⟩
  · split
    · exact ⟨_, rfl⟩
    · rw [parts]
      exact ⟨.notADirectory, rfl⟩

/-- The first candidate is free there. -/
theorem freeName_blocked {dir name extension : String} {rest : List String} (parts : Path.parts dir = "Bundles" :: rest)
    (h : IsFileName (legalName name ++ extension)) : freeName blockedFiles dir name extension = legalName name ++ extension := by
  obtain ⟨next, rest, inside⟩ : ∃ next rest,
      Path.parts (Path.join dir (legalName name ++ extension)) = "Bundles" :: next :: rest := by
    rw [h.parts_join, parts]
    cases rest <;> exact ⟨_, _, rfl⟩
  obtain ⟨fault, resolved⟩ := exists_resolve_blocked inside
  refine freeName_of_free ?_
  rw [FileSystem.pathExists, FileSystem.locate, resolved]
  rfl

/-- No document can be saved there. -/
theorem exists_saveDoc_blocked {dir next : String} {rest : List String} (files : c.files = blockedFiles)
    (parts : Path.parts dir = "Bundles" :: next :: rest) (single : '/' ∉ (c.db.docs.get doc).filename.toList) :
    ∃ fault, c.saveDoc doc dir = (c, .error fault) := by
  have inside : Path.parts (Path.join dir (c.db.docs.get doc).filename) =
      "Bundles" :: next :: (rest ++ Path.parts (c.db.docs.get doc).filename) := by
    rw [Path.parts_join _ (Path.isAbsolute_single single), parts]
    rfl
  obtain ⟨unread, resolved⟩ := exists_resolve_blocked inside
  obtain ⟨unmade, made⟩ := exists_createDirectories_blocked parts
  obtain ⟨fault, failed⟩ : ∃ fault, (c.db.docs.get doc).save c.files dir = (blockedFiles, .error fault) := by
    rw [files, Document.save]
    dsimp only
    split
    · exact ⟨_, rfl⟩
    · rw [if_neg (by simp [FileSystem.holds, FileSystem.read, FileSystem.locate, resolved]), made]
      exact ⟨_, rfl⟩
  refine ⟨.document fault, ?_⟩
  rw [saveDoc, DocumentTable.save, failed]
  show ({ c with files := blockedFiles }, _) = _
  rw [← files]

theorem regular_blockedFiles : blockedFiles.Regular where
  single := by decide
  named := by simp [blockedFiles, Entries.keys, isFileName_bundles]

theorem ownBundles_app : appConfig.ownBundles = "Bundles" := isFileName_bundles.join_empty

/-- A catalog over such files whose first bundle is the user's own and named after its directory. -/
structure Blocked (c : Catalog) (b : Bundle) : Prop where
  files : c.files = blockedFiles
  home : c.config = appConfig
  row : c.db.bundles.row? 0 = some b
  owned : savable? b.entry = some 0
  single : '/' ∉ b.dirName.toList
  live : c.db.docs.isLive 0 = true
  named : (c.db.docs.get 0).filename ≠ ""

/-- Saving that bundle fails, and it has a directory from then on. -/
theorem Blocked.saveBundle {b : Bundle} (blocked : c.Blocked b) : ∃ c' b', c.Fails (.saveBundle 0) c' ∧ c'.Blocked b' ∧
    b'.dirName ≠ "" ∧ c'.dirty = c.dirty ∧ c'.db.docs = c.db.docs := by
  obtain ⟨c', result, -, ran, -⟩ := exists_saveBundle? blocked.row blocked.owned (liveDoc?_eq_some.2 ⟨blocked.live, rfl⟩)
  have stuck {b₀ : Bundle} {own : Nat} {dirName : String} (saving : c.Saving 0 b₀ own dirName) :
      (dirName ≠ "" ∧ '/' ∉ dirName.toList) ∧
        ∃ fault, c.files.createDirectories (c.ownDir dirName) = (blockedFiles, .error fault) := by
    obtain rfl := Option.some.inj (blocked.row.symm.trans saving.found)
    have name : dirName ≠ "" ∧ '/' ∉ dirName.toList := by
      by_cases placed : b.dirName = ""
      · obtain ⟨n, chosen, -⟩ := freeNameFrom_cases c.files c.config.ownBundles
          (legalName (((c.db.docs.get own).rootString? "name").getD "")) ".tmbundle" (c.files.nodes.length + 2) 0
        rw [saving.chosen placed]
        refine ⟨freeName_ne_empty _ _ _ isExtension_bundle, ?_⟩
        rw [freeName, chosen]
        exact isExtension_bundle.slash_not_mem_candidate _ n
      · rw [saving.kept placed]
        exact ⟨placed, blocked.single⟩
    rw [ownDir, blocked.home, ownBundles_app, blocked.files]
    refine ⟨name, exists_createDirectories_blocked (?_ : _ = "Bundles" :: Path.parts dirName)⟩
    rw [Path.parts_join _ (Path.isAbsolute_single name.2), isFileName_bundles.parts]
    rfl
  cases savesBundle_of_saveBundle? ran with
  | refused found none_ =>
    obtain rfl := Option.some.inj (blocked.row.symm.trans found)
    cases blocked.owned.symm.trans none_
  | @stuck b₀ own dirName _ _ saving made =>
    obtain ⟨⟨present, single⟩, fault, made'⟩ := stuck saving
    obtain ⟨rfl, -⟩ := Prod.mk.inj (made.symm.trans made')
    refine ⟨_, { b with dirName }, .saveBundle ran, ?_, present, rfl, rfl⟩
    refine ⟨rfl, blocked.home, ?_, blocked.owned, single, blocked.live, blocked.named⟩
    show (⟨c.db.bundles.rows.modify 0 _⟩ : EntryTable Bundle).row? 0 = _
    rw [EntryTable.modify_eq blocked.row, EntryTable.row?_setRow_self (EntryTable.lt_of_row? blocked.row)]
  | unwritten saving made =>
    obtain ⟨-, fault, made'⟩ := stuck saving
    cases made.symm.trans made'
  | saved saving made =>
    obtain ⟨-, fault, made'⟩ := stuck saving
    cases made.symm.trans made'

/-- An editor opens a catalog where there are no files. -/
theorem app_openAt (identities : Identities) : openingTables appConfig {} = {} ∧
    ∃ c files, openAt appConfig {} identities = (files, .ok c) ∧ c.config = appConfig ∧ Bare c := by
  obtain ⟨empty, start, config, bare, opens⟩ := @openAt_bare appConfig rfl rfl identities
  have same : (start.update .languages).config = appConfig :=
    (config_update (bare.tables ▸ Database.keeping_empty) .languages).trans config
  exact ⟨empty, _, _, opens, same, (bare.update .languages).tables, (bare.update .languages).files⟩

/-- A new bundle of a catalog whose files are such then. -/
theorem blocked_newBundle (bare : Bare c) (same : c.config = appConfig) : ∃ b : Bundle,
    Blocked { (c.newBundle "A").1 with files := blockedFiles } b ∧ b.dirName = "" := by
  obtain ⟨config, db, files, identities, dirty, lastFlush, pending, complete⟩ := c
  obtain ⟨rfl, rfl⟩ : config = appConfig ∧ db = {} := ⟨same, bare.tables⟩
  exact ⟨_, ⟨rfl, rfl, rfl, rfl, List.not_mem_nil, rfl, (by decide : manifestName ≠ "")⟩, rfl⟩

theorem exists_blocked : ∃ c b, Reachable (fun _ _ => True) c ∧ c.Blocked b ∧ b.dirName = "" := by
  obtain ⟨empty, c, files, opens, same, bare⟩ := app_openAt { nth := fun _ => "U" }
  obtain ⟨b, blocked, unplaced⟩ := blocked_newBundle bare same
  have opened : Reachable (fun _ _ => True) c := .opened empty opens
  exact ⟨_, b, (opened.step (.newBundle "A") rfl).step (.changeFiles blockedFiles) rfl, blocked, unplaced⟩

/-- A new bundle was given a directory when it could not be saved, and saving it fails again and changes nothing. -/
theorem confined_of_fails_again : ∃ c c', Reachable (fun _ _ => True) c ∧ c.Fails (.saveBundle 0) c' ∧
    c.Ready (.saveBundle 0) ∧ c' = { c with files := c'.files } := by
  obtain ⟨c, b, reached, blocked, -⟩ := exists_blocked
  obtain ⟨c₁, b₁, ⟨ran⟩, blocked₁, placed, -⟩ := blocked.saveBundle
  have reached₁ := reached.step (.saveBundle 0) (congrArg (Option.map Prod.fst) ran)
  obtain ⟨c₂, -, fails, -⟩ := blocked₁.saveBundle
  have ready : c₁.Ready (.saveBundle 0) := by
    intro b' found
    obtain rfl := Option.some.inj (blocked₁.row.symm.trans found)
    refine ⟨placed, fun doc owned => ?_⟩
    obtain rfl := Option.some.inj (blocked₁.owned.symm.trans owned)
    exact blocked₁.named
  exact ⟨c₁, c₂, reached₁, fails, ready, (confined_of_fails reached₁ fails).2 ready⟩

/-- Saving a new bundle fails, and its row is not what it was before. -/
theorem bundles_ne_of_fails : ∃ c c', Reachable (fun _ _ => True) c ∧ c.Fails (.saveBundle 0) c' ∧
    c'.db.bundles ≠ c.db.bundles := by
  obtain ⟨c, b, reached, blocked, unplaced⟩ := exists_blocked
  obtain ⟨c', b', fails, blocked', placed, -⟩ := blocked.saveBundle
  refine ⟨c, c', reached, fails, fun same => placed ?_⟩
  obtain rfl := Option.some.inj (blocked.row.symm.trans (same ▸ blocked'.row))
  exact unplaced

end EditorBundles.Catalog
