import EditorBundles.Catalog.Export
import EditorBundles.Proofs.Catalog.ScanKeeping

/-!
# Operations on bundles and their documents

Each operation on a bundle or on an item passes the documents on. An operation that fails on the way leaves the
tables sound, too. One operation needs care: a hidden bundle is restored without regard to a version of the
user's own that it may have.
-/

namespace EditorBundles.Catalog
set_option autoImplicit false
open PropertyList
open EntryTable (Passes)

variable {c c' : Catalog} {spare : List Nat} {id owner : Nat} {kind : ItemKind}

/-! ## Bundles -/

theorem newBundle_keeps (h : c.db.Keeping spare) (name : String) : (c.newBundle name).1.db.Keeping spare := by
  obtain ⟨docs, same, stored⟩ := c.createDoc_db name (some manifestName)
  rw [newBundle]
  generalize c.createDoc name (some manifestName) = result at same stored
  obtain ⟨c', manifest⟩ := result
  have keeping : c'.db.Keeping (manifest :: spare) := by
    rw [same]
    exact h.store stored
  exact (EntryTable.passes_insert keeping.bundles .own manifest c'.db.docs).inBundles keeping

theorem editBundle?_keeps (h : c.db.Keeping spare) {own : Nat} (edited : c.editBundle? id = some (c', own)) :
    c'.db.Keeping spare := by
  obtain ⟨⟨bundles, docs, doc⟩, made, edited⟩ := Option.bind_eq_some_iff.1 edited
  obtain ⟨rfl, -⟩ := Prod.mk.inj (Option.some.inj edited)
  exact (EntryTable.passes_editable? h.bundles made).inBundles h

/-- A document that has no file name gets one. -/
theorem nameDoc_keeps (h : c.db.Keeping spare) (doc : Nat) (choose : String → String) :
    (c.nameDoc doc choose).db.Keeping spare := by
  rw [nameDoc]
  split
  · exact h.rewrite (c.db.docs.rewrites_set rfl)
  · exact h

theorem saveDoc_keeps (h : c.db.Keeping spare) (doc : Nat) (dir : String) : (c.saveDoc doc dir).1.db.Keeping spare := by
  obtain ⟨docs, same, rewrites⟩ := c.saveDoc_db doc dir
  rw [same]
  exact h.rewrite rewrites

theorem modifyBundle_keeps (h : c.db.Keeping spare) (id : Nat) (change : Bundle → Bundle)
    (keeps : ∀ b, c.db.bundles.row? id = some b → RowSound b → RowSound (change b) ∧ heldBy (change b) = heldBy b ∧
      (change b).entry.locality.deleted = b.entry.locality.deleted) : (c.modifyBundle id change).db.Keeping spare :=
  (EntryTable.passes_modify h.bundles id change c.db.docs keeps).inBundles h

/-- An entry with a version of its own that can be saved is live. -/
theorem live_of_savable? {e : Entry} {own : Nat} (agrees : e.locality.hasSource = true → e.Live)
    (savable : savable? e = some own) : e.Live := by
  rw [savable?] at savable
  split at savable
  · rename_i flag
    exact agrees (by simp [Locality.hasSource, flag])
  · cases savable

theorem saveBundle?_keeps (h : c.db.Keeping spare) {result : Except Fault Unit}
    (saved : c.saveBundle? id = some (c', result)) : c'.db.Keeping spare := by
  obtain ⟨b, found, saved⟩ := Option.bind_eq_some_iff.1 saved
  cases named : savable? b.entry with
  | none =>
    rw [named] at saved
    obtain ⟨rfl, -⟩ := Prod.mk.inj (Option.some.inj saved)
    exact h
  | some own =>
    have live := live_of_savable? (h.bundles.rows b (EntryTable.mem_of_row? found)).live_of_hasSource named
    rw [named] at saved
    obtain ⟨d, -, saved⟩ := Option.bind_eq_some_iff.1 saved
    dsimp only at saved
    generalize (if b.dirName.isEmpty then
      freeName c.files c.config.ownBundles ((d.rootString? "name").getD "") ".tmbundle" else b.dirName) = dirName at saved
    have placed := modifyBundle_keeps h id (fun b => { b with dirName }) fun other place sound => by
      obtain rfl := Option.some.inj (found.symm.trans place)
      exact ⟨⟨sound.settled, .inl live⟩, rfl, rfl⟩
    generalize c.modifyBundle id (fun b => { b with dirName }) = c₁ at saved placed
    cases made : c₁.files.createDirectories (c₁.ownDir dirName) with
    | mk files result =>
      rw [made] at saved
      cases result with
      | error fault =>
        obtain ⟨rfl, -⟩ := Prod.mk.inj (Option.some.inj saved)
        exact placed
      | ok _ =>
        have named := nameDoc_keeps (c := { c₁ with files }) placed own fun _ => manifestName
        dsimp only at saved
        generalize nameDoc { c₁ with files } own (fun _ => manifestName) = c₂ at saved named
        have written := saveDoc_keeps named own (c₂.ownDir dirName)
        generalize c₂.saveDoc own (c₂.ownDir dirName) = ending at saved written
        obtain ⟨c₃, result⟩ := ending
        cases result with
        | error fault =>
          dsimp only at saved
          obtain ⟨rfl, -⟩ := Prod.mk.inj (Option.some.inj saved)
          exact written
        | ok _ =>
          dsimp only at saved
          obtain ⟨rfl, -⟩ := Prod.mk.inj (Option.some.inj saved)
          exact (EntryTable.passes_unmark written.bundles id c₃.db.docs).inBundles written

/-! ## Deleting and restoring bundles -/

variable {t : EntryTable Bundle} {b b' : Bundle} {docs docs' : DocumentTable}

/-- What a bundle that is hidden still holds is its factory document and what its items have left. -/
theorem trades_hide (found : t.row? id = some b) (released : docs.Trades docs' (Keeper.inner b) (Keeper.inner b')) :
    docs.Trades (dropDoc docs' b.entry.ownDoc) t.held (t.setRow id { b' with entry :=
      { b.entry with ownDoc := none, locality := { pristine := true, disabled := true }, modified := false } }).held := by
  suffices ofRow : docs.Trades (dropDoc docs' b.entry.ownDoc) ([] ++ heldBy b) (heldBy { b' with entry :=
      { b.entry with ownDoc := none, locality := { pristine := true, disabled := true }, modified := false } }) from
    EntryTable.trades_setRow found ofRow
  -- the items drop their versions first, and then the entry its own
  have dropped := (EntryTable.trades_dropDoc docs' b.entry.ownDoc).frame (b.entry.factoryDoc.toList ++ Keeper.inner b')
  refine (released.frame_left b.entry.held).trans (dropped.perm ?_ (.of_eq ?_))
  · rw [Entry.held, List.append_assoc]
    exact List.perm_append_comm_assoc _ _ _
  · simp [heldBy, Entry.held]
    rfl

/-- A bundle with a pristine version is hidden, without its own and its installed version. -/
theorem passes_hide (h : t.Sound) (found : t.row? id = some b) (pristine : b.entry.locality.pristine = true)
    (settled : Keeper.Settled b') (released : docs.Trades docs' (Keeper.inner b) (Keeper.inner b')) :
    Passes [] t docs (t.setRow id { b' with entry :=
        { b.entry with ownDoc := none, locality := { pristine := true, disabled := true }, modified := false } })
      (dropDoc docs' b.entry.ownDoc) := by
  have source : b.entry.locality.hasSource = true := by simp [Locality.hasSource, pristine]
  have live : b.entry.Live := (h.rows b (EntryTable.mem_of_row? found)).live_of_hasSource source
  have factory := live.factory
  rw [Locality.isFactory, pristine, Bool.true_or] at factory
  exact ⟨h.setRow ⟨settled, .inl ⟨⟨rfl, factory⟩, rfl, rfl⟩⟩ fun _ => rfl, trades_hide found released⟩

/-- An entry without its installed version. -/
def Entry.uninstalled (e : Entry) : Entry :=
  if e.locality.installed then { e with factoryDoc := none, locality := { e.locality with installed := false } } else e

/-- Where there is no pristine version, an entry without its installed version has no factory version. -/
theorem Entry.agrees_uninstalled {e : Entry} (h : e.Agrees) (pristine : e.locality.pristine = false) :
    e.uninstalled.Agrees ∧ e.uninstalled.locality.isFactory = false := by
  obtain ⟨own, factory⟩ := h
  cases installed : e.locality.installed with
  | true => exact ⟨⟨by simpa [uninstalled, installed] using own, by simp [uninstalled, installed, pristine, Locality.isFactory]⟩,
      by simp [uninstalled, installed, pristine, Locality.isFactory]⟩
  | false =>
    have none_ : e.locality.isFactory = false := by simp [Locality.isFactory, installed, pristine]
    simp only [uninstalled, installed, Bool.false_eq_true, if_false]
    exact ⟨⟨own, factory⟩, none_⟩

theorem Entry.locality_uninstalled (e : Entry) : e.uninstalled.locality.own = e.locality.own ∧
    e.uninstalled.locality.deleted = e.locality.deleted := by
  rw [uninstalled]
  split <;> exact ⟨rfl, rfl⟩

theorem trades_uninstalled (e : Entry) (docs : DocumentTable) :
    docs.Trades (if e.locality.installed then dropDoc docs e.factoryDoc else docs) e.held e.uninstalled.held := by
  rw [Entry.uninstalled]
  split
  · exact (EntryTable.trades_dropDoc docs e.factoryDoc).frame e.ownDoc.toList
  · exact .refl docs _

theorem deleteBundle?_keeps (h : c.db.Keeping spare) {result : Except Fault Bool}
    (deleted : c.deleteBundle? id = some (c', result)) : c'.db.Keeping spare := by
  obtain ⟨b, found, deleted⟩ := Option.bind_eq_some_iff.1 deleted
  have sound := h.bundles.rows b (EntryTable.mem_of_row? found)
  obtain ⟨settled, released⟩ := Keeper.release { own := true, installed := true } b c.db.docs sound.settled
  have entry : (Row.release { own := true, installed := true } b c.db.docs).1.entry = b.entry :=
    Row.entry_release { own := true, installed := true } b c.db.docs
  generalize Row.release { own := true, installed := true } b c.db.docs = rest at deleted settled released entry
  obtain ⟨b', docs'⟩ := rest
  dsimp only at deleted settled released entry
  rw [entry] at deleted
  split at deleted
  · rename_i pristine
    obtain ⟨rfl, -⟩ := Prod.mk.inj (Option.some.inj deleted)
    exact (passes_hide h.bundles found pristine settled released).inBundles h
  · rename_i pristine
    rw [Bool.not_eq_true] at pristine
    -- without a factory version the row goes with the last version, or it stays when its file cannot be deleted
    obtain ⟨agrees, noFactory⟩ : b.entry.uninstalled.Agrees ∧ b.entry.uninstalled.locality.isFactory = false :=
      Entry.agrees_uninstalled sound.agrees pristine
    have entry' : (if b.entry.locality.installed then
        { b.entry with factoryDoc := none, locality := { b.entry.locality with installed := false } } else b.entry) =
        b.entry.uninstalled := rfl
    have trades : c.db.docs.Trades (if b.entry.locality.installed then dropDoc docs' b.entry.factoryDoc else docs')
        (heldBy b) (heldBy { b' with entry := b.entry.uninstalled }) :=
      (released.frame_left b.entry.held).trans ((trades_uninstalled b.entry docs').frame (Keeper.inner b'))
    rw [entry'] at deleted
    generalize (if b.entry.locality.installed then dropDoc docs' b.entry.factoryDoc else docs') = docs₁ at deleted trades
    have settled' : Keeper.Settled { b' with entry := b.entry.uninstalled } := settled
    have entry₂ : Row.entry { b' with entry := b.entry.uninstalled } = b.entry.uninstalled := rfl
    generalize ({ b' with entry := b.entry.uninstalled } : Bundle) = b₂ at deleted trades settled' entry₂
    have place : (c.db.bundles.setRow id b₂).row? id = some b₂ :=
      EntryTable.row?_setRow_self (EntryTable.lt_of_row? found) b₂
    have goes {bundles : EntryTable Bundle} {docs₂ : DocumentTable} (same : bundles = (c.db.bundles.setRow id b₂).cut id)
        (gone : docs₁.Trades docs₂ (heldBy b₂) []) :
        ({ c.db with bundles, docs := docs₂ } : Database).Keeping spare := by
      rw [same, EntryTable.cut_setRow]
      have all : c.db.docs.Trades docs₂ ([] ++ heldBy b) [] := trades.trans gone
      exact (EntryTable.passes_cut h.bundles found all).inBundles h
    split at deleted
    · obtain ⟨rfl, -⟩ := Prod.mk.inj (Option.some.inj deleted)
      have none_ := EntryTable.hasSource_dropVersions (Row.entry b₂) (show Locality.sources.pristine = true from rfl) rfl rfl
      obtain ⟨same, gone⟩ := EntryTable.drop_eq_cut place settled' none_ docs₁
      exact goes same gone
    · split at deleted
      · rename_i fault failed
        obtain ⟨rfl, -⟩ := Prod.mk.inj (Option.some.inj deleted)
        have own := EntryTable.own_of_delete_error (congrArg (Option.map Row.entry) place) failed
        obtain ⟨sameOwn, sameHere⟩ := b.entry.locality_uninstalled
        rw [entry₂] at own
        have source : b.entry.locality.hasSource = true := by simp [Locality.hasSource, ← sameOwn, own]
        have here : b.entry.locality.deleted = false := (sound.live_of_hasSource source).here
        have live : (Row.entry b₂).Live := by
          rw [entry₂]
          exact ⟨agrees, sameHere.trans here, by simp [Locality.hasSource, own]⟩
        have passes : Passes [] c.db.bundles c.db.docs (c.db.bundles.setRow id b₂) docs₁ :=
          ⟨h.bundles.setRow ⟨settled', .inl live⟩ fun _ => live.here, EntryTable.trades_setRow found trades⟩
        exact passes.inBundles h
      · rename_i bundles docs₂ files removed
        obtain ⟨rfl, -⟩ := Prod.mk.inj (Option.some.inj deleted)
        obtain ⟨same, gone⟩ := EntryTable.delete_eq_cut place settled' (entry₂ ▸ agrees) (entry₂ ▸ noFactory) removed
        exact goes same gone

/-- A hidden bundle without a version of the user's own is shown again and read afresh. -/
theorem restoreBundle?_keeps (h : c.db.Keeping spare)
    (untouched : ∀ e, c.db.bundles.entryAt? id = some e → e.ownDoc = none) {result : Except Fault Bool}
    (restored : c.restoreBundle? id = some (c', result)) : c'.db.Keeping spare := by
  obtain ⟨b, found, restored⟩ := Option.bind_eq_some_iff.1 restored
  have sound := h.bundles.rows b (EntryTable.mem_of_row? found)
  have ownDoc : b.entry.ownDoc = none := untouched b.entry (congrArg (Option.map Row.entry) found)
  split at restored
  · rename_i hidden
    rw [Bool.and_eq_true] at hidden
    have source : b.entry.locality.hasSource = true := by simp [Locality.hasSource, hidden.1]
    have live : b.entry.Live := sound.live_of_hasSource source
    have factory := live.factory
    rw [Locality.isFactory, hidden.1, Bool.true_or] at factory
    dsimp only at restored
    split at restored
    · cases loaded : c.db.docs.load c.files (Path.join (Path.join c.config.pristineBundles b.dirName) manifestName) with
      | error fault =>
        rw [loaded] at restored
        obtain ⟨rfl, -⟩ := Prod.mk.inj (Option.some.inj restored)
        exact h
      | ok stored =>
        obtain ⟨docs, manifest⟩ := stored
        obtain ⟨-, -, -, stored⟩ := DocumentTable.load_eq_ok loaded
        rw [loaded] at restored
        obtain ⟨rfl, -⟩ := Prod.mk.inj (Option.some.inj restored)
        have shown := modifyBundle_keeps (c := c.withDocs docs) (h.store stored) id
          (fun b => { b with entry := { b.entry with locality := { pristine := true } } }) fun other place _ => by
            obtain rfl := Option.some.inj (found.symm.trans place)
            have own : false = b.entry.ownDoc.isSome := by rw [ownDoc, Option.isSome_none]
            exact ⟨⟨sound.settled, .inl ⟨⟨own, factory⟩, rfl, rfl⟩⟩, rfl, live.here.symm⟩
        have here := EntryTable.here_modify found
          (fun b => { b with entry := { b.entry with locality := { pristine := true } } }) rfl
        obtain ⟨registered, here⟩ := registerManifest_keeps shown .pristine here
        exact (syncItems_keeps registered .pristine here _ _).1
    · obtain ⟨rfl, -⟩ := Prod.mk.inj (Option.some.inj restored)
      exact h
  · obtain ⟨rfl, -⟩ := Prod.mk.inj (Option.some.inj restored)
    exact h

/-- Bringing items in line with a directory leaves the entries of bundles alone. -/
theorem entryAt?_syncItems (c : Catalog) (bundleDir : String) (loc : Locality) (id : Nat) (kinds : List ItemKind)
    (other : Nat) : (c.syncItems bundleDir loc id kinds).db.bundles.entryAt? other = c.db.bundles.entryAt? other := by
  induction kinds generalizing c with
  | nil => rfl
  | cons kind kinds ih =>
    rw [syncItems]
    cases place : c.db.bundles.row? id with
    | none => rfl
    | some b =>
      dsimp only
      generalize (b.items.get kind).sync c.db.docs c.files (Path.join bundleDir kind.dirName) loc kind.extension = result
      have kept (items : PerKind (EntryTable Entry)) :
          (c.db.bundles.setRow id { b with items }).entryAt? other = c.db.bundles.entryAt? other :=
        EntryTable.entryAt?_setRow place (show Row.entry { b with items } = Row.entry b from rfl) other
      exact (ih _).trans (kept _)

/-- A pristine document that is recorded is the factory document, unless there is an installed one. -/
theorem entryAt?_register_pristine {e : Entry} (found : t.entryAt? id = some e) (apart : e.locality.installed = false)
    (doc : Nat) (docs : DocumentTable) :
    ∃ e', (t.register id doc { pristine := true } docs).1.entryAt? id = some e' ∧ e'.ownDoc = e.ownDoc ∧
      e'.locality.own = e.locality.own ∧ e'.factoryDoc = some doc ∧ e'.locality.isFactory = true := by
  rw [EntryTable.register, found]
  simp only [apart, Bool.false_eq_true, and_false, if_false]
  refine ⟨_, (EntryTable.entryAt?_modifyEntry_self t id _).trans (congrArg (Option.map _) found), rfl, ?_, rfl, ?_⟩
  · exact Bool.or_false _
  · simp [Locality.union, Locality.isFactory]

/-- A bundle that is restored has the flags of its pristine version alone. So they say which documents it names
just if it had no version of the user's own. -/
theorem agrees_iff_of_restoreBundle? (found : c.db.bundles.row? id = some b)
    (restored : c.restoreBundle? id = some (c', .ok true)) :
    ∃ e, c'.db.bundles.entryAt? id = some e ∧ (e.Agrees ↔ b.entry.ownDoc = none) := by
  obtain ⟨b', found', restored⟩ := Option.bind_eq_some_iff.1 restored
  obtain rfl := Option.some.inj (found.symm.trans found')
  split at restored
  · dsimp only at restored
    split at restored
    · cases loaded : c.db.docs.load c.files (Path.join (Path.join c.config.pristineBundles b.dirName) manifestName) with
      | error fault =>
        rw [loaded] at restored
        cases restored
      | ok stored =>
        rw [loaded] at restored
        obtain ⟨rfl, -⟩ := Prod.mk.inj (Option.some.inj restored)
        obtain ⟨docs, manifest⟩ := stored
        have shown : EntryTable.entryAt? ⟨c.db.bundles.rows.modify id fun b =>
            { b with entry := { b.entry with locality := { pristine := true } } }⟩ id =
            some { b.entry with locality := { pristine := true } } := by
          rw [EntryTable.modify_eq found, EntryTable.entryAt?, EntryTable.row?_setRow_self (EntryTable.lt_of_row? found)]
          rfl
        obtain ⟨e, registered, ownDoc, own, factoryDoc, factory⟩ := entryAt?_register_pristine shown rfl manifest docs
        refine ⟨e, (entryAt?_syncItems _ _ _ id _ id).trans registered, ?_⟩
        constructor
        · intro agrees
          have named := agrees.own
          rw [own, ownDoc, eq_comm, Option.isSome_eq_false_iff, Option.isNone_iff_eq_none] at named
          exact named
        · intro none_
          refine ⟨?_, ?_⟩
          · rw [own, ownDoc, none_]
            rfl
          · rw [factory, factoryDoc]
            rfl
    · cases restored
  · cases restored

/-! ## Items -/

/-- A bundle with an item is there. -/
theorem here_of_item? (h : c.db.Keeping spare) (place : c.db.bundles.row? owner = some b) {e : Entry}
    (item : c.item? kind owner id = some e) : b.entry.locality.deleted = false := by
  obtain ⟨items, found, item⟩ := Option.bind_eq_some_iff.1 item
  obtain ⟨b', place', rfl⟩ := Option.map_eq_some_iff.1 found
  obtain rfl := Option.some.inj (place.symm.trans place')
  rcases (h.bundles.rows b (EntryTable.mem_of_row? place)).standing with live | rfl
  · exact live.here
  · cases kind <;> cases item

/-- Other items of a kind are put into a bundle that is there. -/
theorem withItems_keeps {taken : List Nat} (h : c.db.Keeping (taken ++ spare)) (found : c.db.bundles.row? owner = some b)
    (here : b.entry.locality.deleted = false) {table : EntryTable Entry}
    (passes : Passes taken (b.items.get kind) c.db.docs table docs) :
    ((c.withDocs docs).withItems kind owner table).db.Keeping spare := by
  have put := (Bundle.passes_items h.bundles found here passes).inBundles h
  rwa [← EntryTable.modify_eq found fun row => { row with items := row.items.set kind table }] at put

theorem editItem?_keeps (h : c.db.Keeping spare) {own : Nat} (edited : c.editItem? kind owner id = some (c', own)) :
    c'.db.Keeping spare := by
  obtain ⟨items, found, edited⟩ := Option.bind_eq_some_iff.1 edited
  obtain ⟨b, place, rfl⟩ := Option.map_eq_some_iff.1 found
  obtain ⟨⟨table, docs, doc⟩, made, edited⟩ := Option.bind_eq_some_iff.1 edited
  obtain ⟨rfl, -⟩ := Prod.mk.inj (Option.some.inj edited)
  have sound := (h.bundles.rows b (EntryTable.mem_of_row? place)).settled kind
  obtain ⟨e, entry, -⟩ := Option.bind_eq_some_iff.1 made
  have item : c.item? kind owner id = some e := Option.bind_eq_some_iff.2 ⟨_, found, entry⟩
  have passes := EntryTable.passes_editable? sound made
  have marked := EntryTable.passes_mark passes.sound (EntryTable.here_editable? sound made) docs
  exact withItems_keeps h place (here_of_item? h place item) (passes.trans marked)

theorem newItem?_keeps (h : c.db.Keeping spare) (here : c.db.bundles.Here owner) {name : String} {i : Nat}
    (made : c.newItem? kind owner name = some (c', i)) : c'.db.Keeping spare := by
  obtain ⟨items, found, made⟩ := Option.bind_eq_some_iff.1 made
  obtain ⟨b, place, rfl⟩ := Option.map_eq_some_iff.1 found
  obtain ⟨b', place', here⟩ := here.exists_row
  obtain rfl := Option.some.inj (place.symm.trans place')
  obtain ⟨docs, same, stored⟩ := c.createDoc_db name none
  generalize c.createDoc name none = result at made same stored
  obtain ⟨c₁, doc⟩ := result
  obtain ⟨rfl, -⟩ := Prod.mk.inj (Option.some.inj made)
  have keeping : c₁.db.Keeping ([doc] ++ spare) := by
    rw [same]
    exact h.store stored
  have place₁ : c₁.db.bundles.row? owner = some b := by
    rw [same]
    exact place
  have sound := (h.bundles.rows b (EntryTable.mem_of_row? place)).settled kind
  exact withItems_keeps keeping place₁ here (EntryTable.passes_insert sound .own doc c₁.db.docs)

/-- A bundle whose item is marked as unchanged. -/
theorem RowSound.unmarkItem {b : Bundle} (h : RowSound b) (kind : ItemKind) (id : Nat) :
    RowSound { b with items := b.items.set kind ((b.items.get kind).modifyEntry id fun e => { e with modified := false }) } := by
  have items := Bundle.ItemsSound.set h.settled kind (EntryTable.passes_unmark (h.settled kind) id {}).sound
  rcases h with ⟨_, live | rfl⟩
  · exact ⟨items, .inl live⟩
  · exact ⟨items, .inr (by cases kind <;> cases id <;> rfl)⟩

/-- An item is marked as unchanged. -/
theorem unmarkItem_keeps (h : c.db.Keeping spare) (kind : ItemKind) (owner id : Nat) :
    (c.modifyItem kind owner id fun e => { e with modified := false }).db.Keeping spare := by
  refine modifyBundle_keeps h owner _ fun b _ sound => ⟨sound.unmarkItem kind id, ?_, rfl⟩
  have same : ((b.items.get kind).modifyEntry id fun e => { e with modified := false }).held = (b.items.get kind).held :=
    EntryTable.held_modifyEntry _ id fun _ => rfl
  exact congrArg (b.entry.held ++ ·) (Bundle.heldIn_set_same same ItemKind.all)

theorem saveItem?_keeps (h : c.db.Keeping spare) {result : Except Fault Unit}
    (saved : c.saveItem? kind owner id = some (c', result)) : c'.db.Keeping spare := by
  obtain ⟨row, found, saved⟩ := Option.bind_eq_some_iff.1 saved
  obtain ⟨e, item, saved⟩ := Option.bind_eq_some_iff.1 saved
  cases named : savable? e with
  | none =>
    rw [named] at saved
    obtain ⟨rfl, -⟩ := Prod.mk.inj (Option.some.inj saved)
    exact h
  | some own =>
    rw [named] at saved
    dsimp -zeta only at saved
    extract_lets jp at saved
    -- what comes after the bundle was saved, if it never was before
    have rest (x : Catalog × Except Fault Unit) (ready : x.1.db.Keeping spare) (saved : jp x = some (c', result)) :
        c'.db.Keeping spare := by
      obtain ⟨c₁, bundleSaved⟩ := x
      cases bundleSaved with
      | error fault =>
        obtain ⟨rfl, -⟩ := Prod.mk.inj (Option.some.inj saved)
        exact ready
      | ok _ =>
        obtain ⟨dirName, -, saved⟩ := Option.bind_eq_some_iff.1 saved
        obtain ⟨d, -, saved⟩ := Option.bind_eq_some_iff.1 saved
        have named := nameDoc_keeps ready own fun name =>
          freeName c₁.files (c₁.ownItemDir kind dirName) name kind.extension
        dsimp only at saved
        generalize c₁.nameDoc own (fun name =>
          freeName c₁.files (c₁.ownItemDir kind dirName) name kind.extension) = c₂ at saved named
        have written := saveDoc_keeps named own (c₁.ownItemDir kind dirName)
        generalize c₂.saveDoc own (c₁.ownItemDir kind dirName) = ending at saved written
        obtain ⟨c₃, result⟩ := ending
        cases result with
        | error fault =>
          dsimp only at saved
          obtain ⟨rfl, -⟩ := Prod.mk.inj (Option.some.inj saved)
          exact written
        | ok _ =>
          dsimp only at saved
          obtain ⟨rfl, -⟩ := Prod.mk.inj (Option.some.inj saved)
          exact unmarkItem_keeps written kind owner id
    split at saved
    · obtain ⟨x, first, saved⟩ := Option.bind_eq_some_iff.1 saved
      exact rest x (saveBundle?_keeps h first) saved
    · exact rest (c, .ok ()) h saved

theorem deleteItem?_keeps (h : c.db.Keeping spare) {result : Except Fault Reload}
    (deleted : c.deleteItem? kind owner id = some (c', result)) : c'.db.Keeping spare := by
  obtain ⟨b, place, deleted⟩ := Option.bind_eq_some_iff.1 deleted
  obtain ⟨e, item, deleted⟩ := Option.bind_eq_some_iff.1 deleted
  split at deleted
  · obtain ⟨rfl, -⟩ := Prod.mk.inj (Option.some.inj deleted)
    exact h
  · rename_i table docs files removed
    obtain ⟨rfl, -⟩ := Prod.mk.inj (Option.some.inj deleted)
    have here := here_of_item? h place item
    have sound := (h.bundles.rows b (EntryTable.mem_of_row? place)).settled kind
    exact withItems_keeps h place here (EntryTable.passes_delete sound removed)

theorem restoreItem?_keeps (h : c.db.Keeping spare) {restored : Bool}
    (shown : c.restoreItem? kind owner id = some (c', restored)) : c'.db.Keeping spare := by
  obtain ⟨e, item, shown⟩ := Option.bind_eq_some_iff.1 shown
  obtain ⟨items, found, shown⟩ := Option.bind_eq_some_iff.1 shown
  obtain ⟨b, place, rfl⟩ := Option.map_eq_some_iff.1 found
  have here := here_of_item? h place item
  have sound := (h.bundles.rows b (EntryTable.mem_of_row? place)).settled kind
  have passes := EntryTable.passes_restore sound id c.db.docs
  generalize (b.items.get kind).restore id = ending at shown passes
  obtain ⟨table, done⟩ := ending
  cases done with
  | false =>
    obtain ⟨rfl, -⟩ := Prod.mk.inj (Option.some.inj shown)
    exact h
  | true =>
    obtain ⟨rfl, -⟩ := Prod.mk.inj (Option.some.inj shown)
    exact withItems_keeps h place here passes

end EditorBundles.Catalog
