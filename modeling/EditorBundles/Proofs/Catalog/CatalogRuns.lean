import EditorBundles.Proofs.Catalog.BundleOperations
import EditorBundles.Proofs.Catalog.Operations
import EditorBundles.Proofs.Catalog.TableRuns
import EditorBundles.Proofs.PropertyList.Sizes

/-!
# Documents over runs of a catalog

Over every run of a catalog the flags of all rows say which documents they name, and there are as many documents
as rows name, as long as no bundle is restored that has a version of the user's own.
-/

namespace EditorBundles.Catalog
set_option autoImplicit false
open PropertyList

variable {c c' : Catalog} {spare : List Nat} {id : Nat}

/-! ## Themes -/

/-- Putting in the colours of a new theme leaves a root. -/
theorem isVacant_addColors {d : Document} (h : d.isVacant = false) : (addColors d).isVacant = false := by
  have colored (slot : Nat) (colors : List (String × String)) (d : Document) :
      (colors.foldl (fun d color => d.setString slot color.1 color.2) d).dicts.size = d.dicts.size := by
    induction colors generalizing d with
    | nil => rfl
    | cons color colors ih => exact (ih _).trans (d.size_setString slot color.1 color.2)
  refine Document.isVacant_of_le h ?_
  rw [addColors]
  dsimp only
  rw [colored]
  refine Nat.le_trans ?_ (Document.size_le_newDict _ _ _)
  refine Nat.le_trans ?_ (Document.size_le_pushDict _ _)
  rw [Document.size_newArray]

theorem newTheme_keeps (h : c.db.Keeping spare) (name : String) : (c.newTheme name).1.db.Keeping spare := by
  obtain ⟨docs, same, stored⟩ := c.createDoc_db name (some (freeName c.files c.config.ownThemes name ".tmTheme"))
  rw [newTheme]
  dsimp only
  generalize c.createDoc name (some (freeName c.files c.config.ownThemes name ".tmTheme")) = created at same stored
  obtain ⟨c₁, doc⟩ := created
  have keeping : c₁.db.Keeping (doc :: spare) := by
    rw [same]
    exact h.store stored
  have there := keeping.holding.stored doc List.mem_cons_self
  have rewrites : c₁.db.docs.Rewrites (c₁.db.docs.modify doc addColors) :=
    c₁.db.docs.rewrites_set ((isVacant_addColors there).trans there.symm)
  have colored := keeping.rewrite rewrites
  generalize c₁.db.docs.modify doc addColors = docs₂ at colored
  have inserted := EntryTable.passes_insert colored.themes .own doc docs₂
  have here := EntryTable.here_insert c₁.db.themes .own doc docs₂
  exact (inserted.trans (EntryTable.passes_mark inserted.sound here docs₂)).inThemes colored

theorem editTheme?_keeps (h : c.db.Keeping spare) {own : Nat} (edited : c.editTheme? id = some (c', own)) :
    c'.db.Keeping spare := by
  obtain ⟨⟨themes, docs, doc⟩, made, edited⟩ := Option.bind_eq_some_iff.1 edited
  obtain ⟨rfl, -⟩ := Prod.mk.inj (Option.some.inj edited)
  exact (EntryTable.passes_editable? h.themes made).inThemes h

theorem markTheme?_keeps (h : c.db.Keeping spare) (here : c.db.themes.Here id) (marked : c.markTheme? id = some c') :
    c'.db.Keeping spare := by
  obtain ⟨e, -, marked⟩ := Option.bind_eq_some_iff.1 marked
  obtain rfl := Option.some.inj marked
  exact (EntryTable.passes_mark h.themes here c.db.docs).inThemes h

theorem saveTheme?_keeps (h : c.db.Keeping spare) {result : Except Fault Unit} (saved : c.saveTheme? id = some (c', result)) :
    c'.db.Keeping spare := by
  obtain ⟨e, found, saved⟩ := Option.bind_eq_some_iff.1 saved
  cases named : savable? e with
  | none =>
    rw [named] at saved
    obtain ⟨rfl, -⟩ := Prod.mk.inj (Option.some.inj saved)
    exact h
  | some own =>
    rw [named] at saved
    have written := saveDoc_keeps h own c.config.ownThemes
    dsimp only at saved
    generalize c.saveDoc own c.config.ownThemes = ending at saved written
    obtain ⟨c₁, ended⟩ := ending
    cases ended <;> obtain ⟨rfl, -⟩ := Prod.mk.inj (Option.some.inj saved)
    · exact written
    · exact (EntryTable.passes_unmark written.themes id c₁.db.docs).inThemes written

theorem deleteTheme?_keeps (h : c.db.Keeping spare) {result : Except Fault Unit}
    (deleted : c.deleteTheme? id = some (c', result)) : c'.db.Keeping spare := by
  obtain ⟨e, found, deleted⟩ := Option.bind_eq_some_iff.1 deleted
  split at deleted
  · obtain ⟨rfl, -⟩ := Prod.mk.inj (Option.some.inj deleted)
    exact h
  · rename_i themes docs files removed
    obtain ⟨rfl, -⟩ := Prod.mk.inj (Option.some.inj deleted)
    exact (EntryTable.passes_delete h.themes removed).inThemes h

theorem restoreTheme?_keeps (h : c.db.Keeping spare) {restored : Bool} (shown : c.restoreTheme? id = some (c', restored)) :
    c'.db.Keeping spare := by
  obtain ⟨e, found, shown⟩ := Option.bind_eq_some_iff.1 shown
  have passes := EntryTable.passes_restore h.themes id c.db.docs
  generalize c.db.themes.restore id = ending at shown passes
  obtain ⟨themes, done⟩ := ending
  cases done <;> obtain ⟨rfl, -⟩ := Prod.mk.inj (Option.some.inj shown)
  · exact h
  · exact passes.inThemes h

/-! ## Snapshots and exports -/

theorem saveThemes_keeps (h : c.db.Keeping spare) (ids : List Nat) : (c.saveThemes ids).1.db.Keeping spare := by
  induction ids generalizing c with
  | nil => exact h
  | cons id ids ih =>
    rw [saveThemes]
    split
    · exact ih h
    · rename_i own _
      have written := saveDoc_keeps h own c.config.ownThemes
      generalize c.saveDoc own c.config.ownThemes = ending at written
      obtain ⟨c₁, ended⟩ := ending
      cases ended with
      | error fault => exact written
      | ok _ => exact ih ((EntryTable.passes_unmark written.themes id c₁.db.docs).inThemes written)

theorem flush_db (c : Catalog) : c.flush.1.db = c.db := by
  rw [flush]
  split
  · cases c.db.save c.files c.config.dataDir c.config.snapshotPath with
    | mk files result => cases result <;> rfl
  · rfl

theorem flushIfDue_db (c : Catalog) (now : Int) : (c.flushIfDue now).1.db = c.db := by
  rw [flushIfDue]
  split
  · exact c.flush_db
  · rfl

theorem commit_keeps (h : c.db.Keeping spare) : c.commit.1.db.Keeping spare := by
  have saved := saveThemes_keeps h (List.range c.db.themes.size)
  rw [commit]
  generalize c.saveThemes (List.range c.db.themes.size) = ending at saved
  obtain ⟨c₁, result⟩ := ending
  cases result with
  | error fault => exact saved
  | ok _ =>
    show c₁.markDirty.flush.1.db.Keeping spare
    rw [flush_db]
    exact saved

/-- Exporting an item leaves all but the files alone. -/
theorem exportItem?_files {target : String} {kind : ItemKind} {owner : Nat} {result : Except Fault Unit}
    (exported : c.exportItem? target kind owner id = some (c', result)) : c' = { c with files := c'.files } := by
  obtain ⟨path, -, exported⟩ := Option.bind_eq_some_iff.1 exported
  cases path with
  | none =>
    obtain ⟨rfl, -⟩ := Prod.mk.inj (Option.some.inj exported)
    rfl
  | some source =>
    dsimp only at exported
    split at exported <;> obtain ⟨rfl, -⟩ := Prod.mk.inj (Option.some.inj exported) <;> rfl

/-- What was exported first leaves all but the files alone, and so does the rest. -/
theorem files_trans {c₁ : Catalog} (first : c₁ = { c with files := c₁.files }) (rest : c' = { c₁ with files := c'.files }) :
    c' = { c with files := c'.files } := by
  rw [first] at rest
  exact rest

theorem exportItems?_files {dir : String} {kind : ItemKind} {owner : Nat} {items : List Nat} {result : Except Fault Unit}
    (exported : exportItems? c dir kind owner items = some (c', result)) : c' = { c with files := c'.files } := by
  induction items generalizing c with
  | nil =>
    obtain ⟨rfl, -⟩ := Prod.mk.inj (Option.some.inj exported)
    rfl
  | cons i items ih =>
    obtain ⟨path, -, exported⟩ := Option.bind_eq_some_iff.1 exported
    split at exported
    · exact ih exported
    · obtain ⟨⟨c₁, ended⟩, first, exported⟩ := Option.bind_eq_some_iff.1 exported
      have same := exportItem?_files first
      cases ended with
      | error fault =>
        obtain ⟨rfl, -⟩ := Prod.mk.inj (Option.some.inj exported)
        exact same
      | ok _ => exact files_trans same (ih exported)

theorem exportKinds?_files {target : String} {owner : Nat} {kinds : List ItemKind} {result : Except Fault Unit}
    (exported : exportKinds? c target owner kinds = some (c', result)) : c' = { c with files := c'.files } := by
  induction kinds generalizing c with
  | nil =>
    obtain ⟨rfl, -⟩ := Prod.mk.inj (Option.some.inj exported)
    rfl
  | cons kind kinds ih =>
    obtain ⟨items, -, exported⟩ := Option.bind_eq_some_iff.1 exported
    split at exported
    · exact ih exported
    · dsimp only at exported
      split at exported
      · obtain ⟨rfl, -⟩ := Prod.mk.inj (Option.some.inj exported)
        rfl
      · obtain ⟨⟨c₁, ended⟩, first, exported⟩ := Option.bind_eq_some_iff.1 exported
        have same : c₁ = { c with files := c₁.files } := files_trans rfl (exportItems?_files first)
        cases ended with
        | error fault =>
          obtain ⟨rfl, -⟩ := Prod.mk.inj (Option.some.inj exported)
          exact same
        | ok _ => exact files_trans same (ih exported)

theorem exportSupport?_files {target : String} {result : Except Fault Unit}
    (exported : c.exportSupport? target id = some (c', result)) : c' = { c with files := c'.files } := by
  obtain ⟨path, -, exported⟩ := Option.bind_eq_some_iff.1 exported
  cases path <;> obtain ⟨rfl, -⟩ := Prod.mk.inj (Option.some.inj exported) <;> rfl

/-- Exporting a bundle leaves all but the files alone. -/
theorem exportBundle?_files {target : String} {result : Except Fault Unit}
    (exported : c.exportBundle? target id = some (c', result)) : c' = { c with files := c'.files } := by
  rw [exportBundle?] at exported
  split at exported
  · obtain ⟨rfl, -⟩ := Prod.mk.inj (Option.some.inj exported)
    rfl
  · obtain ⟨b, -, exported⟩ := Option.bind_eq_some_iff.1 exported
    split at exported
    · obtain ⟨rfl, -⟩ := Prod.mk.inj (Option.some.inj exported)
      rfl
    · split at exported
      · obtain ⟨rfl, -⟩ := Prod.mk.inj (Option.some.inj exported)
        rfl
      · split at exported
        · obtain ⟨rfl, -⟩ := Prod.mk.inj (Option.some.inj exported)
          rfl
        · obtain ⟨⟨c₁, ended⟩, first, exported⟩ := Option.bind_eq_some_iff.1 exported
          have same : c₁ = { c with files := c₁.files } := files_trans rfl (exportKinds?_files first)
          cases ended with
          | error fault =>
            obtain ⟨rfl, -⟩ := Prod.mk.inj (Option.some.inj exported)
            exact same
          | ok _ => exact files_trans same (exportSupport?_files exported)

theorem exportItem?_db {target : String} {kind : ItemKind} {owner : Nat} {result : Except Fault Unit}
    (exported : c.exportItem? target kind owner id = some (c', result)) : c'.db = c.db := by
  rw [exportItem?_files exported]

theorem exportBundle?_db {target : String} {result : Except Fault Unit}
    (exported : c.exportBundle? target id = some (c', result)) : c'.db = c.db := by
  rw [exportBundle?_files exported]

/-! ## Catalogs without files -/

/-- A catalog without tables that finds no files. -/
structure Bare (c : Catalog) : Prop where
  tables : c.db = {}
  files : c.files = {}

/-- There is nothing to list where there are no files. -/
theorem listDir_bare (dir : String) (directories : Bool) (keep : String → Bool) :
    listDir {} dir directories keep = [] := by
  have none_ : FileSystem.children {} dir = [] := by
    rw [FileSystem.children]
    split <;> rfl
  rw [listDir, none_]
  exact List.mergeSort_nil

namespace Bare

variable {c : Catalog}

theorem updateThemes (h : Bare c) (dir : String) (loc : Locality) : Bare (c.updateThemes dir loc) := by
  have same : EntryTable.sync ({} : EntryTable Entry) {} {} dir loc ".tmTheme" = ({}, {}) := by
    rw [EntryTable.sync, listDir_bare]
    split <;> rfl
  constructor
  · rw [Catalog.updateThemes, h.tables, h.files, same]
    rfl
  · exact h.files

theorem updateBundles (h : Bare c) (root : String) (loc : Locality) (mode : ScanMode) :
    Bare (c.updateBundles root loc mode) := by
  have known (dirs : List String) : c.updateKnown root loc mode dirs (List.range c.db.bundles.size) = (c, dirs) := by
    rw [h.tables]
    rfl
  rw [Catalog.updateBundles]
  split
  · dsimp only
    rw [h.files, listDir_bare, known]
    exact h
  · rw [h.tables]
    exact ⟨rfl, h.files⟩

theorem update (h : Bare c) (mode : ScanMode) : Bare (c.update mode) := by
  have themes : Bare (if mode = .rest then c
      else (c.updateThemes c.config.pristineThemes { pristine := true }).updateThemes c.config.ownThemes
        { own := true }) := by
    split
    · exact h
    · exact (h.updateThemes _ _).updateThemes _ _
  have scanned (root₁ root₂ root₃ : String) :=
    ((themes.updateBundles root₁ { installed := true } mode).updateBundles root₂ { pristine := true } mode).updateBundles
      root₃ { own := true } mode
  rw [Catalog.update]
  split <;> exact ⟨(scanned _ _ _).tables, (scanned _ _ _).files⟩

end Bare

/-- A catalog that is opened anew in a place without files has no tables when its languages are scanned. -/
theorem openAt_bare {config : Config} (fresh : config.rebuild = true) (here : config.dataDir = "") (identities : Identities) :
    openingTables config {} = {} ∧ ∃ start : Catalog, start.config = config ∧ Bare start ∧
      openAt config {} identities =
        ((start.update .languages).files, .ok { start.update .languages with pending := some .rest }) := by
  have only (place : Place) (node : FileNode) (found : FileSystem.node? {} place = some node) : node.isDirectory = true := by
    change (if [] = place then some (FileNode.directory 0o755 0) else none) = some node at found
    split at found <;> cases found
    rfl
  have kept (path : String) : ∃ fault, FileSystem.removeFile {} path = .error fault := by
    rw [FileSystem.removeFile]
    split
    · exact ⟨_, rfl⟩
    · exact ⟨_, rfl⟩
    · rename_i place octets mode modified located
      rw [FileSystem.locate] at located
      split at located
      · cases located
      · split at located
        · cases located
        · rename_i found
          split at located <;> cases located
          cases only _ _ found
  have loaded (path : String) : Database.load {} path true = ({}, {}) := by
    obtain ⟨fault, kept⟩ := kept path
    rw [Database.load, kept]
    split <;> rfl
  have start : ({} : FileSystem).createDirectories config.dataDir = ({}, .ok ()) := by
    rw [here]
    rfl
  constructor
  · rw [openingTables, start, fresh, loaded]
  · rw [openAt, start]
    dsimp only
    rw [fresh, loaded]
    exact ⟨{ config, identities }, rfl, ⟨rfl, rfl⟩, rfl⟩

/-- Opening a catalog where there are no files gives no tables. -/
theorem bare_openAt (identities : Identities) : openingTables { rebuild := true } {} = {} ∧
    ∃ c files, openAt { rebuild := true } {} identities = (files, .ok c) ∧ Bare c := by
  obtain ⟨empty, start, -, bare, opens⟩ := @openAt_bare { rebuild := true } rfl rfl identities
  exact ⟨empty, _, _, opens, (bare.update .languages).tables, (bare.update .languages).files⟩

/-! ## Runs -/

/-- What runs of a catalog have to take care of: no bundle is restored that has a version of the user's own, and
new items and marks go to rows that are not gone. -/
def Careful (c : Catalog) : Operation → Prop
  | .restoreBundle id => ∀ e, c.db.bundles.entryAt? id = some e → e.ownDoc = none
  | .newItem _ owner _ => c.db.bundles.Here owner
  | .markTheme id => c.db.themes.Here id
  | _ => True

theorem write?_keeps (h : c.db.Keeping spare) {doc : Nat} {content : Document} (wrote : c.write? doc content = some c') :
    c'.db.Keeping spare := by
  obtain ⟨d, live, wrote⟩ := Option.bind_eq_some_iff.1 wrote
  rw [liveDoc?] at live
  split at live
  · rename_i there
    split at wrote
    · cases wrote
    · rename_i stored
      obtain rfl := Option.some.inj wrote
      rw [DocumentTable.isLive, Bool.and_eq_true, Bool.not_eq_true'] at there
      exact h.rewrite (c.db.docs.rewrites_set ((Bool.not_eq_true _ ▸ stored : content.isVacant = false).trans there.2.symm))
  · cases live

/-- An operation that gives a result next to the catalog. -/
theorem keeps_of_map {α : Type} {run : Option (Catalog × α)} (keeps : ∀ c' result, run = some (c', result) → c'.db.Keeping spare)
    (runs : run.map Prod.fst = some c') : c'.db.Keeping spare := by
  obtain ⟨⟨c', result⟩, ran, rfl⟩ := Option.map_eq_some_iff.1 runs
  exact keeps c' result ran

/-- Every operation that is done with care passes the documents on. -/
theorem Operation.keeps (h : c.db.Keeping spare) {op : Operation} (careful : Careful c op) (runs : op.run? c = some c') :
    c'.db.Keeping spare := by
  cases op with
  | update mode =>
    obtain rfl := Option.some.inj runs
    exact update_keeps h mode
  | resume =>
    obtain rfl := Option.some.inj runs
    exact resume_keeps h
  | newBundle name =>
    obtain rfl := Option.some.inj runs
    exact newBundle_keeps h name
  | editBundle id => exact keeps_of_map (fun _ _ ran => editBundle?_keeps h ran) runs
  | saveBundle id => exact keeps_of_map (fun _ _ ran => saveBundle?_keeps h ran) runs
  | deleteBundle id => exact keeps_of_map (fun _ _ ran => deleteBundle?_keeps h ran) runs
  | restoreBundle id => exact keeps_of_map (fun _ _ ran => restoreBundle?_keeps h careful ran) runs
  | newItem kind owner name => exact keeps_of_map (fun _ _ ran => newItem?_keeps h careful ran) runs
  | editItem kind owner id => exact keeps_of_map (fun _ _ ran => editItem?_keeps h ran) runs
  | saveItem kind owner id => exact keeps_of_map (fun _ _ ran => saveItem?_keeps h ran) runs
  | deleteItem kind owner id => exact keeps_of_map (fun _ _ ran => deleteItem?_keeps h ran) runs
  | restoreItem kind owner id => exact keeps_of_map (fun _ _ ran => restoreItem?_keeps h ran) runs
  | newTheme name =>
    obtain rfl := Option.some.inj runs
    exact newTheme_keeps h name
  | editTheme id => exact keeps_of_map (fun _ _ ran => editTheme?_keeps h ran) runs
  | markTheme id => exact markTheme?_keeps h careful runs
  | saveTheme id => exact keeps_of_map (fun _ _ ran => saveTheme?_keeps h ran) runs
  | deleteTheme id => exact keeps_of_map (fun _ _ ran => deleteTheme?_keeps h ran) runs
  | restoreTheme id => exact keeps_of_map (fun _ _ ran => restoreTheme?_keeps h ran) runs
  | write doc content => exact write?_keeps h runs
  | setSyntax ext name =>
    obtain rfl := Option.some.inj runs
    exact ⟨h.themes, h.bundles, h.holding⟩
  | commit =>
    obtain rfl := Option.some.inj runs
    exact commit_keeps h
  | flush =>
    obtain rfl := Option.some.inj runs
    exact (flush_db c).symm ▸ h
  | flushIfDue now =>
    obtain rfl := Option.some.inj runs
    exact (flushIfDue_db c now).symm ▸ h
  | exportBundle target id => exact keeps_of_map (fun _ _ ran => (exportBundle?_db ran).symm ▸ h) runs
  | exportItem target kind owner id => exact keeps_of_map (fun _ _ ran => (exportItem?_db ran).symm ▸ h) runs
  | changeFiles files =>
    obtain rfl := Option.some.inj runs
    exact h

/-- Over every run that takes care, the flags of the themes, of the bundles and of their items say which documents
they name, and there are as many documents as they name. -/
theorem agrees_of_reachable (reached : Reachable Careful c) :
    ((∀ e ∈ c.db.themes.rows, e.Agrees) ∧
      ∀ b ∈ c.db.bundles.rows, b.entry.Agrees ∧ ∀ kind, ∀ e ∈ (b.items.get kind).rows, e.Agrees) ∧
    c.db.docs.liveCount = (c.db.themes.held ++ c.db.bundles.held).length := by
  have keeping : c.db.Keeping [] :=
    reached.induct (P := fun db => db.Keeping []) Database.keeping_empty (fun _ h => resume_keeps h)
      fun _ _ _ h careful runs => Operation.keeps h careful runs
  refine ⟨⟨fun e member => (keeping.themes.rows e member).agrees, fun b member => ?_⟩, keeping.holding.liveCount_eq⟩
  have sound := keeping.bundles.rows b member
  exact ⟨sound.agrees, fun kind e item => ((sound.settled kind).rows e item).agrees⟩

/-- A bundle of the user's own with a snippet, in a catalog that was opened where there are no files. -/
theorem agrees_of_reachable_own : ∃ c, Reachable Careful c ∧ c.db.themes.held = [] ∧ c.db.bundles.held = [0, 1] ∧
    c.db.docs.liveCount = 2 := by
  obtain ⟨empty, c, files, opens, bare⟩ := bare_openAt { nth := fun _ => "A" }
  have opened : Reachable Careful c := .opened empty opens
  obtain ⟨config, db, files, identities, dirty, lastFlush, pending, complete⟩ := c
  obtain ⟨rfl, rfl⟩ := bare
  have withBundle := Reachable.next opened (show Careful _ (.newBundle "b") from trivial) rfl
  obtain ⟨c, withSnippet, themes, bundles⟩ : ∃ c, Reachable Careful c ∧ c.db.themes.held = [] ∧ c.db.bundles.held = [0, 1] :=
    ⟨_, .next withBundle (show Careful _ (.newItem .snippet 0 "s") from ⟨_, rfl, rfl⟩) rfl, rfl, rfl⟩
  refine ⟨c, withSnippet, themes, bundles, ?_⟩
  rw [(agrees_of_reachable withSnippet).2, themes, bundles]
  rfl

end EditorBundles.Catalog
