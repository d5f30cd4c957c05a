import EditorBundles.Catalog.Export
import EditorBundles.Catalog.Themes

/-!
# Operations on a catalog

What can be done to a catalog, as data, and the catalogs that are reached that way. Documents are written to
in between, and the file system under a catalog can change at any time. Opening a catalog starts from no tables
or from those of a catalog that was reached before, which its snapshot has.
-/

namespace EditorBundles.Catalog
set_option autoImplicit false
open PropertyList

/-- An operation on a catalog, or a change to its documents or its file system. -/
inductive Operation where
  | update (mode : ScanMode)
  | resume
  | newBundle (name : String)
  | editBundle (id : Nat)
  | saveBundle (id : Nat)
  | deleteBundle (id : Nat)
  | restoreBundle (id : Nat)
  | newItem (kind : ItemKind) (owner : Nat) (name : String)
  | editItem (kind : ItemKind) (owner id : Nat)
  | saveItem (kind : ItemKind) (owner id : Nat)
  | deleteItem (kind : ItemKind) (owner id : Nat)
  | restoreItem (kind : ItemKind) (owner id : Nat)
  | newTheme (name : String)
  | editTheme (id : Nat)
  | markTheme (id : Nat)
  | saveTheme (id : Nat)
  | deleteTheme (id : Nat)
  | restoreTheme (id : Nat)
  | write (doc : Nat) (content : Document)
  | setSyntax (ext name : String)
  | commit
  | flush
  | flushIfDue (now : Int)
  | exportBundle (target : String) (id : Nat)
  | exportItem (target : String) (kind : ItemKind) (owner id : Nat)
  | changeFiles (files : FileSystem)

/-- What a document holds is replaced. Its file name and its time stay. -/
def write? (c : Catalog) (doc : Nat) (content : Document) : Option Catalog := do
  let d ← c.liveDoc? doc
  if content.isVacant then none
  else return c.withDocs (c.db.docs.set doc { content with filename := d.filename, modTime := d.modTime })

/-- The catalog after an operation, whether it succeeds or fails. Gives nothing where the operation does. -/
def Operation.run? (c : Catalog) : Operation → Option Catalog
  | .update mode => some (c.update mode)
  | .resume => some c.resume.1
  | .newBundle name => some (c.newBundle name).1
  | .editBundle id => (c.editBundle? id).map Prod.fst
  | .saveBundle id => (c.saveBundle? id).map Prod.fst
  | .deleteBundle id => (c.deleteBundle? id).map Prod.fst
  | .restoreBundle id => (c.restoreBundle? id).map Prod.fst
  | .newItem kind owner name => (c.newItem? kind owner name).map Prod.fst
  | .editItem kind owner id => (c.editItem? kind owner id).map Prod.fst
  | .saveItem kind owner id => (c.saveItem? kind owner id).map Prod.fst
  | .deleteItem kind owner id => (c.deleteItem? kind owner id).map Prod.fst
  | .restoreItem kind owner id => (c.restoreItem? kind owner id).map Prod.fst
  | .newTheme name => some (c.newTheme name).1
  | .editTheme id => (c.editTheme? id).map Prod.fst
  | .markTheme id => c.markTheme? id
  | .saveTheme id => (c.saveTheme? id).map Prod.fst
  | .deleteTheme id => (c.deleteTheme? id).map Prod.fst
  | .restoreTheme id => (c.restoreTheme? id).map Prod.fst
  | .write doc content => c.write? doc content
  | .setSyntax ext name => some (c.setSyntax ext name)
  | .commit => some c.commit.1
  | .flush => some c.flush.1
  | .flushIfDue now => some (c.flushIfDue now).1
  | .exportBundle target id => (c.exportBundle? target id).map Prod.fst
  | .exportItem target kind owner id => (c.exportItem? target kind owner id).map Prod.fst
  | .changeFiles files => some { c with files }

/-- The tables that a catalog is opened with. -/
def openingTables (config : Config) (files : FileSystem) : Database :=
  (Database.load (files.createDirectories config.dataDir).1 config.snapshotPath config.rebuild).1

/-- The catalogs that are reached by allowed operations. -/
inductive Reachable (allowed : Catalog → Operation → Prop) : Catalog → Prop where
  | opened {config : Config} {files files' : FileSystem} {identities : Identities} {c : Catalog}
      (empty : openingTables config files = {}) (opens : openAt config files identities = (files', .ok c)) :
      Reachable allowed c
  | reopened {config : Config} {files files' : FileSystem} {identities : Identities} {before c : Catalog}
      (reached : Reachable allowed before) (same : openingTables config files = before.db)
      (opens : openAt config files identities = (files', .ok c)) : Reachable allowed c
  | next {c c' : Catalog} {op : Operation} (reached : Reachable allowed c) (permitted : allowed c op)
      (runs : op.run? c = some c') : Reachable allowed c'

/-- A catalog is opened with the tables of its snapshot, and the scan of the languages is run. -/
theorem resume_of_openAt {config : Config} {files files' : FileSystem} {identities : Identities} {c : Catalog}
    (opens : openAt config files identities = (files', .ok c)) : ∃ start : Catalog,
      start.db = openingTables config files ∧ start.resume.1 = c ∧
      start.files = (Database.load (files.createDirectories config.dataDir).1 config.snapshotPath config.rebuild).2 := by
  rw [openAt] at opens
  rw [openingTables]
  generalize files.createDirectories config.dataDir = made at opens
  obtain ⟨files₁, made⟩ := made
  cases made with
  | error fault => cases opens
  | ok made => exact ⟨_, rfl, Except.ok.inj (Prod.mk.inj opens).2, rfl⟩

/-- What opening, reading a snapshot back and every allowed operation keep holds of every catalog that is
reached. -/
theorem Reachable.induct {allowed : Catalog → Operation → Prop} {P : Database → Prop} {c : Catalog} (empty : P {})
    (resume : ∀ c : Catalog, P c.db → P c.resume.1.db)
    (next : ∀ c c' op, P c.db → allowed c op → Operation.run? c op = some c' → P c'.db) (reached : Reachable allowed c) :
    P c.db := by
  induction reached with
  | opened none_ opens =>
    obtain ⟨start, tables, rfl, -⟩ := resume_of_openAt opens
    exact resume start (tables.trans none_ ▸ empty)
  | reopened _ same opens ih =>
    obtain ⟨start, tables, rfl, -⟩ := resume_of_openAt opens
    exact resume start (tables.trans same ▸ ih)
  | next _ permitted runs ih => exact next _ _ _ ih permitted runs

end EditorBundles.Catalog
