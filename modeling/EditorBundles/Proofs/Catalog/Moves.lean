import Mathlib.Logic.Relation
import EditorBundles.Proofs.Catalog.BundleOperations
import EditorBundles.Proofs.Catalog.OwnNames
import EditorBundles.Proofs.FileSystem.Lookup
import EditorBundles.Proofs.PropertyList.Importing
import EditorBundles.Proofs.PropertyList.Keyed

/-!
# Moves of a catalog

Whatever is done to a catalog is a sequence of few kinds of moves: a document is stored, written to, given to a
row or dropped from it, and some flags of bundles are set. What every move keeps is kept by every operation, so
that an invariant has to be looked at move by move and not operation by operation. Next to the tables a move has
the documents that were stored and are in no row yet, which are spare.
-/

namespace EditorBundles.Catalog
set_option autoImplicit false
open PropertyList
open Relation (ReflTransGen)

/-! ## Tables -/

namespace EntryTable

/-- What is done to a table, with the spare documents and all documents. Versions of the user's own get names that no
other one has, or any where that is allowed. -/
inductive Move {ρ : Type} [Row ρ] (N : Prop) :
    List Nat × EntryTable ρ × DocumentTable → List Nat × EntryTable ρ × DocumentTable → Prop where
  | store {spare t docs} {d : Document} (fresh : d.isVacant = false) (keyed : d.Keyed) :
    Move N (spare, t, docs) ((docs.insert d).2 :: spare, t, (docs.insert d).1)
  | insert {spare t docs doc loc} (source : loc.IsSource)
    (named : loc.own = true → N ∨ t.Lacks docs (docs.get doc).filename) :
    Move N (doc :: spare, t, docs) (spare, (t.insert doc loc docs).1, docs)
  | register {spare t docs id doc loc} (source : loc.IsSource) (named : loc.own = true → N) :
    Move N (doc :: spare, t, docs) (spare, (t.register id doc loc docs).1, (t.register id doc loc docs).2)
  | edit {spare t docs t' docs'} {id own : Nat} (edited : t.editable? id docs = some (t', docs', own))
    (named : N ∨ t.Adoptable docs id) : Move N (spare, t, docs) (spare, t', docs')
  | drop {spare t docs id loc} : Move N (spare, t, docs) (spare, (t.drop id loc docs).1, (t.drop id loc docs).2.1)
  | delete {spare t docs t' docs' id dir fs fs'} (deleted : t.delete id dir docs fs = .ok (t', docs', fs')) :
    Move N (spare, t, docs) (spare, t', docs')
  | restore (spare t docs id) : Move N (spare, t, docs) (spare, (t.restore id).1, docs)
  | mark {spare t docs id} {b : Bool} :
    Move N (spare, t, docs) (spare, t.modifyEntry id fun e => { e with modified := b }, docs)

variable {ρ : Type} [Row ρ] {N : Prop} {spare : List Nat} {t : EntryTable ρ} {docs docs' : DocumentTable} {loc : Locality}
  {doc : Nat}

/-- Moves one after another. -/
abbrev Moves (N : Prop) (s s' : List Nat × EntryTable ρ × DocumentTable) : Prop := ReflTransGen (Move N) s s'

theorem moves_load {fs : FileSystem} {path : String} (t : EntryTable ρ) (loaded : docs.load fs path = .ok (docs', doc)) :
    Moves N (spare, t, docs) (doc :: spare, t, docs') := by
  obtain ⟨d, read, stored, -⟩ := DocumentTable.load_eq_ok loaded
  obtain ⟨rfl, rfl⟩ := Prod.mk.inj stored
  exact .single (.store (Document.isVacant_of_load read) (Document.keyed_of_load read))

theorem moves_dropWhere (p : Entry → DocumentTable → Bool) (loc : Locality) (t : EntryTable ρ) (docs : DocumentTable)
    (ids : List Nat) :
    Moves N (spare, t, docs) (spare, (dropWhere p loc t docs ids).1, (dropWhere p loc t docs ids).2) := by
  induction ids generalizing t docs with
  | nil => exact .refl
  | cons id ids ih =>
    rw [dropWhere]
    split
    · exact .head .drop (ih _ _)
    · exact ih t docs

theorem moves_dropMissing (loc : Locality) (files : List String) (t : EntryTable ρ) (docs : DocumentTable)
    (ids : List Nat) :
    Moves N (spare, t, docs) (spare, (dropMissing loc files t docs ids).1, (dropMissing loc files t docs ids).2) := by
  induction ids generalizing t docs with
  | nil => exact .refl
  | cons id ids ih =>
    rw [dropMissing]
    split
    · exact .head .drop (ih _ _)
    · exact ih t docs

theorem moves_reloadChanged (source : loc.IsSource) (named : loc.own = true → N) (fs : FileSystem) (dir : String)
    (files : List String) (t : EntryTable ρ) (docs : DocumentTable) (ids : List Nat) :
    Moves N (spare, t, docs)
      (spare, (reloadChanged fs dir loc files t docs ids).1, (reloadChanged fs dir loc files t docs ids).2.1) := by
  induction ids generalizing t docs files with
  | nil => exact .refl
  | cons id ids ih =>
    rw [reloadChanged]
    cases (t.tracked? docs loc id).filter fun v => files.contains v.filename with
    | none => exact ih files t docs
    | some v =>
      dsimp only
      split
      · cases loaded : docs.load fs (Path.join dir v.filename) with
        | ok result => exact (moves_load t loaded).trans (.head (.register source named) (ih _ _ _))
        | error fault => exact .head .drop (ih _ _ _)
      · exact ih _ t docs

theorem moves_addNew (source : loc.IsSource) (named : loc.own = true → N) (fs : FileSystem) (dir : String)
    (t : EntryTable ρ) (docs : DocumentTable) (files : List String) :
    Moves N (spare, t, docs) (spare, (addNew fs dir loc t docs files).1, (addNew fs dir loc t docs files).2) := by
  induction files generalizing t docs with
  | nil => exact .refl
  | cons filename files ih =>
    rw [addNew]
    cases loaded : docs.load fs (Path.join dir filename) with
    | error fault => exact ih t docs
    | ok result =>
      dsimp only
      split
      · exact (moves_load t loaded).trans (.head (.register source named) (ih _ _))
      · exact (moves_load t loaded).trans (.head (.insert source fun own => .inl (named own)) (ih _ _))

theorem moves_sync (source : loc.IsSource) (named : loc.own = true → N) (t : EntryTable ρ) (docs : DocumentTable)
    (fs : FileSystem) (dir extension : String) :
    Moves N (spare, t, docs) (spare, (t.sync docs fs dir loc extension).1, (t.sync docs fs dir loc extension).2) := by
  rw [sync]
  split
  · dsimp only
    exact ((moves_dropMissing loc _ t docs _).trans (moves_reloadChanged source named fs dir _ _ _ _)).trans
      (moves_addNew source named fs dir _ _ _)
  · exact moves_dropWhere _ loc t docs _

/-- What is done to a table of themes or of items: moves, or a scan of a directory of the user's own. A scan gives rows the
names of the files that it finds, which are apart where the file system is regular. -/
inductive Change {ρ : Type} [Row ρ] (N : Prop) :
    List Nat × EntryTable ρ × DocumentTable → List Nat × EntryTable ρ × DocumentTable → Prop where
  | moves {s s'} (moves : Moves N s s') : Change N s s'
  | scan {spare t docs fs} {dir extension : String} (regular : fs.Regular) :
    Change N (spare, t, docs) (spare, t.sync docs fs dir { own := true } extension)

theorem change_sync {fs : FileSystem} (source : loc.IsSource) (named : loc.own = true → N ∨ fs.Regular) (t : EntryTable ρ)
    (docs : DocumentTable) (dir extension : String) :
    Change N (spare, t, docs) (spare, t.sync docs fs dir loc extension) := by
  have factory (none_ : loc.own = false) : Change N (spare, t, docs) (spare, t.sync docs fs dir loc extension) :=
    .moves (moves_sync source (fun own => Bool.noConfusion (none_.symm.trans own)) t docs fs dir extension)
  cases source with
  | pristine => exact factory rfl
  | installed => exact factory rfl
  | own =>
    rcases named rfl with any | regular
    · exact .moves (moves_sync .own (fun _ => any) t docs fs dir extension)
    · exact .scan regular

/-- Whatever names are allowed, a change is a sequence of moves. -/
theorem Change.anyMoves {s s' : List Nat × EntryTable ρ × DocumentTable} (change : Change N s s') : Moves True s s' := by
  cases change with
  | moves moves =>
    refine ReflTransGen.mono (fun _ _ move => ?_) _ _ moves
    cases move with
    | store fresh keyed => exact .store fresh keyed
    | insert source => exact .insert source fun _ => .inl trivial
    | register source => exact .register source fun _ => trivial
    | edit edited => exact .edit edited (.inl trivial)
    | drop => exact .drop
    | delete deleted => exact .delete deleted
    | restore => exact .restore _ _ _ _
    | mark => exact .mark
  | scan => exact moves_sync .own (fun _ => trivial) _ _ _ _ _

end EntryTable

/-! ## Catalogs -/

namespace Database

/-- What is done to the tables of a catalog, with the spare documents. What is written to documents is of a kind, and
themes and items of the user's own get names that none of the same table has, or any where that is allowed. -/
inductive Move (W : Document → Prop) (N : Prop) : List Nat × Database → List Nat × Database → Prop where
  | themes {spare spare' db themes docs} (change : EntryTable.Change N (spare, db.themes, db.docs) (spare', themes, docs)) :
    Move W N (spare, db) (spare', { db with themes, docs })
  | bundles {spare spare' db bundles docs}
    (moves : EntryTable.Moves True (spare, db.bundles, db.docs) (spare', bundles, docs)) :
    Move W N (spare, db) (spare', { db with bundles, docs })
  | items {spare spare' db id b kind table docs} (found : db.bundles.row? id = some b)
    (change : EntryTable.Change N (spare, b.items.get kind, db.docs) (spare', table, docs)) :
    Move W N (spare, db)
      (spare', { db with bundles := db.bundles.setRow id { b with items := b.items.set kind table }, docs })
  /-- A factory manifest is copied. -/
  | copy {spare db id e doc} (found : db.bundles.entryAt? id = some e) (named : e.factoryDoc = some doc) :
    Move W N (spare, db) ((db.docs.copy doc).2 :: spare, { db with docs := (db.docs.copy doc).1 })
  /-- What a document holds is replaced. Its file name and its time stay. -/
  | write {spare db doc} {content d : Document} (written : W content) (found : db.docs.get doc = d)
    (same : content.isVacant = d.isVacant) :
    Move W N (spare, db) (spare, { db with
      docs := db.docs.set doc { content with filename := d.filename, modTime := d.modTime } })
  /-- A document gets another time. -/
  | stamp {spare db doc modTime} : Move W N (spare, db) (spare, { db with
      docs := db.docs.modify doc fun d => { d with modTime } })
  /-- A document gets another file name. -/
  | name {spare db doc filename} (named : N ∨ ∃ owner b kind id, db.bundles.row? owner = some b ∧
      (b.items.get kind).ownDoc? id = some doc ∧ (b.items.get kind).Lacks db.docs filename) :
    Move W N (spare, db) (spare, { db with docs := db.docs.modify doc fun d => { d with filename } })
  /-- A manifest gets another file name. -/
  | nameManifest {spare db id e doc filename} (found : db.bundles.entryAt? id = some e) (held : doc ∈ e.held) :
    Move W N (spare, db) (spare, { db with docs := db.docs.modify doc fun d => { d with filename } })
  | fill {spare db doc} {change : Document → Document} (member : doc ∈ spare)
    (stored : ∀ d : Document, d.isVacant = false → (change d).isVacant = false)
    (keyed : ∀ d : Document, d.Keyed → (change d).Keyed) :
    Move W N (spare, db) (spare, { db with docs := db.docs.modify doc change })
  | place {spare db id} {dirName : String} :
    Move W N (spare, db) (spare, { db with bundles := ⟨db.bundles.rows.modify id fun b => { b with dirName }⟩ })
  /-- A bundle with a pristine version is deleted. -/
  | hide {spare db id b released docs} (found : db.bundles.row? id = some b)
    (pristine : b.entry.locality.pristine = true)
    (release : Row.release { own := true, installed := true } b db.docs = (released, docs)) :
    Move W N (spare, db) (spare, { db with
      bundles := db.bundles.setRow id { released with entry :=
        { b.entry with ownDoc := none, locality := { pristine := true, disabled := true }, modified := false } }
      docs := dropDoc docs b.entry.ownDoc })
  /-- The installed version of a bundle without a pristine one is deleted. -/
  | uninstall (spare : List Nat) {db id b released docs} (found : db.bundles.row? id = some b)
    (pristine : b.entry.locality.pristine = false)
    (release : Row.release { own := true, installed := true } b db.docs = (released, docs)) :
    Move W N (spare, db) (spare, { db with
      bundles := db.bundles.setRow id { released with entry := b.entry.uninstalled }
      docs := if b.entry.locality.installed then dropDoc docs b.entry.factoryDoc else docs })
  /-- The pristine version of a hidden bundle is shown. -/
  | reveal {spare db id b} (found : db.bundles.row? id = some b) (pristine : b.entry.locality.pristine = true) :
    Move W N (spare, db) (spare, { db with bundles := ⟨db.bundles.rows.modify id fun b =>
      { b with entry := { b.entry with locality := { pristine := true } } }⟩ })
  | associate {spare db ext name} : Move W N (spare, db) (spare, { db with
      syntaxes := Catalog.associate ext name db.syntaxes })

/-- Moves one after another. -/
abbrev Moves (W : Document → Prop) (N : Prop) (s s' : List Nat × Database) : Prop := ReflTransGen (Move W N) s s'

variable {W : Document → Prop} {N : Prop} {docs : DocumentTable} {doc : Nat} {d : Document}

/-- A new document is spare. -/
theorem moves_store (spare : List Nat) (db : Database) (fresh : d.isVacant = false) (keyed : d.Keyed) :
    Moves W N (spare, db) ((db.docs.insert d).2 :: spare, { db with docs := (db.docs.insert d).1 }) :=
  .single (.themes (.moves (.single (.store fresh keyed))))

theorem moves_load {fs : FileSystem} {path : String} (spare : List Nat) (db : Database)
    (loaded : db.docs.load fs path = .ok (docs, doc)) : Moves W N (spare, db) (doc :: spare, { db with docs }) :=
  .single (.themes (.moves (EntryTable.moves_load db.themes loaded)))

end Database

end EditorBundles.Catalog
