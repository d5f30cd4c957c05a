import EditorBundles.Proofs.Catalog.BundleKeeping
import EditorBundles.Proofs.Catalog.SyncKeeping
import EditorBundles.Proofs.Catalog.Views

/-!
# Operations as they are seen

What is done to a sound table that holds its documents is seen as the operation of the same name on its view.
Rows and documents are looked at apart: which rows an operation leaves does not depend on the numbers of the
documents, and an operation that only deletes documents deletes none that a row still names.
-/

namespace EditorBundles.PropertyList
set_option autoImplicit false

/-- Documents are deleted at most. -/
structure DocumentTable.Prunes (t u : DocumentTable) : Prop where
  size : u.size = t.size
  kept : ∀ index, u.isLive index = true → u.get index = t.get index

namespace DocumentTable

variable {t u v : DocumentTable}

theorem Prunes.refl (t : DocumentTable) : t.Prunes t := ⟨rfl, fun _ _ => rfl⟩

/-- What is there after documents were deleted was there before. -/
theorem Prunes.isLive (h : t.Prunes u) {index : Nat} (live : u.isLive index = true) : t.isLive index = true := by
  have same := h.kept index live
  rw [DocumentTable.isLive, Bool.and_eq_true] at live ⊢
  rwa [h.size, same] at live

theorem Prunes.trans (first : t.Prunes u) (second : u.Prunes v) : t.Prunes v where
  size := second.size.trans first.size
  kept index live := (second.kept index live).trans (first.kept index (second.isLive live))

theorem prunes_delete (t : DocumentTable) (index : Nat) : t.Prunes (t.delete index) where
  size := size_set t index Document.vacant
  kept other live := by
    have different : other ≠ index := by
      rintro rfl
      rw [isLive_delete] at live
      exact Bool.noConfusion live
    exact get_delete_of_ne t different

/-- A document that cannot be read is not stored. -/
theorem load_eq_error {fs : FileSystem} {path : String} {fault : Fault} (failed : t.load fs path = .error fault) :
    Document.load fs path = .error fault := by
  rw [load] at failed
  cases read : Document.load fs path with
  | ok d =>
    rw [read] at failed
    cases failed
  | error fault' =>
    rw [read] at failed
    cases failed
    rfl

theorem prunes_foldl_delete (t : DocumentTable) (gone : List Nat) : t.Prunes (gone.foldl DocumentTable.delete t) := by
  induction gone generalizing t with
  | nil => exact .refl t
  | cons index gone ih => exact (t.prunes_delete index).trans (ih _)

end DocumentTable

end EditorBundles.PropertyList

namespace EditorBundles.Catalog
set_option autoImplicit false
open PropertyList
open PropertyList.DocumentTable (Prunes)

theorem prunes_dropDoc (docs : DocumentTable) (doc : Option Nat) : docs.Prunes (dropDoc docs doc) := by
  cases doc with
  | none => exact .refl docs
  | some doc => exact docs.prunes_delete doc

/-! ## Entries -/

namespace Entry

variable {docs docs' : DocumentTable}

@[simp] theorem view_locality (docs : DocumentTable) (e : Entry) : (e.view docs).locality = e.locality := rfl

@[simp] theorem isTombstone_view (docs : DocumentTable) (e : Entry) : (e.view docs).isTombstone = e.isTombstone := rfl

@[simp] theorem view_identify (docs : DocumentTable) (e : Entry) (d : Document) :
    (e.identify d).view docs = (e.view docs).identify d := rfl

theorem view_new (docs : DocumentTable) (loc : Locality) (doc : Nat) :
    (Entry.new loc doc).view docs = EntryView.new loc (docs.get doc) := by
  unfold Entry.new EntryView.new
  split <;> rfl

/-- Only the documents that an entry names are seen. -/
theorem view_congr {e : Entry} (same : ∀ index ∈ e.held, docs'.get index = docs.get index) : e.view docs' = e.view docs := by
  have factory : e.factoryDoc.map docs'.get = e.factoryDoc.map docs.get :=
    Option.map_congr fun index member => same index (by simp [held, Option.mem_def.1 member])
  have own : e.ownDoc.map docs'.get = e.ownDoc.map docs.get :=
    Option.map_congr fun index member => same index (by simp [held, Option.mem_def.1 member])
  rw [view, view, factory, own]

theorem version_view (docs : DocumentTable) (e : Entry) (loc : Locality) :
    (e.view docs).version loc = (e.docFor loc).map docs.get := by
  unfold EntryView.version docFor
  split <;> rfl

theorem hasUnsavedOwn_view (docs : DocumentTable) (e : Entry) : (e.view docs).hasUnsavedOwn = e.hasUnsavedOwn docs := by
  rw [EntryView.hasUnsavedOwn, hasUnsavedOwn, view, Option.any_map]

end Entry

theorem EntryTable.view_dropVersions (docs : DocumentTable) (e : Entry) (loc : Locality) :
    (dropVersions e loc).1.view docs = ((e.view docs).dropVersions loc).1 ∧
      (dropVersions e loc).2.1 = ((e.view docs).dropVersions loc).2 := by
  refine ⟨?_, rfl⟩
  simp only [dropVersions, EntryView.dropVersions, Entry.view, apply_ite (Option.map docs.get), Option.map_none]
  rfl

/-! ## Rows -/

/-- Rows that only delete documents when versions are dropped from their tables. -/
class Pruning (ρ : Type) [Row ρ] : Prop where
  prunes_release : ∀ loc (row : ρ) (docs : DocumentTable), docs.Prunes (Row.release loc row docs).2

instance : Pruning Entry where
  prunes_release _ _ docs := .refl docs

/-- Rows that can be seen without the numbers of their documents. -/
class Viewed (ρ : Type) [Row ρ] [Keeper ρ] (ν : outParam Type) [RowView ν] where
  view : DocumentTable → ρ → ν
  entry_view : ∀ docs (row : ρ), RowView.entry (view docs row) = (Row.entry row).view docs
  view_withEntry : ∀ docs (row : ρ) e, view docs (Row.withEntry row e) = RowView.withEntry (view docs row) (e.view docs)
  view_ofEntry : ∀ docs e, view docs (Row.ofEntry e) = RowView.ofEntry (e.view docs)
  view_congr : ∀ {docs docs' : DocumentTable} {row : ρ},
    (∀ index ∈ heldBy row, docs'.get index = docs.get index) → view docs' row = view docs row
  view_release : ∀ docs loc (row : ρ) docs',
    view docs (Row.release loc row docs').1 = RowView.release loc (view docs row)

attribute [simp] Viewed.entry_view Viewed.view_withEntry Viewed.view_ofEntry Viewed.view_release

instance : Viewed Entry EntryView where
  view := Entry.view
  entry_view _ _ := rfl
  view_withEntry _ _ _ := rfl
  view_ofEntry _ _ := rfl
  view_congr same := Entry.view_congr fun index member => same index (List.mem_append_left _ member)
  view_release _ _ _ _ := rfl

namespace EntryTable

variable {ρ : Type} [Row ρ] [Keeper ρ] {ν : Type} [RowView ν] [Viewed ρ ν] {t t' : EntryTable ρ}
  {docs docs' : DocumentTable} {id : Nat} {row : ρ} {others : List Nat} {loc : Locality}

/-- What is seen of a table. -/
def view (t : EntryTable ρ) (docs : DocumentTable) : TableView ν := ⟨t.rows.map (Viewed.view docs)⟩

@[simp] theorem size_view (t : EntryTable ρ) (docs : DocumentTable) : (t.view docs).size = t.size := List.length_map _

theorem row?_view (t : EntryTable ρ) (docs : DocumentTable) (id : Nat) :
    (t.view docs).row? id = (t.row? id).map (Viewed.view docs) := List.getElem?_map

theorem entryAt?_view (t : EntryTable ρ) (docs : DocumentTable) (id : Nat) :
    (t.view docs).entryAt? id = (t.entryAt? id).map (Entry.view docs) := by
  rw [TableView.entryAt?, row?_view, entryAt?, Option.map_map, Option.map_map]
  congr 1
  funext row
  exact Viewed.entry_view docs row

theorem view_setRow (t : EntryTable ρ) (docs : DocumentTable) (id : Nat) (row : ρ) :
    (t.setRow id row).view docs = (t.view docs).setRow id (Viewed.view docs row) := by
  rw [view, setRow, List.map_set]
  rfl

theorem findIdx?_view (docs : DocumentTable) (rows : List ρ) (p : EntryView → Bool) :
    (rows.map (Viewed.view docs)).findIdx? (fun row => p (RowView.entry row)) =
      rows.findIdx? fun row => p ((Row.entry row).view docs) := by
  rw [List.findIdx?_map]
  congr 1
  funext row
  rw [Function.comp, Viewed.entry_view]

theorem findUuid?_view (t : EntryTable ρ) (docs : DocumentTable) (uuid : String) :
    (t.view docs).findUuid? uuid = t.findUuid? uuid :=
  findIdx?_view docs t.rows fun e => !e.isTombstone && e.uuid = uuid

/-- The documents that a table holds are all that is seen of a table of documents. -/
theorem view_congr (same : ∀ index ∈ t.held, docs'.get index = docs.get index) : t.view docs' = t.view docs := by
  rw [view, view]
  congr 1
  refine List.map_congr_left fun row member => Viewed.view_congr fun index holds => ?_
  exact same index (List.mem_flatMap.2 ⟨row, member, holds⟩)

/-- Documents that were deleted are not seen. -/
theorem view_prune (prunes : docs.Prunes docs') (holding : docs'.Holding (t.held ++ others)) : t.view docs' = t.view docs :=
  view_congr fun index member => prunes.kept index (holding.mem_iff.1 (List.mem_append_left _ member))

theorem view_modifyEntry (t : EntryTable ρ) (docs : DocumentTable) (id : Nat) (change : Entry → Entry)
    (change' : EntryView → EntryView) (same : ∀ e, t.entryAt? id = some e → (change e).view docs = change' (e.view docs)) :
    (t.modifyEntry id change).view docs =
      (t.view docs).modifyRow id fun row => RowView.withEntry row (change' (RowView.entry row)) := by
  rw [view, view, modifyEntry, TableView.modifyRow]
  congr 1
  refine List.ext_getElem? fun other => ?_
  rw [List.getElem?_map, List.getElem?_modify, List.getElem?_modify, List.getElem?_map]
  cases found : t.rows[other]? with
  | none => rfl
  | some row =>
    by_cases here : id = other
    · subst here
      have entry := same (Row.entry row) (congrArg (Option.map Row.entry) found)
      simp [entry]
    · simp [here]

/-! ## Removal -/

theorem view_trimRows (docs : DocumentTable) (rows : List ρ) :
    (trimRows rows).map (Viewed.view docs) = TableView.trimRows (rows.map (Viewed.view docs)) := by
  rw [trimRows, TableView.trimRows, ← List.map_reverse, List.dropWhile_map, List.map_reverse]
  congr 3
  funext row
  rw [Function.comp, Viewed.entry_view, Entry.isTombstone_view]

theorem view_cut (t : EntryTable ρ) (docs : DocumentTable) (id : Nat) : (t.cut id).view docs = (t.view docs).cut id := by
  rw [cut, TableView.cut, size_view]
  split
  · rw [view, view_trimRows, List.map_take]
    rfl
  · rw [view_setRow, Viewed.view_ofEntry]
    rfl

omit [Keeper ρ] in
/-- The rows that are left when one is removed. -/
theorem fst_removeRow (found : t.row? id = some row) (docs : DocumentTable) : (t.removeRow id docs).1 = t.cut id := by
  rw [removeRow, found, cut]
  dsimp only
  split <;> rfl

/-- The rows that are left when versions of one are dropped. -/
theorem view_fst_drop (t : EntryTable ρ) (docs docs' : DocumentTable) (id : Nat) (loc : Locality) :
    (t.drop id loc docs').1.view docs = (t.view docs).drop id loc := by
  rw [drop, TableView.drop, row?_view]
  cases found : t.row? id with
  | none => rfl
  | some row =>
    obtain ⟨left, locality⟩ := view_dropVersions docs (Row.entry row) loc
    have released (docs' : DocumentTable) : Viewed.view docs (Row.release (dropVersions (Row.entry row) loc).2.1
        (Row.withEntry row (dropVersions (Row.entry row) loc).1) docs').1 =
          TableView.dropRow (Viewed.view docs row) loc := by
      rw [Viewed.view_release, Viewed.view_withEntry, left, locality, TableView.dropRow, Viewed.entry_view]
    have flags : (dropVersions (Row.entry row) loc).1.locality =
        ((RowView.entry (Viewed.view docs row)).dropVersions loc).1.locality := by
      rw [Viewed.entry_view, ← left, Entry.view_locality]
    dsimp only [Option.map_some]
    rw [← flags]
    split
    · rw [view_setRow, released]
    · have place := row?_setRow_self (lt_of_row? found) (Row.release (dropVersions (Row.entry row) loc).2.1
        (Row.withEntry row (dropVersions (Row.entry row) loc).1)
        ((dropVersions (Row.entry row) loc).2.2.foldl DocumentTable.delete docs')).1
      rw [fst_removeRow place, cut_setRow, view_cut]

omit [Keeper ρ] in
theorem prunes_register (t : EntryTable ρ) (id doc : Nat) (loc : Locality) (docs : DocumentTable) :
    docs.Prunes (t.register id doc loc docs).2 := by
  rw [register]
  cases t.entryAt? id with
  | none => exact .refl docs
  | some e =>
    dsimp only
    split
    · exact prunes_dropDoc docs e.ownDoc
    · split
      · exact docs.prunes_delete doc
      · exact prunes_dropDoc docs e.factoryDoc

section
omit [Keeper ρ] [RowView ν] [Viewed ρ ν]
variable [Pruning ρ]

theorem prunes_removeRow (t : EntryTable ρ) (id : Nat) (docs : DocumentTable) : docs.Prunes (t.removeRow id docs).2 := by
  rw [removeRow]
  cases t.row? id with
  | none => exact .refl docs
  | some row =>
    have released := Pruning.prunes_release Locality.all
      (Row.withEntry row { Row.entry row with factoryDoc := none, ownDoc := none })
      (dropDoc (dropDoc docs (Row.entry row).factoryDoc) (Row.entry row).ownDoc)
    have pruned := ((prunes_dropDoc docs _).trans (prunes_dropDoc _ (Row.entry row).ownDoc)).trans released
    dsimp only
    split <;> exact pruned

theorem prunes_drop (t : EntryTable ρ) (id : Nat) (loc : Locality) (docs : DocumentTable) :
    docs.Prunes (t.drop id loc docs).2.1 := by
  rw [drop]
  cases t.row? id with
  | none => exact .refl docs
  | some row =>
    have released := Pruning.prunes_release (dropVersions (Row.entry row) loc).2.1
      (Row.withEntry row (dropVersions (Row.entry row) loc).1)
      ((dropVersions (Row.entry row) loc).2.2.foldl DocumentTable.delete docs)
    have pruned := (docs.prunes_foldl_delete (dropVersions (Row.entry row) loc).2.2).trans released
    dsimp only
    split
    · exact pruned
    · exact pruned.trans (prunes_removeRow _ _ _)

theorem prunes_dropWhere (p : Entry → DocumentTable → Bool) (loc : Locality) (t : EntryTable ρ) (docs : DocumentTable)
    (ids : List Nat) : docs.Prunes (dropWhere p loc t docs ids).2 := by
  induction ids generalizing t docs with
  | nil => exact .refl docs
  | cons id ids ih =>
    rw [dropWhere]
    split
    · exact (prunes_drop t id loc docs).trans (ih _ _)
    · exact ih t docs

end

/-- Whether versions are dropped from a row can depend on nothing but its flags. -/
theorem view_fst_dropWhere {p : Locality → Bool} (loc : Locality) (t : EntryTable ρ) (docs docs' : DocumentTable)
    (ids : List Nat) : (dropWhere (fun e _ => p e.locality) loc t docs' ids).1.view docs =
      TableView.dropWhere (fun e => p e.locality) loc (t.view docs) ids := by
  induction ids generalizing t docs' with
  | nil => rfl
  | cons id ids ih =>
    have same : ((t.view docs).entryAt? id).any (fun e => p e.locality) = (t.entryAt? id).any fun e => p e.locality := by
      rw [entryAt?_view, Option.any_map]
      rfl
    rw [dropWhere, TableView.dropWhere, same]
    split
    · rw [ih, view_fst_drop]
    · exact ih t docs'

theorem view_fst_dropAll (t : EntryTable ρ) (docs docs' : DocumentTable) (loc : Locality) :
    (t.dropAll loc docs').1.view docs = (t.view docs).dropAll loc := by
  rw [dropAll, TableView.dropAll, size_view]
  exact view_fst_dropWhere (p := fun flags => flags.meets loc) loc t docs docs' _

/-- A table of some kind with documents: what it names is there, and named once. -/
def Stocked (S : EntryTable ρ → Prop) (t : EntryTable ρ) (docs : DocumentTable) : Prop :=
  S t ∧ ∃ others, docs.Holding (t.held ++ others)

/-- What is of some kind and has its documents goes on so: when versions are dropped, when a new one is recorded for a row
that has one already or that is found by its identity, and when a row is added. -/
structure Lasting (loc : Locality) (S : EntryTable ρ → Prop) : Prop where
  drop : ∀ {t : EntryTable ρ} {docs}, t.Stocked S docs → ∀ id, (t.drop id loc docs).1.Stocked S (t.drop id loc docs).2.1
  register : ∀ {t : EntryTable ρ} {docs id doc others}, S t →
    (∃ docs v, t.tracked? docs loc id = some v) ∨ (∃ uuid, t.findUuid? uuid = some id) →
    docs.Holding ([doc] ++ t.held ++ others) →
      (t.register id doc loc docs).1.Stocked S (t.register id doc loc docs).2
  insert : ∀ {t : EntryTable ρ} {docs doc others}, S t → docs.Holding ([doc] ++ t.held ++ others) →
    (t.insert doc loc docs).1.Stocked S docs

/-- A table whose rows are sound goes on so. -/
theorem lasting_sound (source : loc.IsSource) : Lasting loc fun t : EntryTable ρ => t.Sound where
  drop {t docs} stocked id := by
    obtain ⟨h, others, holding⟩ := stocked
    have passes := passes_drop h id loc docs
    exact ⟨passes.sound, others, (passes.trades others holding).1⟩
  register {t docs id doc others} h found holding := by
    have here : t.Here id := by
      rcases found with ⟨docs, v, tracked⟩ | ⟨uuid, found⟩
      · exact h.here_of_tracked? source tracked
      · exact here_of_findUuid? found
    have passes := passes_register h source here doc docs
    exact ⟨passes.sound, others, (passes.trades others holding).1⟩
  insert {t docs doc others} h holding := by
    have passes := passes_insert h source doc docs
    exact ⟨passes.sound, others, (passes.trades others holding).1⟩

section
variable [Pruning ρ] {S : EntryTable ρ → Prop}

theorem view_drop (lasting : Lasting loc S) (h : t.Stocked S docs) (id : Nat) :
    (t.drop id loc docs).1.view (t.drop id loc docs).2.1 = (t.view docs).drop id loc := by
  obtain ⟨-, _, held⟩ := lasting.drop h id
  exact (view_prune (prunes_drop t id loc docs) held).trans (view_fst_drop t docs docs id loc)

theorem view_dropWhere {p : Entry → DocumentTable → Bool} {p' : EntryView → Bool} (same : ∀ e docs, p e docs = p' (e.view docs))
    (lasting : Lasting loc S) (h : t.Stocked S docs) (ids : List Nat) :
    (dropWhere p loc t docs ids).1.view (dropWhere p loc t docs ids).2 = TableView.dropWhere p' loc (t.view docs) ids := by
  induction ids generalizing t docs with
  | nil => rfl
  | cons id ids ih =>
    have meets : ((t.view docs).entryAt? id).any p' = (t.entryAt? id).any (p · docs) := by
      rw [entryAt?_view, Option.any_map]
      congr 1
      funext e
      exact (same e docs).symm
    rw [dropWhere, TableView.dropWhere, meets]
    split
    · rw [← view_drop lasting h]
      exact ih (lasting.drop h id)
    · exact ih h

theorem view_dropVanished (lasting : Lasting loc S) (h : t.Stocked S docs) :
    (t.dropVanished loc docs).1.view (t.dropVanished loc docs).2 = (t.view docs).dropVanished loc := by
  rw [dropVanished, TableView.dropVanished, size_view]
  refine view_dropWhere (fun e docs => ?_) lasting h _
  rw [Entry.view_locality, Entry.hasUnsavedOwn_view]

end

/-! ## New rows and new versions -/

theorem view_insert (t : EntryTable ρ) (docs : DocumentTable) (doc : Nat) (loc : Locality) :
    (t.insert doc loc docs).1.view docs = ((t.view docs).insert (docs.get doc) loc).1 ∧
      (t.insert doc loc docs).2 = ((t.view docs).insert (docs.get doc) loc).2 := by
  have place : (t.view docs).rows.findIdx? (fun row => (RowView.entry row).isTombstone) = t.findEntry? Entry.isTombstone :=
    findIdx?_view docs t.rows EntryView.isTombstone
  have new : Viewed.view docs (Row.ofEntry ((Entry.new loc doc).identify (docs.get doc)) : ρ) =
      RowView.ofEntry ((EntryView.new loc (docs.get doc)).identify (docs.get doc)) := by
    rw [Viewed.view_ofEntry, Entry.view_identify, Entry.view_new]
  rw [insert, TableView.insert, place]
  cases t.findEntry? Entry.isTombstone with
  | some id =>
    dsimp only
    rw [view_setRow, new]
    exact ⟨rfl, rfl⟩
  | none =>
    dsimp only
    rw [view, view, List.map_append, List.map_singleton, new, List.length_map]
    exact ⟨rfl, rfl⟩

/-- What is seen of the rows when a document is recorded. -/
theorem view_fst_register (t : EntryTable ρ) (id doc : Nat) (loc : Locality) (docs : DocumentTable) :
    (t.register id doc loc docs).1.view docs = (t.view docs).register id (docs.get doc) loc := by
  rw [register]
  cases entry : t.entryAt? id with
  | none =>
    refine (TableView.ext_row? fun other => ?_).symm
    rw [TableView.register, TableView.row?_modifyRow, row?_view]
    split
    · next same =>
      subst same
      rw [Option.map_eq_none_iff.1 entry]
      rfl
    · rfl
  | some e =>
    have registers {change : Entry → Entry} (same : (change e).view docs = (e.view docs).register (docs.get doc) loc) :
        (t.modifyEntry id change).view docs = (t.view docs).register id (docs.get doc) loc := by
      refine view_modifyEntry t docs id change (·.register (docs.get doc) loc) fun e' there => ?_
      rw [entry] at there
      obtain rfl := Option.some.inj there
      exact same
    dsimp only
    split
    · rename_i own
      refine registers ?_
      rw [EntryView.register, own]
      rfl
    · rename_i notOwn
      split
      · rename_i shadowed
        refine registers ?_
        rw [EntryView.register, if_neg notOwn, Entry.view_locality, if_pos shadowed]
        rfl
      · rename_i plain
        refine registers ?_
        rw [EntryView.register, if_neg notOwn, Entry.view_locality, if_neg plain]
        rfl

theorem view_register {doc : Nat}
    (held : (t.register id doc loc docs).2.Holding ((t.register id doc loc docs).1.held ++ others)) :
    (t.register id doc loc docs).1.view (t.register id doc loc docs).2 = (t.view docs).register id (docs.get doc) loc :=
  (view_prune (prunes_register t id doc loc docs) held).trans (view_fst_register t id doc loc docs)

/-! ## Directories -/

theorem tracked?_view (t : EntryTable ρ) (docs : DocumentTable) (loc : Locality) (id : Nat) :
    (t.view docs).tracked? loc id = (t.tracked? docs loc id).map fun v => ⟨docs.get v.doc, v.filename, v.fixed⟩ := by
  rw [TableView.tracked?, tracked?, entryAt?_view]
  cases t.entryAt? id with
  | none => rfl
  | some e =>
    simp only [Option.map_some, Option.bind_eq_bind, Option.bind_some, Entry.view_locality, Entry.version_view,
      Entry.hasUnsavedOwn_view]
    split
    · cases e.docFor loc with
      | none => rfl
      | some doc => rfl
    · rfl

/-- A document that is loaded is stored where nothing of a table is. -/
theorem load_stores (holding : docs.Holding (t.held ++ others)) {fs : FileSystem} {path : String} {fresh : Nat}
    (loaded : docs.load fs path = .ok (docs', fresh)) :
    ∃ d, Document.load fs path = .ok d ∧ docs'.get fresh = d ∧ t.view docs' = t.view docs ∧
      docs'.Holding ([fresh] ++ t.held ++ others) := by
  obtain ⟨d, read, inserted, stored⟩ := DocumentTable.load_eq_ok loaded
  obtain ⟨held, kept⟩ := stored _ holding
  have content := DocumentTable.get_insert holding d
  rw [← inserted] at content
  exact ⟨d, read, content, view_congr fun index member => kept index (List.mem_append_left _ member), held⟩

section
variable [Pruning ρ] {S : EntryTable ρ → Prop}

theorem view_dropMissing (lasting : Lasting loc S) (h : t.Stocked S docs) (files : List String) (ids : List Nat) :
    (dropMissing loc files t docs ids).1.Stocked S (dropMissing loc files t docs ids).2 ∧
      (dropMissing loc files t docs ids).1.view (dropMissing loc files t docs ids).2 =
        TableView.dropMissing loc files (t.view docs) ids := by
  induction ids generalizing t docs with
  | nil => exact ⟨h, rfl⟩
  | cons id ids ih =>
    have missing : (((t.view docs).tracked? loc id).any fun v => !files.contains v.filename && !v.fixed) =
        (t.tracked? docs loc id).any fun v => !files.contains v.filename && !v.fixed := by
      rw [tracked?_view, Option.any_map]
    rw [dropMissing, TableView.dropMissing, missing]
    split
    · rw [← view_drop lasting h]
      exact ih (lasting.drop h id)
    · exact ih h

theorem view_reloadChanged (lasting : Lasting loc S) (h : t.Stocked S docs) (fs : FileSystem) (dir : String)
    (files : List String) (ids : List Nat) :
    (reloadChanged fs dir loc files t docs ids).1.Stocked S (reloadChanged fs dir loc files t docs ids).2.1 ∧
      ((reloadChanged fs dir loc files t docs ids).1.view (reloadChanged fs dir loc files t docs ids).2.1,
        (reloadChanged fs dir loc files t docs ids).2.2) = TableView.reloadChanged fs dir loc files (t.view docs) ids := by
  induction ids generalizing t docs files with
  | nil => exact ⟨h, rfl⟩
  | cons id ids ih =>
    rw [reloadChanged, TableView.reloadChanged, tracked?_view]
    cases found : t.tracked? docs loc id with
    | none => exact ih h files
    | some v =>
      simp only [Option.map_some, Option.filter_some]
      cases files.contains v.filename with
      | false => exact ih h files
      | true =>
        simp only [if_true]
        split
        · cases loaded : docs.load fs (Path.join dir v.filename) with
          | ok result =>
            obtain ⟨docs₁, fresh⟩ := result
            obtain ⟨sound, others, holding⟩ := h
            obtain ⟨d, read, content, same, held⟩ := load_stores holding loaded
            obtain ⟨sound, _, held⟩ := lasting.register sound (.inl ⟨docs, v, found⟩) held
            rw [read]
            dsimp only
            rw [← content, ← same, ← view_register held]
            exact ih ⟨sound, _, held⟩ _
          | error fault =>
            rw [DocumentTable.load_eq_error loaded, ← view_drop lasting h]
            exact ih (lasting.drop h id) _
        · exact ih h _

omit [Pruning ρ] in
theorem view_addNew (lasting : Lasting loc S) (h : t.Stocked S docs) (fs : FileSystem) (dir : String) (files : List String) :
    (addNew fs dir loc t docs files).1.view (addNew fs dir loc t docs files).2 =
      TableView.addNew fs dir loc (t.view docs) files := by
  induction files generalizing t docs with
  | nil => rfl
  | cons filename files ih =>
    rw [addNew, TableView.addNew]
    cases loaded : docs.load fs (Path.join dir filename) with
    | error fault =>
      rw [DocumentTable.load_eq_error loaded]
      exact ih h
    | ok result =>
      obtain ⟨docs₁, fresh⟩ := result
      obtain ⟨sound, others, holding⟩ := h
      obtain ⟨d, read, content, same, held⟩ := load_stores holding loaded
      rw [read]
      dsimp only
      rw [content]
      have known : (d.rootString? "uuid").bind (t.view docs).findUuid? = (d.rootString? "uuid").bind t.findUuid? := by
        congr 1
        funext uuid
        exact findUuid?_view t docs uuid
      rw [known]
      cases found : (d.rootString? "uuid").bind t.findUuid? with
      | some id =>
        obtain ⟨uuid, -, there⟩ := Option.bind_eq_some_iff.1 found
        obtain ⟨sound, _, held⟩ := lasting.register sound (.inr ⟨uuid, there⟩) held
        dsimp only
        rw [← content, ← same, ← view_register held]
        exact ih ⟨sound, _, held⟩
      | none =>
        dsimp only
        rw [← content, ← same, ← (view_insert t docs₁ fresh loc).1]
        exact ih (lasting.insert sound held)

/-- What is seen when a table is brought in line with a directory. -/
theorem view_sync (lasting : Lasting loc S) (h : t.Stocked S docs) (fs : FileSystem) (dir extension : String) :
    (t.sync docs fs dir loc extension).1.view (t.sync docs fs dir loc extension).2 =
      (t.view docs).sync fs dir loc extension := by
  rw [sync, TableView.sync]
  split
  · generalize (listDir fs dir false fun name => hasExtension name ".plist" || hasExtension name extension) = files
    obtain ⟨dropped, seen⟩ := view_dropMissing lasting h files (List.range t.size)
    simp only [size_view]
    rw [← seen]
    generalize dropMissing loc files t docs (List.range t.size) = result at dropped
    obtain ⟨t₁, docs₁⟩ := result
    obtain ⟨reloaded, seen⟩ := view_reloadChanged lasting dropped fs dir files (List.range t₁.size)
    dsimp only
    rw [size_view, ← seen]
    exact view_addNew lasting reloaded fs dir _
  · exact view_dropVanished lasting h

end

end EntryTable

/-! ## Bundles -/

namespace PerKind

variable {α : Type}

theorem ext_get {p q : PerKind α} (same : ∀ kind, p.get kind = q.get kind) : p = q := by
  obtain ⟨a, b, c, d, e, f⟩ := p
  obtain ⟨a', b', c', d', e', f'⟩ := q
  obtain rfl : a = a' := same .language
  obtain rfl : b = b' := same .command
  obtain rfl : c = c' := same .snippet
  obtain rfl : d = d' := same .dragCommand
  obtain rfl : e = e' := same .preference
  obtain rfl : f = f' := same .keyMacro
  rfl

end PerKind

namespace Bundle

/-- What is seen of a bundle. -/
def view (docs : DocumentTable) (b : Bundle) : BundleView where
  entry := b.entry.view docs
  dirName := b.dirName
  items := b.items.map fun _ table => table.view docs

/-- What is seen of the items when versions are dropped from some kinds. -/
theorem view_dropItems {items : PerKind (EntryTable Entry)} {docs' : DocumentTable} (docs : DocumentTable) (loc : Locality)
    {kinds : List ItemKind} (once : kinds.Nodup) (kind : ItemKind) :
    ((dropItems loc items docs' kinds).1.get kind).view docs =
      if kind ∈ kinds then ((items.get kind).view docs).dropAll loc else (items.get kind).view docs := by
  induction kinds generalizing items docs' with
  | nil => rfl
  | cons first kinds ih =>
    obtain ⟨fresh, once⟩ := List.nodup_cons.1 once
    rw [dropItems]
    dsimp only
    rw [ih once]
    by_cases same : kind = first
    · subst same
      rw [if_neg fresh, if_pos List.mem_cons_self, PerKind.get_set_self, EntryTable.view_fst_dropAll]
    · rw [PerKind.get_set_of_ne items same]
      simp [same]

theorem prunes_dropItems (loc : Locality) (items : PerKind (EntryTable Entry)) (docs : DocumentTable) (kinds : List ItemKind) :
    docs.Prunes (dropItems loc items docs kinds).2 := by
  induction kinds generalizing items docs with
  | nil => exact .refl docs
  | cons kind kinds ih => exact (EntryTable.prunes_dropWhere _ loc _ docs _).trans (ih _ _)

instance : Pruning Bundle where
  prunes_release loc b docs := prunes_dropItems loc b.items docs ItemKind.all

instance : Viewed Bundle BundleView where
  view := view
  entry_view _ _ := rfl
  view_withEntry _ _ _ := rfl
  view_ofEntry _ _ := rfl
  view_congr {docs docs' b} same := by
    have entry : b.entry.view docs' = b.entry.view docs :=
      Entry.view_congr fun index member => same index (List.mem_append_left _ member)
    have items : (b.items.map fun _ table => table.view docs') = b.items.map fun _ table => table.view docs := by
      refine PerKind.ext_get fun kind => ?_
      rw [PerKind.get_map, PerKind.get_map]
      refine EntryTable.view_congr fun index member => same index (List.mem_append_right _ ?_)
      exact List.mem_flatMap.2 ⟨kind, ItemKind.mem_all kind, member⟩
    rw [view, view, entry, items]
  view_release docs loc b docs' := by
    have items : ((dropItems loc b.items docs' ItemKind.all).1.map fun _ table => table.view docs) =
        (b.items.map fun _ table => table.view docs).map fun _ (table : TableView EntryView) => table.dropAll loc := by
      refine PerKind.ext_get fun kind => ?_
      rw [PerKind.get_map, PerKind.get_map, PerKind.get_map, view_dropItems docs loc (by decide),
        if_pos (ItemKind.mem_all kind)]
    show view docs { b with items := (dropItems loc b.items docs' ItemKind.all).1 } = _
    rw [view, items]
    rfl

variable {t : EntryTable Bundle} {id : Nat} {b : Bundle} {docs docs' : DocumentTable} {kind : ItemKind}
  {table : EntryTable Entry} {others : List Nat}

/-- What a table of bundles holds besides the items of one kind in one of them. -/
theorem exists_held_besides (found : t.row? id = some b) (kind : ItemKind) :
    ∃ rest, t.held.Perm ((b.items.get kind).held ++ rest) ∧ (∀ index ∈ b.entry.held, index ∈ rest) ∧
      (∀ other, other ≠ kind → ∀ index ∈ (b.items.get other).held, index ∈ rest) ∧
      ∀ place row, place ≠ id → t.row? place = some row → ∀ index ∈ heldBy row, index ∈ rest := by
  obtain ⟨front, back, split, length, -⟩ := EntryTable.split_of_row? found
  obtain ⟨before, behind, kinds⟩ := List.append_of_mem (ItemKind.mem_all kind)
  refine ⟨b.entry.held ++ (heldIn b.items before ++ heldIn b.items behind) ++ (front.flatMap heldBy ++ back.flatMap heldBy),
    ?_, ?_, ?_, ?_⟩
  · have row : heldBy b = b.entry.held ++ (heldIn b.items before ++ ((b.items.get kind).held ++ heldIn b.items behind)) := by
      show b.entry.held ++ heldIn b.items ItemKind.all = _
      rw [kinds]
      simp [heldIn]
    rw [EntryTable.held, split, List.flatMap_append, List.flatMap_cons, row, List.perm_iff_count]
    intro index
    simp only [List.count_append]
    omega
  · intro index member
    simp [member]
  · intro other different index member
    have among : other ∈ before ++ kind :: behind := kinds ▸ ItemKind.mem_all other
    have there : index ∈ heldIn b.items before ++ heldIn b.items behind := by
      rcases List.mem_append.1 among with first | rest
      · exact List.mem_append_left _ (List.mem_flatMap.2 ⟨other, first, member⟩)
      · have last := (List.mem_cons.1 rest).resolve_left different
        exact List.mem_append_right _ (List.mem_flatMap.2 ⟨other, last, member⟩)
    exact List.mem_append_left _ (List.mem_append_right _ there)
  · intro place row different at_place index member
    have among : row ∈ front ++ back := by
      rw [EntryTable.row?, split] at at_place
      rcases Nat.lt_trichotomy place id with lt | rfl | gt
      · rw [List.getElem?_append_left (by omega)] at at_place
        exact List.mem_append_left _ (List.mem_of_getElem? at_place)
      · exact absurd rfl different
      · rw [List.getElem?_append_right (by omega), length, List.getElem?_cons, if_neg (by omega)] at at_place
        exact List.mem_append_right _ (List.mem_of_getElem? at_place)
    rw [← List.flatMap_append]
    exact List.mem_append_right _ (List.mem_flatMap.2 ⟨row, among, member⟩)

/-- What is done to the items of one kind is seen there alone. -/
theorem view_setItems (found : t.row? id = some b) (holding : docs.Holding (t.held ++ others))
    {after : List Nat} (trades : docs.Trades docs' (b.items.get kind).held after) :
    (t.setRow id { b with items := b.items.set kind table }).view docs' =
      (t.view docs).setRow id { b.view docs with items := (b.view docs).items.set kind (table.view docs') } := by
  obtain ⟨rest, perm, entry, items, rows⟩ := exists_held_besides found kind
  have held := holding.perm (perm.append_right others)
  rw [List.append_assoc] at held
  obtain ⟨-, kept⟩ := trades _ held
  replace kept (index : Nat) (member : index ∈ rest) : docs'.get index = docs.get index :=
    kept index (List.mem_append_left _ member)
  have row : view docs' { b with items := b.items.set kind table } =
      { b.view docs with items := (b.view docs).items.set kind (table.view docs') } := by
    have entry : b.entry.view docs' = b.entry.view docs := Entry.view_congr fun index member => kept index (entry index member)
    have items : ((b.items.set kind table).map fun _ table => table.view docs') =
        (b.view docs).items.set kind (table.view docs') := by
      refine PerKind.ext_get fun other => ?_
      rw [PerKind.get_map]
      by_cases same : other = kind
      · rw [same, PerKind.get_set_self, PerKind.get_set_self]
      · rw [PerKind.get_set_of_ne _ same, PerKind.get_set_of_ne _ same, view, PerKind.get_map]
        exact EntryTable.view_congr fun index member => kept index (items other same index member)
    rw [view, entry, items]
    rfl
  rw [EntryTable.view_setRow, EntryTable.view, EntryTable.view, TableView.setRow, TableView.setRow]
  congr 1
  refine List.ext_getElem? fun place => ?_
  rw [List.getElem?_set, List.getElem?_set, List.length_map, List.length_map]
  by_cases same : id = place
  · rw [if_pos same, if_pos same]
    split
    · exact congrArg some row
    · rfl
  · rw [if_neg same, if_neg same, List.getElem?_map, List.getElem?_map]
    refine Option.map_congr fun other at_place => ?_
    exact Viewed.view_congr fun index member => kept index (rows place other (Ne.symm same) at_place index member)

end Bundle

end EditorBundles.Catalog
