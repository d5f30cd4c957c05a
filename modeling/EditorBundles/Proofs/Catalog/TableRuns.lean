import EditorBundles.Proofs.Catalog.BundleKeeping
import EditorBundles.Proofs.Catalog.SyncKeeping

/-!
# Runs of a table

A table that starts empty and has its table of documents for itself goes through any operations. All the
while the flags of its rows say which documents they name, the documents of the rows are all that there are,
and none of them is named twice.
-/

namespace EditorBundles.Catalog
set_option autoImplicit false
open PropertyList

namespace EntryTable

section
variable {ρ : Type} [Row ρ]

/-- A table of entries and the table of their documents. -/
abbrev State (ρ : Type) : Type := EntryTable ρ × DocumentTable

/-- One operation on a table. A document that a row gets is stored at once before. -/
inductive Step : State ρ → State ρ → Prop where
  | insert {t : EntryTable ρ} {docs : DocumentTable} {loc : Locality} {d : Document} (source : loc.IsSource)
      (stored : d.isVacant = false) :
      Step (t, docs) ((t.insert (docs.insert d).2 loc (docs.insert d).1).1, (docs.insert d).1)
  | register {t : EntryTable ρ} {docs : DocumentTable} {loc : Locality} {id : Nat} {e : Entry} {d : Document}
      (source : loc.IsSource) (found : t.entryAt? id = some e) (here : e.isTombstone = false)
      (stored : d.isVacant = false) :
      Step (t, docs) (t.register id (docs.insert d).2 loc (docs.insert d).1)
  | edit {t t' : EntryTable ρ} {docs docs' : DocumentTable} {id own : Nat}
      (edited : t.editable? id docs = some (t', docs', own)) : Step (t, docs) (t', docs')
  | drop {t : EntryTable ρ} {docs : DocumentTable} (id : Nat) (loc : Locality) :
      Step (t, docs) ((t.drop id loc docs).1, (t.drop id loc docs).2.1)
  | dropAll {t : EntryTable ρ} {docs : DocumentTable} (loc : Locality) : Step (t, docs) (t.dropAll loc docs)
  | dropVanished {t : EntryTable ρ} {docs : DocumentTable} (loc : Locality) :
      Step (t, docs) (t.dropVanished loc docs)
  | delete {t t' : EntryTable ρ} {docs docs' : DocumentTable} {id : Nat} {dir : String} {fs fs' : FileSystem}
      (deleted : t.delete id dir docs fs = .ok (t', docs', fs')) : Step (t, docs) (t', docs')
  | restore {t : EntryTable ρ} {docs : DocumentTable} (id : Nat) : Step (t, docs) ((t.restore id).1, docs)
  | sync {t : EntryTable ρ} {docs : DocumentTable} {loc : Locality} (source : loc.IsSource) (fs : FileSystem)
      (dir extension : String) : Step (t, docs) (t.sync docs fs dir loc extension)

/-- A table after a run of operations from the empty table. In between the documents are written to. -/
inductive Run (step : State ρ → State ρ → Prop) : State ρ → Prop where
  | empty : Run step ({}, {})
  | step {s s' : State ρ} (run : Run step s) (next : step s s') : Run step s'
  | write {t : EntryTable ρ} {docs : DocumentTable} {index : Nat} {d : Document} (run : Run step (t, docs))
      (live : docs.isLive index = true) (stored : d.isVacant = false) : Run step (t, docs.set index d)

/-- What the rows of a table promise: an entry that is not gone has a version, and names the documents that its
flags say. An entry that is gone is nothing but its mark, and is not the last one. -/
structure Orderly (t : EntryTable ρ) : Prop where
  source : ∀ row ∈ t.rows, (Row.entry row).isTombstone = false → (Row.entry row).locality.hasSource = true
  own : ∀ row ∈ t.rows, (Row.entry row).locality.own = (Row.entry row).ownDoc.isSome
  factory : ∀ row ∈ t.rows, (Row.entry row).locality.isFactory = (Row.entry row).factoryDoc.isSome
  gone : ∀ row ∈ t.rows, (Row.entry row).isTombstone = true → Row.entry row = Entry.tombstone
  last : ∀ row, t.rows.getLast? = some row → (Row.entry row).isTombstone = false

end

variable {ρ : Type} [Row ρ] [Keeper ρ] {t t' : EntryTable ρ} {docs docs' : DocumentTable}

/-- A sound table that holds all documents of a table. -/
structure Keeping (t : EntryTable ρ) (docs : DocumentTable) : Prop where
  sound : t.Sound
  holding : docs.Holding t.held

theorem Sound.orderly (h : t.Sound) : t.Orderly where
  source row member here := ((h.rows row member).live here).source
  own row member := (h.rows row member).agrees.own
  factory row member := (h.rows row member).agrees.factory
  gone row member gone := by
    rw [(h.rows row member).eq_tombstone gone, Row.entry_ofEntry]
  last := h.last

/-- The documents that a table holds are all that there are, and it holds each once. -/
theorem Keeping.documents (h : t.Keeping docs) :
    t.held.Nodup ∧ (∀ index, index ∈ t.held ↔ docs.isLive index = true) ∧ docs.liveCount = t.held.length :=
  ⟨h.holding.nodup, fun _ => h.holding.mem_iff, h.holding.liveCount_eq⟩

theorem keeping_empty : Keeping ({} : EntryTable ρ) {} := ⟨sound_empty, DocumentTable.holding_empty⟩

/-- What passes on all documents leaves a table with all documents. -/
theorem Passes.keeping {taken : List Nat} (h : Passes taken t docs t' docs') (holding : docs.Holding (taken ++ t.held)) :
    t'.Keeping docs' := by
  obtain ⟨holding', -⟩ := h.trades [] (by rwa [List.append_nil])
  rw [List.append_nil] at holding'
  exact ⟨h.sound, holding'⟩

/-- An operation on a table leaves it sound with all the documents that it needs. -/
theorem Step.passes {s s' : State ρ} (step : Step s s') (h : s.1.Sound) : Passes [] s.1 s.2 s'.1 s'.2 := by
  cases step with
  | @insert t docs loc d source stored =>
    exact (passes_insert h source (docs.insert d).2 (docs.insert d).1).after_store (docs.trades_insert stored)
  | @register t docs loc id e d source found here stored =>
    have passes := passes_register h source ⟨e, found, here⟩ (docs.insert d).2 (docs.insert d).1
    exact passes.after_store (docs.trades_insert stored)
  | edit edited => exact passes_editable? h edited
  | drop id loc => exact passes_drop h id loc _
  | dropAll loc => exact passes_dropAll h loc _
  | dropVanished loc => exact passes_dropVanished h loc _
  | delete deleted => exact passes_delete h deleted
  | restore id => exact passes_restore h id _
  | sync source fs dir extension => exact passes_sync h source _ fs dir extension

/-- Over a run of operations that pass the documents on, a table is sound and has all documents. -/
theorem Run.keeping {step : State ρ → State ρ → Prop} {s : State ρ} (run : Run step s)
    (passes : ∀ s s', step s s' → s.1.Sound → Passes [] s.1 s.2 s'.1 s'.2) : s.1.Keeping s.2 := by
  induction run with
  | empty => exact keeping_empty
  | step _ next ih => exact (passes _ _ next ih.sound).keeping ih.holding
  | write _ live stored ih =>
    have same := stored.trans (ih.holding.stored _ (ih.holding.mem_iff.2 live)).symm
    exact ⟨ih.sound, ih.holding.rewrite (DocumentTable.rewrites_set _ same)⟩

end EntryTable

namespace Bundle
open EntryTable (State Run Passes)

/-- One operation on a table of bundles, or on the items of a bundle that is not gone. -/
inductive Step : State Bundle → State Bundle → Prop where
  | table {s s' : State Bundle} (step : EntryTable.Step s s') : Step s s'
  | items {t : EntryTable Bundle} {docs docs' : DocumentTable} {id : Nat} {b : Bundle} {kind : ItemKind}
      {table : EntryTable Entry} (found : t.row? id = some b) (here : b.entry.isTombstone = false)
      (step : EntryTable.Step (b.items.get kind, docs) (table, docs')) :
      Step (t, docs) (t.setRow id { b with items := b.items.set kind table }, docs')

theorem Step.passes {s s' : State Bundle} (step : Step s s') (h : s.1.Sound) : Passes [] s.1 s.2 s'.1 s'.2 := by
  cases step with
  | table step => exact step.passes h
  | items found here step =>
    exact passes_items h found here (step.passes ((h.rows _ (EntryTable.mem_of_row? found)).settled _))

end Bundle

namespace EntryTable

/-- Over every run of a table of themes or items its rows are in order, and the documents that they name are all
that there are, each named once; so it is with a table of bundles and all that is in them. -/
theorem orderly_of_run :
    (∀ {t : EntryTable Entry} {docs : DocumentTable}, Run Step (t, docs) → t.Orderly ∧ t.held.Nodup ∧
      (∀ index, index ∈ t.held ↔ docs.isLive index = true) ∧ docs.liveCount = t.held.length) ∧
    ∀ {t : EntryTable Bundle} {docs : DocumentTable}, Run Bundle.Step (t, docs) →
      (t.Orderly ∧ ∀ b ∈ t.rows, ∀ kind, (b.items.get kind).Orderly) ∧ t.held.Nodup ∧
        (∀ index, index ∈ t.held ↔ docs.isLive index = true) ∧ docs.liveCount = t.held.length := by
  constructor
  · intro t docs run
    have keeping := run.keeping fun _ _ step => step.passes
    exact ⟨keeping.sound.orderly, keeping.documents⟩
  · intro t docs run
    have keeping := run.keeping fun _ _ step => step.passes
    refine ⟨⟨keeping.sound.orderly, fun b member kind => ?_⟩, keeping.documents⟩
    exact Sound.orderly ((keeping.sound.rows b member).settled kind)

/-- A theme that came with the editor and was edited, and a bundle with a snippet that was edited. -/
theorem orderly_of_run_edited :
    (∃ (t : EntryTable Entry) (docs : DocumentTable), Run Step (t, docs) ∧ t.held = [0, 1] ∧ docs.liveCount = 2) ∧
    ∃ (t : EntryTable Bundle) (docs : DocumentTable), Run Bundle.Step (t, docs) ∧ t.held = [0, 1, 2] ∧
      docs.liveCount = 3 := by
  constructor
  · have added : Run Step (_, _) := .step (.empty : Run (Step (ρ := Entry)) _) (.insert .pristine (d := .new) rfl)
    obtain ⟨t, docs, run, held⟩ : ∃ (t : EntryTable Entry) (docs : DocumentTable), Run Step (t, docs) ∧
        t.held = [0, 1] := ⟨_, _, .step added (@Step.edit _ _ _ _ _ _ 0 _ rfl), rfl⟩
    refine ⟨t, docs, run, held, ?_⟩
    rw [(orderly_of_run.1 run).2.2.2, held]
    rfl
  · have added : Run Bundle.Step (_, _) := .step .empty (.table (.insert .pristine (d := .new) rfl))
    have withSnippet : Run Bundle.Step (_, _) :=
      .step added (@Bundle.Step.items _ _ _ 0 _ .snippet _ rfl rfl (.insert .pristine (d := .new) rfl))
    obtain ⟨t, docs, run, held⟩ : ∃ (t : EntryTable Bundle) (docs : DocumentTable), Run Bundle.Step (t, docs) ∧
        t.held = [0, 1, 2] :=
      ⟨_, _, .step withSnippet (@Bundle.Step.items _ _ _ 0 _ .snippet _ rfl rfl (@EntryTable.Step.edit _ _ _ _ _ _ 0 _ rfl)), rfl⟩
    refine ⟨t, docs, run, held, ?_⟩
    rw [(orderly_of_run.2 run).2.2.2, held]
    rfl

end EntryTable

end EditorBundles.Catalog
