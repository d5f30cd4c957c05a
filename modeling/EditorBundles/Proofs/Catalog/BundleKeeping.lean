import EditorBundles.Catalog.Bundle
import EditorBundles.Proofs.Catalog.Keeping

/-!
# Bundles that keep their documents

A bundle holds the documents of its items. What the bundle drops is dropped from each of its tables, and
when all versions are dropped the tables hold nothing any more.
-/

namespace EditorBundles.Catalog
set_option autoImplicit false
open PropertyList

/-- A table from which all versions are dropped holds nothing. -/
theorem EntryTable.held_dropAll_all {ρ : Type} [Row ρ] [Keeper ρ] {t : EntryTable ρ} (h : t.Sound)
    (docs : DocumentTable) : (t.dropAll Locality.all docs).1.held = [] := by
  have meets (row : ρ) (_ : DocumentTable) (sound : RowSound row) :
      (Row.entry row).locality.meets Locality.all = true := by
    rcases sound.standing with live | rfl
    · have source := live.source
      simp only [Locality.hasSource, Bool.or_eq_true] at source
      rcases source with (pristine | own) | installed <;> simp [Locality.meets, Locality.all, *]
    · rw [Row.entry_ofEntry]
      rfl
  refine List.flatMap_eq_nil_iff.2 fun row member => ?_
  obtain ⟨id, found⟩ := List.mem_iff_getElem?.1 member
  rcases row?_dropWhere_all meets h docs _ found with nothing | ⟨late, still⟩
  · exact nothing
  · exact absurd (List.mem_range.2 (lt_of_row? still)) late

namespace Bundle

variable {items : PerKind (EntryTable Entry)} {docs docs' : DocumentTable} {kind : ItemKind} {table : EntryTable Entry}

/-- The documents that the items of some kinds hold. -/
def heldIn (items : PerKind (EntryTable Entry)) (kinds : List ItemKind) : List Nat :=
  kinds.flatMap fun kind => (items.get kind).held

/-- Putting another table for one kind leaves what the other kinds hold. -/
theorem heldIn_set {kinds : List ItemKind} (absent : kind ∉ kinds) :
    heldIn (items.set kind table) kinds = heldIn items kinds := by
  refine List.flatMap_congr fun other member => ?_
  have different : other ≠ kind := fun same => absent (same ▸ member)
  rw [PerKind.get_set_of_ne items different]

/-- Putting a table that holds the same leaves what all kinds hold. -/
theorem heldIn_set_same (same : table.held = (items.get kind).held) (kinds : List ItemKind) :
    heldIn (items.set kind table) kinds = heldIn items kinds := by
  refine List.flatMap_congr fun other _ => ?_
  by_cases at_kind : other = kind
  · rw [at_kind, PerKind.get_set_self, same]
  · rw [PerKind.get_set_of_ne items at_kind]

/-- What is done to the items of one kind, in all that a bundle holds. -/
theorem trades_set {taken : List Nat} (trades : docs.Trades docs' (taken ++ (items.get kind).held) table.held) :
    docs.Trades docs' (taken ++ heldIn items ItemKind.all) (heldIn (items.set kind table) ItemKind.all) := by
  obtain ⟨front, back, split⟩ := List.append_of_mem (ItemKind.mem_all kind)
  have once : (front ++ kind :: back).Nodup := split ▸ (by decide : ItemKind.all.Nodup)
  obtain ⟨-, rest, apart⟩ := List.nodup_append.1 once
  have before : kind ∉ front := fun member => apart kind member kind List.mem_cons_self rfl
  have behind : kind ∉ back := (List.nodup_cons.1 rest).1
  have parts (items : PerKind (EntryTable Entry)) :
      heldIn items ItemKind.all = heldIn items front ++ ((items.get kind).held ++ heldIn items back) := by
    rw [split]
    simp [heldIn]
  rw [parts, parts, heldIn_set before, heldIn_set behind, PerKind.get_set_self]
  refine ((trades.frame_left (heldIn items front)).frame (heldIn items back)).perm ?_ (.of_eq (List.append_assoc _ _ _))
  rw [List.append_assoc, List.append_assoc]
  exact List.perm_append_comm_assoc _ taken _

/-- All tables of items are sound. -/
def ItemsSound (items : PerKind (EntryTable Entry)) : Prop := ∀ kind, (items.get kind).Sound

theorem ItemsSound.set (h : ItemsSound items) (kind : ItemKind) (sound : table.Sound) : ItemsSound (items.set kind table) := by
  intro other
  by_cases same : other = kind
  · rw [same, PerKind.get_set_self]
    exact sound
  · rw [PerKind.get_set_of_ne items same]
    exact h other

/-- Versions are dropped from the items of some kinds, one kind after the other. -/
theorem dropItems_keeps (h : ItemsSound items) (loc : Locality) (docs : DocumentTable) (kinds : List ItemKind) :
    ItemsSound (dropItems loc items docs kinds).1 ∧
      docs.Trades (dropItems loc items docs kinds).2 (heldIn items ItemKind.all)
        (heldIn (dropItems loc items docs kinds).1 ItemKind.all) := by
  induction kinds generalizing items docs with
  | nil => exact ⟨h, .refl docs _⟩
  | cons kind kinds ih =>
    have dropped := EntryTable.passes_dropAll (h kind) loc docs
    obtain ⟨sound, trades⟩ := ih (h.set kind dropped.sound) ((items.get kind).dropAll loc docs).2
    exact ⟨sound, (trades_set dropped.trades).trans trades⟩

/-- When all versions are dropped from the items of some kinds, these hold nothing. -/
theorem heldIn_dropItems_all (h : ItemsSound items) (docs : DocumentTable) (kinds : List ItemKind) :
    ∀ kind, kind ∈ kinds ∨ (items.get kind).held = [] →
      ((dropItems Locality.all items docs kinds).1.get kind).held = [] := by
  induction kinds generalizing items docs with
  | nil =>
    intro kind empty
    exact empty.resolve_left List.not_mem_nil
  | cons first kinds ih =>
    intro kind empty
    have dropped := EntryTable.passes_dropAll (h first) Locality.all docs
    have nothing := EntryTable.held_dropAll_all (h first) docs
    refine ih (h.set first dropped.sound) ((items.get first).dropAll Locality.all docs).2 kind ?_
    by_cases same : kind = first
    · rw [same, PerKind.get_set_self]
      exact .inr nothing
    · rw [PerKind.get_set_of_ne items same]
      exact empty.imp_left fun member => (List.mem_cons.1 member).resolve_left same

instance : Keeper Bundle where
  inner b := heldIn b.items ItemKind.all
  Settled b := ItemsSound b.items
  inner_withEntry _ _ := rfl
  settled_withEntry _ _ h := h
  inner_ofEntry _ := rfl
  settled_ofEntry _ kind := by
    cases kind <;> exact EntryTable.sound_empty
  withEntry_ofEntry _ _ := rfl
  release loc b docs h := dropItems_keeps h loc docs ItemKind.all
  release_all b docs h := List.flatMap_eq_nil_iff.2 fun kind member =>
    heldIn_dropItems_all h docs ItemKind.all kind (.inl member)

variable {t : EntryTable Bundle} {id : Nat} {b : Bundle}

/-- An operation on the items of a bundle passes the documents on as the table of bundles does. -/
theorem passes_items (h : t.Sound) (found : t.row? id = some b) (here : b.entry.locality.deleted = false)
    {taken : List Nat} (passes : EntryTable.Passes taken (b.items.get kind) docs table docs') :
    EntryTable.Passes taken t docs (t.setRow id { b with items := b.items.set kind table }) docs' := by
  have sound := h.rows b (EntryTable.mem_of_row? found)
  have items : ItemsSound (b.items.set kind table) := ItemsSound.set sound.settled kind passes.sound
  refine ⟨h.setRow ⟨items, .inl (sound.live here)⟩ fun _ => here, EntryTable.trades_setRow found ?_⟩
  exact ((trades_set passes.trades).frame_left b.entry.held).perm (List.perm_append_comm_assoc _ _ _) (.refl _)

end Bundle

end EditorBundles.Catalog
