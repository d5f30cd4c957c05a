import EditorBundles.Proofs.Catalog.Held

/-!
# Tables that keep their documents

A table of entries is sound if each of its rows is live or stands for one that is gone, and the last row is
not gone. Its operations keep it so and neither lose nor share a document: `Passes` says that the documents
that the table held, with those that an operation was given, are just those that the table holds afterwards
once the others have been deleted.
-/

namespace EditorBundles.Catalog
set_option autoImplicit false
open PropertyList

/-- Rows that hold documents in tables of their own, too: `inner` are these documents, and `Settled` says that
the tables are in order. -/
class Keeper (ρ : Type) [Row ρ] where
  inner : ρ → List Nat
  Settled : ρ → Prop
  inner_withEntry : ∀ (row : ρ) e, inner (Row.withEntry row e) = inner row
  settled_withEntry : ∀ (row : ρ) e, Settled row → Settled (Row.withEntry row e)
  inner_ofEntry : ∀ e, inner (Row.ofEntry e) = []
  settled_ofEntry : ∀ e, Settled (Row.ofEntry e)
  withEntry_ofEntry : ∀ e e', Row.withEntry (Row.ofEntry e : ρ) e' = Row.ofEntry e'
  release : ∀ loc row docs, Settled row → Settled (Row.release loc row docs).1 ∧
    docs.Trades (Row.release loc row docs).2 (inner row) (inner (Row.release loc row docs).1)
  release_all : ∀ row docs, Settled row → inner (Row.release Locality.all row docs).1 = []

attribute [simp] Keeper.inner_withEntry Keeper.inner_ofEntry

instance : Keeper Entry where
  inner _ := []
  Settled _ := True
  inner_withEntry _ _ := rfl
  settled_withEntry _ _ _ := trivial
  inner_ofEntry _ := rfl
  settled_ofEntry _ := trivial
  withEntry_ofEntry _ _ := rfl
  release _ _ docs _ := ⟨trivial, .refl docs []⟩
  release_all _ _ _ := rfl

section
variable {ρ : Type} [Row ρ] [Keeper ρ]

/-- The documents that a row holds. -/
def heldBy (row : ρ) : List Nat := (Row.entry row).held ++ Keeper.inner row

/-- A row is live, or it stands for one that is gone. -/
structure RowSound (row : ρ) : Prop where
  settled : Keeper.Settled row
  standing : (Row.entry row).Live ∨ row = Row.ofEntry Entry.tombstone

theorem heldBy_tombstone : heldBy (Row.ofEntry Entry.tombstone : ρ) = [] := by
  simp [heldBy, Entry.held_tombstone]

theorem rowSound_tombstone : RowSound (Row.ofEntry Entry.tombstone : ρ) := ⟨Keeper.settled_ofEntry _, .inr rfl⟩

namespace RowSound

variable {row : ρ}

theorem live (h : RowSound row) (here : (Row.entry row).locality.deleted = false) : (Row.entry row).Live := by
  refine h.standing.resolve_right fun gone => ?_
  rw [gone, Row.entry_ofEntry] at here
  exact Bool.noConfusion here

/-- A row with a version is live. -/
theorem live_of_hasSource (h : RowSound row) (source : (Row.entry row).locality.hasSource = true) :
    (Row.entry row).Live := by
  refine h.standing.resolve_right fun gone => ?_
  rw [gone, Row.entry_ofEntry] at source
  exact Bool.noConfusion source

/-- A row that is gone is nothing but its mark. -/
theorem eq_tombstone (h : RowSound row) (gone : (Row.entry row).locality.deleted = true) :
    row = Row.ofEntry Entry.tombstone := by
  refine h.standing.resolve_left fun live => ?_
  rw [live.here] at gone
  exact Bool.noConfusion gone

/-- The flags of a row say which documents its entry names, whether it is gone or not. -/
theorem agrees (h : RowSound row) : (Row.entry row).Agrees := by
  rcases h.standing with live | rfl
  · exact live.toAgrees
  · rw [Row.entry_ofEntry]
    exact ⟨rfl, rfl⟩

/-- A row that is marked as unchanged, whether it is gone or not. -/
theorem unmark (h : RowSound row) : RowSound (Row.withEntry row { Row.entry row with modified := false }) := by
  refine ⟨Keeper.settled_withEntry row _ h.settled, ?_⟩
  rcases h.standing with live | rfl
  · rw [Row.entry_withEntry]
    exact .inl (live.congr rfl rfl rfl rfl rfl)
  · rw [Row.entry_ofEntry, Keeper.withEntry_ofEntry]
    exact .inr rfl

end RowSound

theorem heldBy_withEntry (row : ρ) (e : Entry) : heldBy (Row.withEntry row e) = e.held ++ Keeper.inner row := by
  simp [heldBy]

end

namespace EntryTable

section
variable {ρ : Type} {t : EntryTable ρ} {id : Nat} {row : ρ}

/-- A row is where it is among the others. -/
theorem split_of_row? (found : t.row? id = some row) : ∃ front back, t.rows = front ++ row :: back ∧
    front.length = id ∧ ∀ row', (t.setRow id row').rows = front ++ row' :: back := by
  obtain ⟨bound, rfl⟩ := List.getElem?_eq_some_iff.1 found
  refine ⟨t.rows.take id, t.rows.drop (id + 1), ?_, ?_, fun row' => ?_⟩
  · rw [List.getElem_cons_drop, List.take_append_drop]
  · exact List.length_take_of_le (Nat.le_of_lt bound)
  · exact List.set_eq_take_append_cons_drop.trans (if_pos bound)

theorem lt_of_row? (found : t.row? id = some row) : id < t.size := (List.getElem?_eq_some_iff.1 found).1

theorem mem_of_row? (found : t.row? id = some row) : row ∈ t.rows := List.mem_of_getElem? found

/-- A row that was just put somewhere is the one that is read there. -/
theorem row?_setRow_self (bound : id < t.size) (row : ρ) : (t.setRow id row).row? id = some row :=
  List.getElem?_set_self bound

/-- Changing a row puts it as it is changed in its place. -/
theorem modify_eq (found : t.row? id = some row) (change : ρ → ρ) :
    (⟨t.rows.modify id change⟩ : EntryTable ρ) = t.setRow id (change row) := by
  have at_id : t.rows[id]? = some row := found
  simp [EntryTable.setRow, List.modify_eq_set_getElem?, at_id]

end

variable {ρ : Type} [Row ρ] [Keeper ρ]

/-- The documents that a table holds. -/
def held (t : EntryTable ρ) : List Nat := t.rows.flatMap heldBy

/-- A table whose rows are live or gone, the last one live. -/
structure Sound (t : EntryTable ρ) : Prop where
  rows : ∀ row ∈ t.rows, RowSound row
  last : ∀ row, t.rows.getLast? = some row → (Row.entry row).locality.deleted = false

/-- An operation that is given the documents `taken` leaves a sound table with all the documents that it
needs, and with no others. -/
structure Passes (taken : List Nat) (t : EntryTable ρ) (docs : DocumentTable) (t' : EntryTable ρ)
    (docs' : DocumentTable) : Prop where
  sound : t'.Sound
  trades : docs.Trades docs' (taken ++ t.held) t'.held

variable {t t' t'' : EntryTable ρ} {docs docs' docs'' : DocumentTable} {id doc : Nat} {row row' : ρ}
  {taken : List Nat} {loc : Locality} {e : Entry}

theorem Passes.refl (h : t.Sound) (docs : DocumentTable) : Passes [] t docs t docs := ⟨h, .refl docs _⟩

theorem Passes.trans (first : Passes taken t docs t' docs') (second : Passes [] t' docs' t'' docs'') :
    Passes taken t docs t'' docs'' := ⟨second.sound, first.trades.trans second.trades⟩

theorem sound_empty : Sound ({} : EntryTable ρ) := ⟨fun _ member => absurd member List.not_mem_nil, fun _ last => by cases last⟩

/-! ## One row of a table -/

/-- What is done to one row, in the table. -/
theorem trades_setRow (found : t.row? id = some row) (trades : docs.Trades docs' (taken ++ heldBy row) (heldBy row')) :
    docs.Trades docs' (taken ++ t.held) (t.setRow id row').held := by
  obtain ⟨front, back, split, -, set⟩ := split_of_row? found
  rw [held, held, split, set]
  simp only [List.flatMap_append, List.flatMap_cons]
  generalize front.flatMap heldBy = before
  generalize back.flatMap heldBy = behind
  refine ((trades.frame_left before).frame behind).perm ?_ ?_
  · rw [List.append_assoc, List.append_assoc]
    exact List.perm_append_comm_assoc before taken _
  · rw [List.append_assoc]

/-- A row that is put in the place of another. -/
theorem Sound.setRow (h : t.Sound) (new : RowSound row')
    (last : id + 1 = t.size → (Row.entry row').locality.deleted = false) : (t.setRow id row').Sound where
  rows other member := by
    rcases List.mem_or_eq_of_mem_set member with old | rfl
    · exact h.rows other old
    · exact new
  last other atEnd := by
    rw [List.getLast?_eq_getElem?] at atEnd
    have bound : (t.setRow id row').rows.length - 1 < (t.setRow id row').rows.length :=
      (List.getElem?_eq_some_iff.1 atEnd).1
    have size : (t.setRow id row').rows.length = t.size := size_setRow t id row'
    by_cases here : id + 1 = t.size
    · have put : (t.setRow id row').row? id = some row' := row?_setRow_self (by omega) row'
      rw [size, show t.size - 1 = id by omega] at atEnd
      obtain rfl := Option.some.inj (put.symm.trans atEnd)
      exact last here
    · have kept := row?_setRow_of_ne t (show t.size - 1 ≠ id by omega) row'
      rw [size] at atEnd
      refine h.last other ?_
      rw [List.getLast?_eq_getElem?]
      exact kept.symm.trans atEnd

omit [Keeper ρ] in
/-- Changing an entry puts its row with the changed entry in its place. -/
theorem modifyEntry_eq (found : t.row? id = some row) (change : Entry → Entry) :
    t.modifyEntry id change = t.setRow id (Row.withEntry row (change (Row.entry row))) := modify_eq found _

/-- The row with a number is there and not gone. -/
def Here (t : EntryTable ρ) (id : Nat) : Prop := ∃ e, t.entryAt? id = some e ∧ e.locality.deleted = false

omit [Keeper ρ] in
theorem here_of_row? (found : t.row? id = some row) (here : (Row.entry row).locality.deleted = false) : t.Here id :=
  ⟨Row.entry row, congrArg (Option.map Row.entry) found, here⟩

omit [Keeper ρ] in
theorem here_setRow (bound : id < t.size) (here : (Row.entry row').locality.deleted = false) : (t.setRow id row').Here id :=
  here_of_row? (row?_setRow_self bound row') here

omit [Keeper ρ] in
/-- A row with the same entry in the place of another leaves all entries as they are. -/
theorem entryAt?_setRow (found : t.row? id = some row) (same : Row.entry row' = Row.entry row) (other : Nat) :
    (t.setRow id row').entryAt? other = t.entryAt? other := by
  by_cases at_id : other = id
  · rw [at_id, entryAt?, entryAt?, row?_setRow_self (lt_of_row? found), found, Option.map_some, same, Option.map_some]
  · rw [entryAt?, entryAt?, row?_setRow_of_ne t at_id]

omit [Keeper ρ] in
theorem here_modify (found : t.row? id = some row) (change : ρ → ρ)
    (here : (Row.entry (change row)).locality.deleted = false) : Here ⟨t.rows.modify id change⟩ id := by
  rw [modify_eq found]
  exact here_setRow (lt_of_row? found) here

omit [Keeper ρ] in
theorem row?_of_entryAt? (found : t.entryAt? id = some e) : ∃ row, t.row? id = some row ∧ Row.entry row = e :=
  Option.map_eq_some_iff.1 found

omit [Keeper ρ] in
theorem Here.exists_row (here : t.Here id) : ∃ row, t.row? id = some row ∧ (Row.entry row).locality.deleted = false := by
  obtain ⟨e, found, here⟩ := here
  obtain ⟨row, place, rfl⟩ := row?_of_entryAt? found
  exact ⟨row, place, here⟩

/-- A row is changed that holds the same documents afterwards. -/
theorem passes_modify (h : t.Sound) (id : Nat) (change : ρ → ρ) (docs : DocumentTable)
    (keeps : ∀ row, t.row? id = some row → RowSound row → RowSound (change row) ∧ heldBy (change row) = heldBy row ∧
      (Row.entry (change row)).locality.deleted = (Row.entry row).locality.deleted) :
    Passes [] t docs ⟨t.rows.modify id change⟩ docs := by
  cases found : t.row? id with
  | none =>
    have absent : t.rows[id]? = none := found
    have same : t.rows.modify id change = t.rows := by simp [List.modify_eq_set_getElem?, absent]
    rw [same]
    exact .refl h docs
  | some row =>
    obtain ⟨sound, held, deleted⟩ := keeps row found (h.rows row (mem_of_row? found))
    rw [modify_eq found]
    refine ⟨h.setRow sound fun last => deleted.trans (h.last row ?_), trades_setRow found (held ▸ .refl docs _)⟩
    rw [List.getLast?_eq_getElem?, show t.rows.length - 1 = id from Nat.sub_eq_of_eq_add last.symm]
    exact found

/-- A live entry is changed into another. -/
theorem passes_modifyEntry (h : t.Sound) (found : t.row? id = some row) {change : Entry → Entry}
    (live : (change (Row.entry row)).Live)
    (trades : docs.Trades docs' (taken ++ (Row.entry row).held) (change (Row.entry row)).held) :
    Passes taken t docs (t.modifyEntry id change) docs' := by
  rw [modifyEntry_eq found]
  have sound := h.rows row (mem_of_row? found)
  constructor
  · refine h.setRow ⟨Keeper.settled_withEntry _ _ sound.settled, .inl ?_⟩ fun _ => ?_
    · rwa [Row.entry_withEntry]
    · rw [Row.entry_withEntry]
      exact live.here
  · refine trades_setRow found ?_
    rw [heldBy_withEntry, heldBy, ← List.append_assoc]
    exact trades.frame _

/-- A live row is marked as changed. -/
theorem passes_mark (h : t.Sound) (here : t.Here id) (docs : DocumentTable) :
    Passes [] t docs (t.modifyEntry id fun e => { e with modified := true }) docs := by
  obtain ⟨row, place, here⟩ := here.exists_row
  have live := (h.rows row (mem_of_row? place)).live here
  exact passes_modifyEntry h place (live.congr rfl rfl rfl rfl rfl) (.refl docs _)

/-- A row is marked as unchanged. -/
theorem passes_unmark (h : t.Sound) (id : Nat) (docs : DocumentTable) :
    Passes [] t docs (t.modifyEntry id fun e => { e with modified := false }) docs := by
  refine passes_modify h id _ docs fun row _ sound => ⟨sound.unmark, ?_, ?_⟩
  · rw [heldBy_withEntry]
    rfl
  · rw [Row.entry_withEntry]

/-- Changing an entry that names the same documents afterwards changes nothing in what a table holds. -/
theorem held_modifyEntry (t : EntryTable ρ) (id : Nat) {change : Entry → Entry} (same : ∀ e, (change e).held = e.held) :
    (t.modifyEntry id change).held = t.held := by
  cases found : t.row? id with
  | none =>
    have absent : t.rows[id]? = none := found
    simp [modifyEntry, List.modify_eq_set_getElem?, absent]
  | some row =>
    obtain ⟨front, back, split, -, set⟩ := split_of_row? found
    have row_same : heldBy (Row.withEntry row (change (Row.entry row))) = heldBy row := by
      rw [heldBy_withEntry, same, heldBy]
    rw [modifyEntry_eq found, held, held, set, split, List.flatMap_append, List.flatMap_append, List.flatMap_cons,
      List.flatMap_cons, row_same]

/-! ## New rows and new versions -/

theorem trades_dropDoc (docs : DocumentTable) (doc : Option Nat) : docs.Trades (dropDoc docs doc) doc.toList [] := by
  cases doc with
  | none => exact .refl docs []
  | some doc => exact docs.trades_delete doc

theorem passes_insert (h : t.Sound) (source : loc.IsSource) (doc : Nat) (docs : DocumentTable) :
    Passes [doc] t docs (t.insert doc loc docs).1 docs := by
  have live := (Entry.live_new source doc).identify (docs.get doc)
  have new : RowSound (Row.ofEntry ((Entry.new loc doc).identify (docs.get doc)) : ρ) :=
    ⟨Keeper.settled_ofEntry _, .inl (by rwa [Row.entry_ofEntry])⟩
  have holds : heldBy (Row.ofEntry ((Entry.new loc doc).identify (docs.get doc)) : ρ) = [doc] := by
    simp [heldBy, Entry.held_new]
  rw [insert]
  cases place : t.findEntry? Entry.isTombstone with
  | some id =>
    -- the row that is gone holds nothing
    obtain ⟨bound, gone, -⟩ := List.findIdx?_eq_some_iff_getElem.1 place
    have found : t.row? id = some t.rows[id] := List.getElem?_eq_getElem bound
    have empty := (h.rows _ (mem_of_row? found)).eq_tombstone gone
    refine ⟨h.setRow new fun _ => ?_, trades_setRow found ?_⟩
    · rw [Row.entry_ofEntry]
      exact live.here
    · rw [empty, heldBy_tombstone, holds]
      exact .refl docs _
  | none =>
    refine ⟨⟨fun row member => ?_, fun row last => ?_⟩, ?_⟩
    · rcases List.mem_append.1 member with old | last
      · exact h.rows row old
      · exact List.mem_singleton.1 last ▸ new
    · rw [List.getLast?_concat, Option.some.injEq] at last
      rw [← last, Row.entry_ofEntry]
      exact live.here
    · rw [held, held, List.flatMap_append, List.flatMap_singleton, holds]
      exact (DocumentTable.Trades.refl docs _).perm List.perm_append_comm (.refl _)

omit [Keeper ρ] in
/-- A new row is there. -/
theorem here_insert (t : EntryTable ρ) (source : loc.IsSource) (doc : Nat) (docs : DocumentTable) :
    (t.insert doc loc docs).1.Here (t.insert doc loc docs).2 := by
  refine ⟨(Entry.new loc doc).identify (docs.get doc), ?_, (Entry.live_new source doc).here⟩
  rw [insert]
  cases place : t.findEntry? Entry.isTombstone with
  | some id =>
    obtain ⟨bound, -, -⟩ := List.findIdx?_eq_some_iff_getElem.1 place
    simp only [entryAt?, row?_setRow_self (show id < t.size from bound), Option.map_some, Row.entry_ofEntry]
  | none => simp [entryAt?, row?]

omit [Keeper ρ] in
/-- A row that gets a version stays where it is. -/
theorem here_register (here : t.Here id) (source : loc.IsSource) (doc : Nat) (docs : DocumentTable) :
    (t.register id doc loc docs).1.Here id := by
  obtain ⟨e, found, here⟩ := here
  have still : (e.locality.union loc).deleted = false := by
    cases source <;> simp [Locality.union, here]
  rw [register, found]
  dsimp only
  split
  · exact ⟨_, by rw [entryAt?_modifyEntry_self, found, Option.map_some], still⟩
  · split <;> exact ⟨_, by rw [entryAt?_modifyEntry_self, found, Option.map_some], still⟩

/-- A version of a live row is recorded, and the one that it replaces is deleted. -/
theorem passes_register (h : t.Sound) (source : loc.IsSource) (here : t.Here id) (doc : Nat) (docs : DocumentTable) :
    Passes [doc] t docs (t.register id doc loc docs).1 (t.register id doc loc docs).2 := by
  obtain ⟨row, place, here⟩ := here.exists_row
  have found : t.entryAt? id = some (Row.entry row) := congrArg (Option.map Row.entry) place
  have live := (h.rows row (mem_of_row? place)).live here
  -- a factory document replaces the one that was there, whatever its version
  have factory (flags : Locality) (isFactory : flags.isFactory = true) (own : flags.own = (Row.entry row).locality.own)
      (still : flags.deleted = false) :
      Passes [doc] t docs
        (t.modifyEntry id fun e => { e with factoryDoc := some doc, locality := flags }.identify (docs.get doc))
        (dropDoc docs (Row.entry row).factoryDoc) := by
    refine passes_modifyEntry h place (Entry.Live.identify ⟨⟨?_, isFactory⟩, still, ?_⟩ _) ?_
    · exact own.trans live.own
    · simp only [Locality.isFactory, Bool.or_eq_true] at isFactory
      simp only [Locality.hasSource, Bool.or_eq_true]
      exact isFactory.imp_left .inl
    · rw [Entry.held_identify]
      refine ((trades_dropDoc docs _).frame ([doc] ++ (Row.entry row).ownDoc.toList)).perm ?_ (.refl _)
      exact List.perm_append_comm_assoc _ [doc] _
  cases source with
  | pristine =>
    rw [register, found]
    simp only [Bool.false_eq_true, if_false, true_and]
    split
    · rename_i installed
      dsimp only
      refine passes_modifyEntry h place ?_ ?_
      · refine live.congr (Bool.or_false _) ?_ (Bool.or_false _) rfl rfl
        simp [Locality.union, Locality.isFactory, installed]
      · exact (docs.trades_delete doc).frame _
    · refine factory _ ?_ ?_ ?_ <;> simp [Locality.union, Locality.isFactory, here]
  | installed =>
    rw [register, found]
    simp only [Bool.false_eq_true, if_false]
    rw [if_neg (by simp)]
    refine factory _ ?_ ?_ ?_ <;> simp [Locality.union, Locality.isFactory, here]
  | own =>
    rw [register, found]
    simp only [if_true]
    refine passes_modifyEntry h place (Entry.Live.identify ⟨⟨?_, ?_⟩, ?_, ?_⟩ _) ?_
    · simp [Locality.union]
    · simpa [Locality.union, Locality.isFactory] using live.factory
    · simpa [Locality.union] using here
    · simp [Locality.union, Locality.hasSource]
    · rw [Entry.held_identify]
      refine ((trades_dropDoc docs _).frame ((Row.entry row).factoryDoc.toList ++ [doc])).perm ?_ (.refl _)
      simp only [Entry.held, List.perm_iff_count, List.count_append]
      intro other
      omega

omit [Keeper ρ] in
/-- A version of the user's own is there, or it is made as a copy of the factory version. -/
theorem editable?_cases {own : Nat} (edited : t.editable? id docs = some (t', docs', own)) :
    ∃ e, t.entryAt? id = some e ∧
      ((e.locality.own = true ∧ e.ownDoc = some own ∧ t' = t ∧ docs' = docs) ∨
        ∃ source, e.factoryDoc = some source ∧ docs.copy source = (docs', own) ∧
          t' = t.modifyEntry id fun e => { e with ownDoc := some own, locality := { e.locality with own := true } }) := by
  obtain ⟨e, found, edited⟩ := Option.bind_eq_some_iff.1 edited
  refine ⟨e, found, ?_⟩
  split at edited
  · rename_i there
    obtain ⟨rfl, rfl, rfl⟩ := Option.some.inj edited
    split at there
    · exact .inl ⟨‹_›, there, rfl, rfl⟩
    · cases there
  · obtain ⟨source, named, edited⟩ := Option.bind_eq_some_iff.1 edited
    split at edited
    · obtain ⟨rfl, rfl, rfl⟩ := Option.some.inj edited
      exact .inr ⟨source, named, rfl, rfl⟩
    · cases edited

omit [Keeper ρ] in
/-- Where there is a version of the user's own, nothing is made. -/
theorem editable?_again {own : Nat} (found : t.entryAt? id = some e) (flag : e.locality.own = true)
    (named : e.ownDoc = some own) (docs : DocumentTable) : t.editable? id docs = some (t, docs, own) := by
  simp [editable?, found, flag, named]

/-- The own version of a row is made as a copy, which nobody else holds. -/
theorem passes_editable? (h : t.Sound) {own : Nat} (edited : t.editable? id docs = some (t', docs', own)) :
    Passes [] t docs t' docs' := by
  rw [editable?] at edited
  obtain ⟨e, found, edited⟩ := Option.bind_eq_some_iff.1 edited
  obtain ⟨row, place, rfl⟩ := row?_of_entryAt? found
  have sound := h.rows row (mem_of_row? place)
  cases flag : (Row.entry row).locality.own with
  | true =>
    have named := sound.agrees.own
    rw [flag] at named
    obtain ⟨doc, named⟩ := Option.isSome_iff_exists.1 named.symm
    simp only [flag, if_true, named] at edited
    obtain ⟨rfl, rfl, -⟩ := Option.some.inj edited
    exact .refl h docs
  | false =>
    have unnamed := sound.agrees.own
    rw [flag, eq_comm, Option.isSome_eq_false_iff, Option.isNone_iff_eq_none] at unnamed
    simp only [flag, Bool.false_eq_true, if_false] at edited
    obtain ⟨source, named, edited⟩ := Option.bind_eq_some_iff.1 edited
    split at edited
    · rename_i factory
      obtain ⟨rfl, rfl, -⟩ := Option.some.inj edited
      have live := sound.live_of_hasSource (Locality.hasSource_of_isFactory factory)
      refine passes_modifyEntry h place ⟨⟨rfl, live.factory⟩, live.here, ?_⟩ ?_
      · simp [Locality.hasSource]
      · rw [Entry.held, Entry.held, named, unnamed]
        exact (docs.trades_copy source).perm (.refl _) (.swap _ _ _)
    · cases edited

/-- A row whose own version was made is there. -/
theorem here_editable? (h : t.Sound) {own : Nat} (edited : t.editable? id docs = some (t', docs', own)) : t'.Here id := by
  have sound := (passes_editable? h edited).sound
  have own_ : ∃ e, t'.entryAt? id = some e ∧ e.locality.own = true := by
    rw [editable?] at edited
    obtain ⟨e, found, edited⟩ := Option.bind_eq_some_iff.1 edited
    cases named : (if e.locality.own then e.ownDoc else none) with
    | some doc =>
      rw [named] at edited
      obtain ⟨rfl, -⟩ := Prod.mk.inj (Option.some.inj edited)
      refine ⟨e, found, ?_⟩
      split at named
      · assumption
      · cases named
    | none =>
      rw [named] at edited
      obtain ⟨source, -, edited⟩ := Option.bind_eq_some_iff.1 edited
      split at edited
      · obtain ⟨rfl, -⟩ := Prod.mk.inj (Option.some.inj edited)
        exact ⟨_, by rw [entryAt?_modifyEntry_self, found, Option.map_some], rfl⟩
      · cases edited
  obtain ⟨e, found, flag⟩ := own_
  obtain ⟨row, place, rfl⟩ := row?_of_entryAt? found
  exact here_of_row? place ((sound.rows row (mem_of_row? place)).live_of_hasSource (by simp [Locality.hasSource, flag])).here

/-! ## Removal -/

omit [Keeper ρ] in
/-- What is cut off at the end is gone. -/
theorem trimRows_split (rows : List ρ) : ∃ cut, rows = trimRows rows ++ cut ∧
    (∀ row ∈ cut, (Row.entry row).locality.deleted = true) ∧
    ∀ row, (trimRows rows).getLast? = some row → (Row.entry row).locality.deleted = false := by
  refine ⟨(rows.reverse.takeWhile fun row => (Row.entry row).isTombstone).reverse, ?_, ?_, ?_⟩
  · rw [trimRows, ← List.reverse_append, List.takeWhile_append_dropWhile, List.reverse_reverse]
  · intro row member
    exact List.all_eq_true.1 List.all_takeWhile row (List.mem_reverse.1 member)
  · intro row last
    rw [trimRows, List.getLast?_reverse] at last
    have first := List.head?_dropWhile_not (fun row : ρ => (Row.entry row).isTombstone) rows.reverse
    rw [last] at first
    simpa [Entry.isTombstone] using first

/-- A table without the row of some number, whose place is marked or, at the end, cut off. -/
def cut (t : EntryTable ρ) (id : Nat) : EntryTable ρ :=
  if id + 1 = t.size then ⟨trimRows (t.rows.take id)⟩ else t.setRow id (Row.ofEntry Entry.tombstone)

omit [Keeper ρ] in
theorem cut_setRow (t : EntryTable ρ) (id : Nat) (row : ρ) : (t.setRow id row).cut id = t.cut id := by
  rw [cut, cut, size_setRow]
  simp [EntryTable.setRow, List.take_set_of_le]

omit [Keeper ρ] in
/-- Without one of its rows a table has its other rows where they were. -/
theorem row?_cut {other : Nat} (found : (t.cut id).row? other = some row) :
    row = Row.ofEntry Entry.tombstone ∨ other ≠ id ∧ t.row? other = some row := by
  rw [cut] at found
  split at found
  · rename_i last
    obtain ⟨gone, kept, -, -⟩ := trimRows_split (t.rows.take id)
    have bound : other < (trimRows (t.rows.take id)).length := (List.getElem?_eq_some_iff.1 found).1
    have before : (t.rows.take id)[other]? = some row := by
      rw [kept, List.getElem?_append_left bound]
      exact found
    have lt : other < id := by
      have := (List.getElem?_eq_some_iff.1 before).1
      rw [List.length_take] at this
      omega
    rw [List.getElem?_take_of_lt lt] at before
    exact .inr ⟨Nat.ne_of_lt lt, before⟩
  · by_cases same : other = id
    · subst same
      rw [row?_setRow_self (size_setRow t other (Row.ofEntry Entry.tombstone : ρ) ▸ lt_of_row? found)] at found
      exact .inl (Option.some.inj found).symm
    · rw [row?_setRow_of_ne t same] at found
      exact .inr ⟨same, found⟩

/-- Without one of its rows a table holds what the others hold. -/
theorem passes_cut (h : t.Sound) (found : t.row? id = some row)
    (trades : docs.Trades docs' (taken ++ heldBy row) []) : Passes taken t docs (t.cut id) docs' := by
  rw [cut]
  split
  · rename_i last
    obtain ⟨front, back, split, length, -⟩ := split_of_row? found
    have size : (front ++ row :: back).length = id + 1 := by rw [← split, ← size, last]
    obtain rfl : back = [] := by
      rw [List.length_append, List.length_cons] at size
      exact List.length_eq_zero_iff.1 (by omega)
    have front_eq : t.rows.take id = front := by rw [split, ← length, List.take_left]
    obtain ⟨gone, kept, marks, live⟩ := trimRows_split front
    rw [front_eq]
    have before (other : ρ) (member : other ∈ front) : RowSound other := h.rows other (by simp [split, member])
    refine ⟨⟨fun other member => before other ?_, live⟩, ?_⟩
    · rw [kept]
      exact List.mem_append_left _ member
    · have nothing : gone.flatMap heldBy = [] := by
        refine List.flatMap_eq_nil_iff.2 fun other member => ?_
        rw [(before other (by rw [kept]; exact List.mem_append_right _ member)).eq_tombstone (marks other member),
          heldBy_tombstone]
      have same : (trimRows front).flatMap heldBy = front.flatMap heldBy := by
        conv_rhs => rw [kept, List.flatMap_append, nothing, List.append_nil]
      rw [held, held, split, same, List.flatMap_append, List.flatMap_singleton]
      refine (trades.frame_left (front.flatMap heldBy)).perm ?_ (.of_eq (List.append_nil _))
      exact List.perm_append_comm_assoc _ taken _
  · rename_i notLast
    refine ⟨h.setRow rowSound_tombstone fun last => absurd last notLast, trades_setRow found ?_⟩
    rw [heldBy_tombstone]
    exact trades

/-- A row is removed with all that it holds. -/
theorem removeRow_eq (found : t.row? id = some row) (settled : Keeper.Settled row) (docs : DocumentTable) :
    (t.removeRow id docs).1 = t.cut id ∧ docs.Trades (t.removeRow id docs).2 (heldBy row) [] := by
  rw [removeRow, found]
  simp only
  generalize bare : Row.withEntry row { Row.entry row with factoryDoc := none, ownDoc := none } = stripped
  generalize less : dropDoc (dropDoc docs (Row.entry row).factoryDoc) (Row.entry row).ownDoc = docs'
  have entryGone : docs.Trades docs' (Row.entry row).held [] :=
    less ▸ ((trades_dropDoc docs _).frame _).trans (trades_dropDoc _ _)
  have inner : Keeper.inner stripped = Keeper.inner row := bare ▸ Keeper.inner_withEntry row _
  obtain ⟨-, released⟩ := Keeper.release Locality.all stripped docs' (bare ▸ Keeper.settled_withEntry row _ settled)
  rw [Keeper.release_all _ _ (bare ▸ Keeper.settled_withEntry row _ settled), inner] at released
  have trades := (entryGone.frame (Keeper.inner row)).trans released
  constructor
  · rw [cut]
    split <;> rfl
  · split <;> exact trades

theorem trades_foldl_delete (gone : List Nat) (docs : DocumentTable) :
    docs.Trades (gone.foldl DocumentTable.delete docs) gone [] := by
  induction gone generalizing docs with
  | nil => exact .refl docs []
  | cons doc gone ih => exact ((docs.trades_delete doc).frame gone).trans (ih (docs.delete doc))

/-- Dropping versions of a row: its entry is left with the others, and so are its tables. The row is removed if
no version is left. -/
theorem drop_eq (found : t.row? id = some row) (settled : Keeper.Settled row) (loc : Locality) (docs : DocumentTable) :
    ∃ row' docs', Row.entry row' = (dropVersions (Row.entry row) loc).1 ∧ Keeper.Settled row' ∧
      docs.Trades docs' (heldBy row) (heldBy row') ∧
      t.drop id loc docs =
        if (Row.entry row').locality.hasSource then (t.setRow id row', docs', false)
        else (((t.setRow id row').removeRow id docs').1, ((t.setRow id row').removeRow id docs').2, true) := by
  have held := held_dropVersions (Row.entry row) loc
  rw [drop, found]
  simp only
  generalize dropVersions (Row.entry row) loc = result at held
  obtain ⟨left, loc', gone⟩ := result
  obtain ⟨settled', released⟩ := Keeper.release loc' (Row.withEntry row left) (gone.foldl DocumentTable.delete docs)
    (Keeper.settled_withEntry row left settled)
  have entry := Row.entry_release loc' (Row.withEntry row left) (gone.foldl DocumentTable.delete docs)
  generalize Row.release loc' (Row.withEntry row left) (gone.foldl DocumentTable.delete docs) = result
    at settled' released entry
  obtain ⟨row', docs'⟩ := result
  rw [Row.entry_withEntry] at entry
  rw [Keeper.inner_withEntry] at released
  refine ⟨row', docs', entry, settled', ?_, by rw [entry]⟩
  -- what is no longer named is deleted, and so is what the tables of the row drop
  have named := (trades_foldl_delete gone docs).frame (left.held ++ Keeper.inner row)
  rw [heldBy, heldBy, entry]
  refine (named.perm ?_ (.refl _)).trans (released.frame_left left.held)
  rw [← List.append_assoc]
  exact held.append_right _

/-- A row that has no version left is removed. -/
theorem drop_eq_cut (found : t.row? id = some row) (settled : Keeper.Settled row)
    (none_ : (dropVersions (Row.entry row) loc).1.locality.hasSource = false) (docs : DocumentTable) :
    (t.drop id loc docs).1 = t.cut id ∧ docs.Trades (t.drop id loc docs).2.1 (heldBy row) [] := by
  obtain ⟨row', docs', entry, settled', trades, dropped⟩ := drop_eq found settled loc docs
  have place : (t.setRow id row').row? id = some row' := row?_setRow_self (lt_of_row? found) row'
  obtain ⟨same, removed⟩ := removeRow_eq place settled' docs'
  rw [dropped, entry, if_neg (Bool.not_eq_true _ ▸ none_)]
  exact ⟨same.trans (cut_setRow t id row'), trades.trans removed⟩

/-- Versions of a row are dropped, with the row if none is left. -/
theorem passes_drop (h : t.Sound) (id : Nat) (loc : Locality) (docs : DocumentTable) :
    Passes [] t docs (t.drop id loc docs).1 (t.drop id loc docs).2.1 := by
  cases found : t.row? id with
  | none =>
    rw [drop, found]
    exact .refl h docs
  | some row =>
    have sound := h.rows row (mem_of_row? found)
    cases source : (dropVersions (Row.entry row) loc).1.locality.hasSource with
    | true =>
      obtain ⟨row', docs', entry, settled', trades, dropped⟩ := drop_eq found sound.settled loc docs
      have live := live_dropVersions (sound.live_of_hasSource (hasSource_of_dropVersions source)) source
      rw [← entry] at live
      rw [dropped, entry, if_pos source]
      exact ⟨h.setRow ⟨settled', .inl live⟩ fun _ => live.here, trades_setRow found trades⟩
    | false =>
      obtain ⟨same, trades⟩ := drop_eq_cut found sound.settled source docs
      rw [same]
      exact passes_cut h found trades

/-- When all versions are dropped from some rows, nothing is left of them. -/
theorem row?_dropWhere_all {p : Entry → DocumentTable → Bool}
    (all : ∀ row docs, RowSound (row : ρ) → p (Row.entry row) docs = true)
    (h : t.Sound) (docs : DocumentTable) (ids : List Nat) {other : Nat}
    (found : (dropWhere p Locality.all t docs ids).1.row? other = some row) :
    heldBy row = [] ∨ other ∉ ids ∧ t.row? other = some row := by
  induction ids generalizing t docs with
  | nil => exact .inr ⟨List.not_mem_nil, found⟩
  | cons id ids ih =>
    rw [dropWhere] at found
    cases place : t.row? id with
    | none =>
      rw [entryAt?, place, Option.map_none, Option.any_none, if_neg Bool.noConfusion] at found
      rcases ih h docs found with nothing | ⟨late, still⟩
      · exact .inl nothing
      refine .inr ⟨?_, still⟩
      rintro (_ | ⟨_, member⟩)
      · rw [place] at still
        cases still
      · exact late member
    | some doomed =>
      have meets := all doomed docs (h.rows doomed (mem_of_row? place))
      rw [entryAt?, place, Option.map_some, Option.any_some, meets, if_pos rfl] at found
      have gone := hasSource_dropVersions (Row.entry doomed) (show Locality.all.pristine = true from rfl) rfl rfl
      obtain ⟨cut, -⟩ := drop_eq_cut place (h.rows doomed (mem_of_row? place)).settled gone docs
      rcases ih (passes_drop h id Locality.all docs).sound _ found with nothing | ⟨late, still⟩
      · exact .inl nothing
      · rw [cut] at still
        rcases row?_cut still with rfl | ⟨different, still⟩
        · exact .inl heldBy_tombstone
        · refine .inr ⟨?_, still⟩
          rintro (_ | ⟨_, member⟩)
          · exact different rfl
          · exact late member

/-- Versions are dropped from some rows, one after the other. -/
theorem passes_dropWhere (p : Entry → DocumentTable → Bool) (loc : Locality) (h : t.Sound) (docs : DocumentTable)
    (ids : List Nat) :
    Passes [] t docs (dropWhere p loc t docs ids).1 (dropWhere p loc t docs ids).2 := by
  induction ids generalizing t docs with
  | nil => exact .refl h docs
  | cons id ids ih =>
    rw [dropWhere]
    split
    · have first := passes_drop h id loc docs
      exact first.trans (ih first.sound _)
    · exact ih h docs

theorem passes_dropAll (h : t.Sound) (loc : Locality) (docs : DocumentTable) :
    Passes [] t docs (t.dropAll loc docs).1 (t.dropAll loc docs).2 := passes_dropWhere _ loc h docs _

theorem passes_dropVanished (h : t.Sound) (loc : Locality) (docs : DocumentTable) :
    Passes [] t docs (t.dropVanished loc docs).1 (t.dropVanished loc docs).2 := passes_dropWhere _ loc h docs _

/-! ## Deleting and restoring -/

omit [Keeper ρ] in
/-- What becomes of a row that is deleted: it is hidden if it has a factory version, and else removed. -/
theorem delete_cases {dir : String} {fs fs' : FileSystem} (found : t.entryAt? id = some e)
    (deleted : t.delete id dir docs fs = .ok (t', docs', fs')) :
    ∃ docs₁, docs₁ = dropDoc docs (if e.locality.own then e.ownDoc else none) ∧
      (e.disowned.locality.isFactory = true ∧ docs' = docs₁ ∧ t' = t.modifyEntry id (fun _ =>
          { e.disowned with locality := { e.disowned.locality with disabled := true } }) ∨
        e.disowned.locality.isFactory = false ∧
          (t', docs') = (t.modifyEntry id fun _ => e.disowned).removeRow id docs₁) := by
  refine ⟨_, rfl, ?_⟩
  generalize named : (if e.locality.own then e.ownDoc else none) = own
  -- whatever is done to the file, the row is hidden or removed
  have ending {fs₁ : FileSystem}
      (ended : (if e.disowned.locality.isFactory then
          .ok (t.modifyEntry id fun _ =>
            { e.disowned with locality := { e.disowned.locality with disabled := true } }, dropDoc docs own, fs₁)
        else
          .ok (((t.modifyEntry id fun _ => e.disowned).removeRow id (dropDoc docs own)).1,
            ((t.modifyEntry id fun _ => e.disowned).removeRow id (dropDoc docs own)).2, fs₁) :
          Except FileFault (EntryTable ρ × DocumentTable × FileSystem)) = .ok (t', docs', fs')) :
      e.disowned.locality.isFactory = true ∧ docs' = dropDoc docs own ∧ t' = t.modifyEntry id (fun _ =>
          { e.disowned with locality := { e.disowned.locality with disabled := true } }) ∨
        e.disowned.locality.isFactory = false ∧
          (t', docs') = (t.modifyEntry id fun _ => e.disowned).removeRow id (dropDoc docs own) := by
    split at ended
    · rename_i factory
      obtain ⟨rfl, rfl, -⟩ := Except.ok.inj ended
      exact .inl ⟨factory, rfl, rfl⟩
    · rename_i noFactory
      obtain ⟨rfl, rfl, -⟩ := Except.ok.inj ended
      exact .inr ⟨Bool.not_eq_true _ ▸ noFactory, rfl⟩
  rw [delete, found] at deleted
  simp only [named] at deleted
  cases own with
  | none => exact ending deleted
  | some doc =>
    obtain ⟨fs₁, -, deleted⟩ := bind_eq_ok deleted
    exact ending deleted

omit [Keeper ρ] in
/-- Only the file of an own version can stand in the way of deleting a row. -/
theorem own_of_delete_error {dir : String} {fs : FileSystem} {fault : FileFault} (found : t.entryAt? id = some e)
    (failed : t.delete id dir docs fs = .error fault) : e.locality.own = true := by
  cases flag : e.locality.own with
  | true => rfl
  | false =>
    rw [delete, found] at failed
    simp only [flag, Bool.false_eq_true, if_false] at failed
    split at failed <;> cases failed

/-- Without its own version an entry names its factory document. -/
theorem trades_disowned (agrees : e.Agrees) (docs : DocumentTable) :
    docs.Trades (dropDoc docs (if e.locality.own then e.ownDoc else none)) e.held e.disowned.held := by
  obtain ⟨named, ownDoc, -, factoryDoc, -, -⟩ := Entry.disowned_eq agrees
  rw [named, Entry.held, Entry.held, ownDoc, factoryDoc]
  exact (trades_dropDoc docs _).frame_left _

/-- A row without a factory version is removed when it is deleted. -/
theorem delete_eq_cut {dir : String} {fs fs' : FileSystem} (found : t.row? id = some row) (settled : Keeper.Settled row)
    (agrees : (Row.entry row).Agrees) (noFactory : (Row.entry row).locality.isFactory = false)
    (deleted : t.delete id dir docs fs = .ok (t', docs', fs')) : t' = t.cut id ∧ docs.Trades docs' (heldBy row) [] := by
  have trades := trades_disowned agrees docs
  obtain ⟨-, -, -, -, isFactory, -⟩ := Entry.disowned_eq agrees
  obtain ⟨docs₁, dropped, cases⟩ := delete_cases (congrArg (Option.map Row.entry) found) deleted
  rw [← dropped] at trades
  rcases cases with ⟨factory, -, -⟩ | ⟨-, removed⟩
  · rw [isFactory, noFactory] at factory
    exact Bool.noConfusion factory
  · rw [modifyEntry_eq found] at removed
    have settled' := Keeper.settled_withEntry row (Row.entry row).disowned settled
    obtain ⟨same, gone⟩ := removeRow_eq (row?_setRow_self (lt_of_row? found) _) settled' docs₁
    rw [cut_setRow] at same
    rw [heldBy_withEntry] at gone
    have left : docs' = _ := congrArg Prod.snd removed
    rw [left]
    exact ⟨(congrArg Prod.fst removed).trans same, (trades.frame (Keeper.inner row)).trans gone⟩

/-- Deleting a row deletes its own version, and the row if it has no other. -/
theorem passes_delete (h : t.Sound) {dir : String} {fs fs' : FileSystem}
    (deleted : t.delete id dir docs fs = .ok (t', docs', fs')) : Passes [] t docs t' docs' := by
  cases found : t.row? id with
  | none =>
    rw [delete, entryAt?, found] at deleted
    obtain ⟨rfl, rfl, rfl⟩ := Except.ok.inj deleted
    exact .refl h docs
  | some row =>
    have sound := h.rows row (mem_of_row? found)
    cases noFactory : (Row.entry row).locality.isFactory with
    | false =>
      obtain ⟨rfl, trades⟩ := delete_eq_cut found sound.settled sound.agrees noFactory deleted
      exact passes_cut h found trades
    | true =>
      have trades := trades_disowned sound.agrees docs
      have live := sound.live_of_hasSource (Locality.hasSource_of_isFactory noFactory)
      obtain ⟨-, ownDoc, own, factoryDoc, isFactory, here⟩ := Entry.disowned_eq sound.agrees
      obtain ⟨docs₁, dropped, cases⟩ := delete_cases (congrArg (Option.map Row.entry) found) deleted
      rw [← dropped] at trades
      rcases cases with ⟨factory, rfl, rfl⟩ | ⟨none_, -⟩
      · refine passes_modifyEntry h found ⟨⟨?_, ?_⟩, ?_, ?_⟩ trades
        · rw [ownDoc]
          exact own
        · rw [factoryDoc, ← live.factory]
          exact isFactory
        · exact here.trans live.here
        · exact Locality.hasSource_of_isFactory (s := { (Row.entry row).disowned.locality with disabled := true }) factory
      · rw [isFactory, noFactory] at none_
        exact Bool.noConfusion none_

/-- A hidden row is shown again. -/
theorem passes_restore (h : t.Sound) (id : Nat) (docs : DocumentTable) :
    Passes [] t docs (t.restore id).1 docs := by
  rw [restore]
  cases found : t.entryAt? id with
  | none => exact .refl h docs
  | some e =>
    obtain ⟨row, place, rfl⟩ := row?_of_entryAt? found
    simp only
    split
    · rename_i hidden
      rw [Bool.and_eq_true] at hidden
      have live := (h.rows row (mem_of_row? place)).live_of_hasSource (Locality.hasSource_of_isFactory hidden.2)
      dsimp only
      refine passes_modifyEntry h place ?_ ?_
      · exact live.congr rfl rfl rfl rfl rfl
      · exact .refl docs _
    · exact .refl h docs

end EntryTable

end EditorBundles.Catalog
