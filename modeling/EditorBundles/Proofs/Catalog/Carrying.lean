import EditorBundles.Proofs.Catalog.OperationMoves

/-!
# Documents carried along by entries

Whatever is done to a table, a document that an entry names is there and is named by that entry alone. This asks
nothing of the flags of the entries: a document that no entry names any longer may be left over, but none is
deleted that is still named, and none gets a second name. `Carries` says so of an operation that turns some
entries into others, and the entries that a table has, those inside of its rows included, are its `entries`.
-/

namespace EditorBundles.Catalog
set_option autoImplicit false
open PropertyList

/-- Where the flags of an entry say that there is a version, the entry names a document for it. All its flags have
names. -/
structure Entry.Backed (e : Entry) : Prop where
  own : e.locality.own = true → e.ownDoc.isSome = true
  factory : e.locality.isFactory = true → e.factoryDoc.isSome = true
  flags : e.locality.unnamed = 0

/-- An entry without a pristine version needs no factory document once its installed version is gone. -/
theorem Entry.Backed.uninstalled {e : Entry} (h : e.Backed) (pristine : e.locality.pristine = false) :
    e.uninstalled.Backed := by
  rw [Entry.uninstalled]
  split
  · refine ⟨h.own, fun factory => ?_, h.flags⟩
    have none_ : (e.locality.pristine || false) = true := factory
    rw [pristine] at none_
    cases none_
  · exact h

/-- Entries `es` with the documents `spare` become entries `es'` with the documents `spare'`. Versions stay backed by
documents, and the documents that are named or spare afterwards were so before or are new. Others may be left over. -/
structure Carries (spare : List Nat) (es : List Entry) (docs : DocumentTable) (spare' : List Nat) (es' : List Entry)
    (docs' : DocumentTable) : Prop where
  backed : (∀ e ∈ es, e.Backed) → ∀ e ∈ es', e.Backed
  trades : ∃ left, docs.Trades docs' (spare ++ es.flatMap Entry.held) (left ++ (spare' ++ es'.flatMap Entry.held))

namespace Carries

variable {spare spare' spare'' taken : List Nat} {es es' es'' fs fs' : List Entry} {docs docs' docs'' : DocumentTable}
  {e e' : Entry}

theorem refl (spare : List Nat) (es : List Entry) (docs : DocumentTable) : Carries spare es docs spare es docs :=
  ⟨id, [], .refl docs _⟩

theorem trans (first : Carries spare es docs spare' es' docs') (second : Carries spare' es' docs' spare'' es'' docs'') :
    Carries spare es docs spare'' es'' docs'' := by
  obtain ⟨left, trades⟩ := first.trades
  obtain ⟨left', trades'⟩ := second.trades
  refine ⟨fun backed => second.backed (first.backed backed), left ++ left', ?_⟩
  rw [List.append_assoc]
  exact trades.trans (trades'.frame_left left)

theorem perm (h : Carries spare es docs spare' es' docs') (same : es.Perm fs) (same' : es'.Perm fs') :
    Carries spare fs docs spare' fs' docs' := by
  obtain ⟨left, trades⟩ := h.trades
  constructor
  · intro backed e member
    exact h.backed (fun e member => backed e (same.mem_iff.1 member)) e (same'.mem_iff.2 member)
  · refine ⟨left, trades.perm ((same.flatMap_right _).append_left spare) ?_⟩
    exact ((same'.flatMap_right _).append_left spare').append_left left

/-- Other entries stay as they are. -/
theorem frame (h : Carries spare es docs spare' es' docs') (more : List Entry) :
    Carries spare (es ++ more) docs spare' (es' ++ more) docs' := by
  obtain ⟨left, trades⟩ := h.trades
  constructor
  · intro backed
    rw [List.forall_mem_append] at backed ⊢
    exact ⟨h.backed backed.1, backed.2⟩
  · refine ⟨left, ?_⟩
    simp only [List.flatMap_append, ← List.append_assoc]
    simp only [← List.append_assoc] at trades
    exact trades.frame _

theorem frame_left (h : Carries spare es docs spare' es' docs') (more : List Entry) :
    Carries spare (more ++ es) docs spare' (more ++ es') docs' :=
  (h.frame more).perm List.perm_append_comm List.perm_append_comm

/-- Other documents stay spare. -/
theorem beside (h : Carries spare es docs spare' es' docs') (more : List Nat) :
    Carries (spare ++ more) es docs (spare' ++ more) es' docs' := by
  obtain ⟨left, trades⟩ := h.trades
  refine ⟨h.backed, left, (trades.frame more).perm ?_ ?_⟩
  all_goals
    simp only [List.perm_iff_count, List.count_append]
    intro index
    omega

/-- A document is given to an entry. -/
theorem give {doc : Nat} (h : Carries [doc] es docs [] es' docs') (spare : List Nat) :
    Carries (doc :: spare) es docs spare es' docs' := h.beside spare

/-- What some entries name is left over when they go. -/
theorem forget {kept : List Entry} (sub : kept.Sublist es) (docs : DocumentTable) : Carries [] es docs [] kept docs := by
  obtain ⟨gone, same⟩ := sub.exists_perm_append
  refine ⟨fun backed e member => backed e (sub.subset member), gone.flatMap Entry.held, ?_⟩
  rw [List.nil_append, List.nil_append, ← List.flatMap_append]
  exact (DocumentTable.Trades.refl docs _).perm (.refl _) ((same.trans List.perm_append_comm).flatMap_right _)

/-- A spare document is left over. -/
theorem leave (taken : List Nat) (es : List Entry) (docs : DocumentTable) : Carries taken es docs [] es docs :=
  ⟨id, taken, .refl docs _⟩

/-- One entry is changed into another. -/
theorem change (left : List Nat) (backed : e.Backed → e'.Backed)
    (trades : docs.Trades docs' (taken ++ e.held) (left ++ e'.held)) : Carries taken [e] docs [] [e'] docs' := by
  constructor
  · intro all
    rw [List.forall_mem_singleton] at all ⊢
    exact backed all
  · refine ⟨left, ?_⟩
    rw [List.flatMap_singleton, List.flatMap_singleton]
    exact trades

/-- An entry that names the same documents, whose flags say no more than before. -/
theorem mark (ownDoc : e'.ownDoc = e.ownDoc) (factoryDoc : e'.factoryDoc = e.factoryDoc)
    (own : e'.locality.own = true → e.locality.own = true)
    (factory : e'.locality.isFactory = true → e.locality.isFactory = true)
    (flags : e.locality.unnamed = 0 → e'.locality.unnamed = 0) : Carries [] [e] docs [] [e'] docs := by
  refine change [] (fun backed => ⟨?_, ?_, flags backed.flags⟩) ?_
  · intro flag
    rw [ownDoc]
    exact backed.own (own flag)
  · intro flag
    rw [factoryDoc]
    exact backed.factory (factory flag)
  · rw [Entry.held, Entry.held, ownDoc, factoryDoc]
    exact .refl docs _

/-- A mark for an entry that is gone names nothing. -/
theorem tombstone (es : List Entry) (docs : DocumentTable) : Carries [] es docs [] (Entry.tombstone :: es) docs := by
  constructor
  · intro backed
    rw [List.forall_mem_cons]
    exact ⟨⟨fun own => Bool.noConfusion own, fun factory => Bool.noConfusion factory, rfl⟩, backed⟩
  · exact ⟨[], .refl docs _⟩

/-- A document is stored. -/
theorem store {d : Document} (fresh : d.isVacant = false) (spare : List Nat) (es : List Entry) (docs : DocumentTable) :
    Carries spare es docs ((docs.insert d).2 :: spare) es (docs.insert d).1 :=
  ⟨id, [], (docs.trades_insert fresh).frame _⟩

/-- A document that is named is copied. -/
theorem copy {doc : Nat} (member : e ∈ es) (named : e.factoryDoc = some doc) (spare : List Nat) (docs : DocumentTable) :
    Carries spare es docs ((docs.copy doc).2 :: spare) es (docs.copy doc).1 := by
  have held : doc ∈ spare ++ es.flatMap Entry.held :=
    List.mem_append_right _ (List.mem_flatMap.2 ⟨e, member, by simp [Entry.held, named]⟩)
  have split := List.perm_cons_erase held
  have copied := (docs.trades_copy doc).frame ((spare ++ es.flatMap Entry.held).erase doc)
  exact ⟨id, [], copied.perm split.symm (split.symm.cons _)⟩

end Carries

/-! ## Rows -/

/-- Rows with further entries below them. -/
class Nesting (ρ : Type) [Row ρ] where
  below : ρ → List Entry
  below_withEntry : ∀ (row : ρ) e, below (Row.withEntry row e) = below row
  below_ofEntry : ∀ e, below (Row.ofEntry e) = []
  release : ∀ loc row docs, Carries [] (below row) docs [] (below (Row.release loc row docs).1) (Row.release loc row docs).2

instance : Nesting Entry where
  below _ := []
  below_withEntry _ _ := rfl
  below_ofEntry _ := rfl
  release _ _ docs := .refl [] [] docs

namespace EntryTable

variable {ρ : Type} [Row ρ] [Nesting ρ] {t t' : EntryTable ρ} {docs docs' : DocumentTable} {id doc : Nat} {row row' : ρ}
  {spare spare' : List Nat} {loc : Locality} {e : Entry}

/-- The entry of a row and those below it. -/
def entriesOf (row : ρ) : List Entry := Row.entry row :: Nesting.below row

/-- All entries of a table. -/
def entries (t : EntryTable ρ) : List Entry := t.rows.flatMap entriesOf

theorem entriesOf_withEntry (row : ρ) (e : Entry) : entriesOf (Row.withEntry row e) = e :: Nesting.below row := by
  rw [entriesOf, Row.entry_withEntry, Nesting.below_withEntry]

theorem entriesOf_ofEntry (e : Entry) : entriesOf (Row.ofEntry e : ρ) = [e] := by
  rw [entriesOf, Row.entry_ofEntry, Nesting.below_ofEntry]

/-- The entries of a table are those of one row and those of the others, which stay when the row is changed. -/
theorem entries_setRow (found : t.row? id = some row) : ∃ rest, t.entries.Perm (entriesOf row ++ rest) ∧
    ∀ row', (t.setRow id row').entries.Perm (entriesOf row' ++ rest) := by
  obtain ⟨front, back, split, -, set⟩ := split_of_row? found
  refine ⟨front.flatMap entriesOf ++ back.flatMap entriesOf, ?_, fun row' => ?_⟩
  · rw [entries, split, List.flatMap_append, List.flatMap_cons]
    exact List.perm_append_comm_assoc _ _ _
  · rw [entries, set, List.flatMap_append, List.flatMap_cons]
    exact List.perm_append_comm_assoc _ _ _

/-- What is done to the entries of one row is done to those of its table. -/
theorem carries_setRow (found : t.row? id = some row)
    (h : Carries spare (entriesOf row) docs spare' (entriesOf row') docs') :
    Carries spare t.entries docs spare' (t.setRow id row').entries docs' := by
  obtain ⟨rest, before, after⟩ := entries_setRow found
  exact (h.frame rest).perm before.symm (after row').symm

/-- What is done to one entry is done to those of its table. -/
theorem carries_modifyEntry (found : t.row? id = some row) (change : Entry → Entry)
    (h : Carries spare [Row.entry row] docs spare' [change (Row.entry row)] docs') :
    Carries spare t.entries docs spare' (t.modifyEntry id change).entries docs' := by
  rw [modifyEntry_eq found]
  apply carries_setRow found
  rw [entriesOf_withEntry]
  exact h.frame (Nesting.below row)

/-- Rows are changed that keep their entries. -/
theorem entries_modify (t : EntryTable ρ) (id : Nat) (change : ρ → ρ) (same : ∀ row, entriesOf (change row) = entriesOf row) :
    (⟨t.rows.modify id change⟩ : EntryTable ρ).entries = t.entries := by
  cases found : t.row? id with
  | none =>
    have absent : t.rows[id]? = none := found
    simp [List.modify_eq_set_getElem?, absent]
  | some row =>
    obtain ⟨front, back, split, -, set⟩ := split_of_row? found
    rw [modify_eq found, entries, entries, set, split]
    simp only [List.flatMap_append, List.flatMap_cons, same]

/-- Only a mark of an entry is changed. -/
theorem carries_mark (t : EntryTable ρ) (id : Nat) (b : Bool) (docs : DocumentTable) :
    Carries [] t.entries docs [] (t.modifyEntry id fun e => { e with modified := b }).entries docs := by
  cases found : t.row? id with
  | none =>
    have absent : t.rows[id]? = none := found
    have same : t.rows.modify id (fun row => Row.withEntry row { Row.entry row with modified := b }) = t.rows := by
      simp [List.modify_eq_set_getElem?, absent]
    rw [modifyEntry, same]
    exact .refl [] _ docs
  | some row => exact carries_modifyEntry found _ (.mark rfl rfl (fun own => own) (fun factory => factory) fun flags => flags)

/-! ## New rows and new versions -/

theorem backed_new (source : loc.IsSource) (doc : Nat) (d : Document) : ((Entry.new loc doc).identify d).Backed := by
  cases source
  · exact ⟨fun own => Bool.noConfusion own, fun _ => rfl, rfl⟩
  · exact ⟨fun own => Bool.noConfusion own, fun _ => rfl, rfl⟩
  · exact ⟨fun _ => rfl, fun factory => Bool.noConfusion factory, rfl⟩

/-- A new row names the document that it is made for. -/
theorem carries_insert (t : EntryTable ρ) (source : loc.IsSource) (doc : Nat) (docs : DocumentTable) :
    Carries [doc] t.entries docs [] (t.insert doc loc docs).1.entries docs := by
  have backed := backed_new source doc (docs.get doc)
  have held : ((Entry.new loc doc).identify (docs.get doc)).held = [doc] := Entry.held_new loc doc
  generalize made : (Entry.new loc doc).identify (docs.get doc) = e at backed held
  -- wherever the row is put, its entry is added to those that are kept
  have added (kept : List Entry) (sub : kept.Sublist t.entries) : Carries [doc] t.entries docs [] (e :: kept) docs := by
    have first : Carries [doc] t.entries docs [] (e :: t.entries) docs := by
      constructor
      · intro all
        rw [List.forall_mem_cons]
        exact ⟨backed, all⟩
      · refine ⟨[], ?_⟩
        rw [List.flatMap_cons, held]
        exact .refl docs _
    exact first.trans (.forget (sub.cons_cons e) docs)
  rw [insert]
  cases place : t.findEntry? Entry.isTombstone with
  | some id =>
    obtain ⟨bound, -, -⟩ := List.findIdx?_eq_some_iff_getElem.1 place
    have found : t.row? id = some t.rows[id] := List.getElem?_eq_getElem bound
    obtain ⟨front, back, split, -, set⟩ := split_of_row? found
    have sub : (front.flatMap entriesOf ++ back.flatMap entriesOf).Sublist t.entries := by
      rw [entries, split, List.flatMap_append, List.flatMap_cons]
      exact (List.Sublist.refl _).append (List.sublist_append_right _ _)
    refine (added _ sub).perm (.refl _) ?_
    rw [made]
    dsimp only
    rw [entries, set, List.flatMap_append, List.flatMap_cons, entriesOf_ofEntry]
    exact List.perm_middle.symm
  | none =>
    refine (added _ (.refl _)).perm (.refl _) ?_
    rw [made]
    dsimp only
    rw [show (⟨t.rows ++ [Row.ofEntry e]⟩ : EntryTable ρ).entries = t.entries ++ [e] by
      simp [entries, entriesOf_ofEntry]]
    exact (List.perm_append_singleton e _).symm

/-- A document is recorded as a version, and the one that it replaces is deleted. -/
theorem carries_register (t : EntryTable ρ) (source : loc.IsSource) (id doc : Nat) (docs : DocumentTable) :
    Carries [doc] t.entries docs [] (t.register id doc loc docs).1.entries (t.register id doc loc docs).2 := by
  have flags {s : Locality} (flags : s.unnamed = 0) : (s.union loc).unnamed = 0 := by
    rw [Locality.union, flags]
    cases source <;> rfl
  rw [register]
  cases found : t.entryAt? id with
  | none => exact .leave [doc] _ docs
  | some e =>
    obtain ⟨row, place, rfl⟩ := row?_of_entryAt? found
    dsimp only
    split
    · rename_i own
      refine carries_modifyEntry place _ (.change [] (fun backed => ⟨fun _ => rfl, ?_, flags backed.flags⟩) ?_)
      · intro flag
        apply backed.factory
        cases source
        · exact Bool.noConfusion own
        · exact Bool.noConfusion own
        · simpa [Locality.union, Locality.isFactory] using flag
      · refine ((trades_dropDoc docs (Row.entry row).ownDoc).frame ((Row.entry row).factoryDoc.toList ++ [doc])).perm ?_
          (.refl _)
        simp only [Entry.held, List.perm_iff_count, List.count_append]
        intro other
        omega
    · rename_i other
      split
      · rename_i shadowed
        refine carries_modifyEntry place _ (.change [] (fun backed => ⟨?_, ?_, flags backed.flags⟩) ?_)
        · intro flag
          apply backed.own
          simpa [Locality.union, shadowed.1] using flag
        · intro _
          apply backed.factory
          simp [Locality.isFactory, shadowed.2]
        · exact (docs.trades_delete doc).frame _
      · refine carries_modifyEntry place _ (.change [] (fun backed => ⟨?_, fun _ => rfl, flags backed.flags⟩) ?_)
        · intro flag
          apply backed.own
          have factory : loc.own = false := Bool.not_eq_true _ ▸ other
          simpa [Locality.union, factory] using flag
        · refine ((trades_dropDoc docs (Row.entry row).factoryDoc).frame ([doc] ++ (Row.entry row).ownDoc.toList)).perm ?_
            (.refl _)
          exact List.perm_append_comm_assoc _ [doc] _

/-- An own version that is made is a copy under a new number. -/
theorem carries_editable? {own : Nat} (edited : t.editable? id docs = some (t', docs', own)) :
    Carries [] t.entries docs [] t'.entries docs' := by
  rw [editable?] at edited
  obtain ⟨e, found, edited⟩ := Option.bind_eq_some_iff.1 edited
  obtain ⟨row, place, rfl⟩ := row?_of_entryAt? found
  split at edited
  · obtain ⟨rfl, rfl, -⟩ := Option.some.inj edited
    exact .refl [] _ docs
  · obtain ⟨source, named, edited⟩ := Option.bind_eq_some_iff.1 edited
    have copied := docs.trades_copy source
    generalize docs.copy source = result at edited copied
    obtain ⟨docs₁, copy⟩ := result
    split at edited
    · obtain ⟨rfl, rfl, -⟩ := Option.some.inj edited
      refine carries_modifyEntry place _ (.change (Row.entry row).ownDoc.toList
        (fun backed => ⟨fun _ => rfl, backed.factory, backed.flags⟩) ?_)
      rw [Entry.held, Entry.held, named]
      refine (copied.frame (Row.entry row).ownDoc.toList).perm (.refl _) ?_
      exact List.perm_append_comm.trans ((List.Perm.swap source _ []).append_left _)
    · cases edited

/-! ## Removal -/

/-- A row goes with all that it and the entries below it name. -/
theorem carries_removeRow (t : EntryTable ρ) (id : Nat) (docs : DocumentTable) :
    Carries [] t.entries docs [] (t.removeRow id docs).1.entries (t.removeRow id docs).2 := by
  rw [removeRow]
  cases found : t.row? id with
  | none => exact .refl [] _ docs
  | some row =>
    dsimp only
    generalize bare : Row.withEntry row { Row.entry row with factoryDoc := none, ownDoc := none } = stripped
    generalize less : dropDoc (dropDoc docs (Row.entry row).factoryDoc) (Row.entry row).ownDoc = docs₁
    have named : Carries [] [Row.entry row] docs [] [] docs₁ := by
      refine ⟨fun _ e member => absurd member List.not_mem_nil, [], ?_⟩
      rw [List.flatMap_singleton, ← less]
      exact ((trades_dropDoc docs _).frame _).trans (trades_dropDoc _ _)
    have below : Nesting.below stripped = Nesting.below row := bare ▸ Nesting.below_withEntry row _
    have released := Nesting.release Locality.all stripped docs₁
    rw [below] at released
    generalize (Row.release Locality.all stripped docs₁).2 = docs₂ at released
    have gone : Carries [] (entriesOf row) docs [] [] docs₂ :=
      ((named.frame _).trans released).trans (.forget (List.nil_sublist _) docs₂)
    obtain ⟨front, back, split, length, set⟩ := split_of_row? found
    have rest : Carries [] t.entries docs [] (front.flatMap entriesOf ++ back.flatMap entriesOf) docs₂ := by
      rw [entries, split, List.flatMap_append, List.flatMap_cons]
      exact (gone.frame _).frame_left _
    split
    · -- the last row takes the marks before it along
      have front_eq : t.rows.take id = front := by rw [split, ← length, List.take_left]
      obtain ⟨marks, kept, -⟩ := trimRows_split front
      rw [front_eq]
      refine rest.trans (.forget ?_ docs₂)
      rw [kept, List.flatMap_append, ← kept, List.append_assoc]
      exact List.sublist_append_left _ _
    · refine (rest.trans (.tombstone _ docs₂)).perm (.refl _) ?_
      rw [entries, set, List.flatMap_append, List.flatMap_cons, entriesOf_ofEntry]
      exact List.perm_middle.symm

theorem backed_dropVersions (backed : e.Backed) (loc : Locality) : (dropVersions e loc).1.Backed := by
  obtain ⟨own, ownDoc, -, gone, -, factory, factoryDoc, -⟩ := dropVersions_eq e loc
  refine ⟨?_, ?_, rfl⟩
  · intro flag
    rw [own, Bool.and_eq_true, Bool.not_eq_true'] at flag
    rw [ownDoc, flag.2, Bool.false_and, if_neg Bool.false_ne_true]
    exact backed.own flag.1
  · intro flag
    rw [factory, Bool.and_eq_true, Bool.not_eq_true'] at flag
    rw [factoryDoc, flag.2, if_neg Bool.false_ne_true]
    exact backed.factory flag.1

/-- Versions of a row are dropped with their documents, and the row if none is left. -/
theorem carries_drop (t : EntryTable ρ) (id : Nat) (loc : Locality) (docs : DocumentTable) :
    Carries [] t.entries docs [] (t.drop id loc docs).1.entries (t.drop id loc docs).2.1 := by
  rw [drop]
  cases found : t.row? id with
  | none => exact .refl [] _ docs
  | some row =>
    have backed (backed : (Row.entry row).Backed) := backed_dropVersions backed loc
    have held := held_dropVersions (Row.entry row) loc
    dsimp only
    generalize dropVersions (Row.entry row) loc = result at backed held
    obtain ⟨left, dropped, gone⟩ := result
    have named : Carries [] [Row.entry row] docs [] [left] (gone.foldl DocumentTable.delete docs) := by
      refine .change [] backed ?_
      exact ((trades_foldl_delete gone docs).frame left.held).perm held (.refl _)
    have released := Nesting.release dropped (Row.withEntry row left) (gone.foldl DocumentTable.delete docs)
    have entry := Row.entry_release dropped (Row.withEntry row left) (gone.foldl DocumentTable.delete docs)
    rw [Nesting.below_withEntry] at released
    rw [Row.entry_withEntry] at entry
    generalize Row.release dropped (Row.withEntry row left) (gone.foldl DocumentTable.delete docs) = result
      at released entry
    obtain ⟨row', docs'⟩ := result
    dsimp only at released entry
    have carried : Carries [] (entriesOf row) docs [] (entriesOf row') docs' := by
      rw [entriesOf, entriesOf, entry]
      exact (named.frame _).trans (released.frame_left [left])
    have put := carries_setRow found carried
    split
    · exact put
    · exact put.trans (carries_removeRow _ id docs')

theorem carries_dropWhere (p : Entry → DocumentTable → Bool) (loc : Locality) (t : EntryTable ρ) (docs : DocumentTable)
    (ids : List Nat) :
    Carries [] t.entries docs [] (dropWhere p loc t docs ids).1.entries (dropWhere p loc t docs ids).2 := by
  induction ids generalizing t docs with
  | nil => exact .refl [] _ docs
  | cons id ids ih =>
    rw [dropWhere]
    split
    · exact (t.carries_drop id loc docs).trans (ih _ _)
    · exact ih t docs

/-- The own version of a row is deleted. The row is hidden if it has another version, and else removed. -/
theorem carries_delete {dir : String} {fs fs' : FileSystem} (deleted : t.delete id dir docs fs = .ok (t', docs', fs')) :
    Carries [] t.entries docs [] t'.entries docs' := by
  cases found : t.row? id with
  | none =>
    rw [delete, entryAt?, found] at deleted
    obtain ⟨rfl, rfl, rfl⟩ := Except.ok.inj deleted
    exact .refl [] _ docs
  | some row =>
    obtain ⟨docs₁, dropped, cases⟩ := delete_cases (congrArg (Option.map Row.entry) found) deleted
    have disowned : Carries [] [Row.entry row] docs [] [(Row.entry row).disowned] docs₁ := by
      rw [dropped, Entry.disowned]
      split
      · refine .change [] (fun backed => ⟨fun own => Bool.noConfusion own, backed.factory, backed.flags⟩) ?_
        exact ((trades_dropDoc docs _).frame_left (Row.entry row).factoryDoc.toList)
      · exact .refl [] _ docs
    rcases cases with ⟨-, rfl, rfl⟩ | ⟨-, removed⟩
    · refine carries_modifyEntry found _ (disowned.trans (.mark rfl rfl ?_ ?_ ?_))
      · exact fun own => own
      · exact fun factory => factory
      · exact fun flags => flags
    · obtain ⟨rfl, rfl⟩ := Prod.mk.inj removed
      exact (carries_modifyEntry found (fun _ => (Row.entry row).disowned) disowned).trans (carries_removeRow _ id docs₁)

theorem carries_restore (t : EntryTable ρ) (id : Nat) (docs : DocumentTable) :
    Carries [] t.entries docs [] (t.restore id).1.entries docs := by
  rw [restore]
  cases found : t.entryAt? id with
  | none => exact .refl [] _ docs
  | some e =>
    obtain ⟨row, place, rfl⟩ := row?_of_entryAt? found
    dsimp only
    split
    · exact carries_modifyEntry place _ (.mark rfl rfl (fun own => own) (fun factory => factory) fun flags => flags)
    · exact .refl [] _ docs

/-- Whatever is done to a table carries its documents along. -/
theorem carries_move {N : Prop} {s s' : List Nat × EntryTable ρ × DocumentTable} (move : Move N s s') :
    Carries s.1 s.2.1.entries s.2.2 s'.1 s'.2.1.entries s'.2.2 := by
  cases move with
  | store fresh _ => exact .store fresh _ _ _
  | insert source _ => exact (carries_insert _ source _ _).give _
  | register source _ => exact (carries_register _ source _ _ _).give _
  | edit edited _ => exact (carries_editable? edited).beside _
  | drop => exact (carries_drop _ _ _ _).beside _
  | delete deleted => exact (carries_delete deleted).beside _
  | restore => exact (carries_restore _ _ _).beside _
  | mark => exact (carries_mark _ _ _ _).beside _

theorem carries_moves {N : Prop} {s s' : List Nat × EntryTable ρ × DocumentTable} (moves : Moves N s s') :
    Carries s.1 s.2.1.entries s.2.2 s'.1 s'.2.1.entries s'.2.2 := by
  induction moves with
  | refl => exact .refl _ _ _
  | tail _ move ih => exact ih.trans (carries_move move)

end EntryTable

/-! ## Bundles -/

namespace Bundle
open EntryTable (entriesOf)

variable {items : PerKind (EntryTable Entry)} {docs docs' : DocumentTable} {kind : ItemKind} {table : EntryTable Entry}
  {spare spare' : List Nat}

/-- The entries of all items. -/
def itemEntries (items : PerKind (EntryTable Entry)) : List Entry :=
  ItemKind.all.flatMap fun kind => (items.get kind).entries

/-- The entries of all items are those of one kind and those of the others, which stay when the kind is changed. -/
theorem itemEntries_set (items : PerKind (EntryTable Entry)) (kind : ItemKind) :
    ∃ rest, (itemEntries items).Perm ((items.get kind).entries ++ rest) ∧
      ∀ table, (itemEntries (items.set kind table)).Perm (table.entries ++ rest) := by
  obtain ⟨front, back, split⟩ := List.append_of_mem (ItemKind.mem_all kind)
  have once : (front ++ kind :: back).Nodup := split ▸ (by decide : ItemKind.all.Nodup)
  obtain ⟨-, rest, apart⟩ := List.nodup_append.1 once
  have same (table : EntryTable Entry) (kinds : List ItemKind) (absent : kind ∉ kinds) :
      (kinds.flatMap fun other => ((items.set kind table).get other).entries) =
        kinds.flatMap fun other => (items.get other).entries := by
    refine List.flatMap_congr fun other member => ?_
    have different : other ≠ kind := fun equal => absent (equal ▸ member)
    rw [PerKind.get_set_of_ne items different]
  refine ⟨(front.flatMap fun other => (items.get other).entries) ++ back.flatMap fun other => (items.get other).entries,
    ?_, fun table => ?_⟩
  · rw [itemEntries, split, List.flatMap_append, List.flatMap_cons]
    exact List.perm_append_comm_assoc _ _ _
  · rw [itemEntries, split, List.flatMap_append, List.flatMap_cons, PerKind.get_set_self,
      same table front fun member => apart kind member kind List.mem_cons_self rfl,
      same table back (List.nodup_cons.1 rest).1]
    exact List.perm_append_comm_assoc _ _ _

/-- What is done to the items of one kind is done to those of the bundle. -/
theorem carries_set (h : Carries spare (items.get kind).entries docs spare' table.entries docs') :
    Carries spare (itemEntries items) docs spare' (itemEntries (items.set kind table)) docs' := by
  obtain ⟨rest, before, after⟩ := itemEntries_set items kind
  exact (h.frame rest).perm before.symm (after table).symm

theorem carries_dropItems (loc : Locality) (items : PerKind (EntryTable Entry)) (docs : DocumentTable)
    (kinds : List ItemKind) :
    Carries [] (itemEntries items) docs [] (itemEntries (dropItems loc items docs kinds).1)
      (dropItems loc items docs kinds).2 := by
  induction kinds generalizing items docs with
  | nil => exact .refl [] _ docs
  | cons kind kinds ih =>
    have dropped := EntryTable.carries_dropWhere (fun e _ => e.locality.meets loc) loc (items.get kind) docs
      (List.range (items.get kind).size)
    exact (carries_set dropped).trans (ih _ _)

instance : Nesting Bundle where
  below b := itemEntries b.items
  below_withEntry _ _ := rfl
  below_ofEntry _ := rfl
  release loc b docs := carries_dropItems loc b.items docs ItemKind.all

/-- What is done to the items of one kind of a bundle is done to the entries of the table of bundles. -/
theorem carries_items {t : EntryTable Bundle} {id : Nat} {b : Bundle} (found : t.row? id = some b)
    (h : Carries spare (b.items.get kind).entries docs spare' table.entries docs') :
    Carries spare t.entries docs spare' (t.setRow id { b with items := b.items.set kind table }).entries docs' :=
  EntryTable.carries_setRow found ((carries_set h).frame_left [b.entry])

variable {t : EntryTable Bundle} {id : Nat} {b released : Bundle}

/-- A bundle with a pristine version is hidden, without its own and its installed version. -/
theorem carries_hide (found : t.row? id = some b) (pristine : b.entry.locality.pristine = true)
    (release : Row.release { own := true, installed := true } b docs = (released, docs')) :
    Carries [] t.entries docs [] (t.setRow id { released with entry :=
      { b.entry with ownDoc := none, locality := { pristine := true, disabled := true }, modified := false } }).entries
      (dropDoc docs' b.entry.ownDoc) := by
  have items := Nesting.release { own := true, installed := true } b docs
  rw [release] at items
  have entry : Carries [] [b.entry] docs' []
      [{ b.entry with ownDoc := none, locality := { pristine := true, disabled := true }, modified := false }]
      (dropDoc docs' b.entry.ownDoc) := by
    refine .change [] (fun backed => ⟨fun own => Bool.noConfusion own, fun _ => backed.factory ?_, rfl⟩) ?_
    · rw [Locality.isFactory, pristine, Bool.true_or]
    · exact (EntryTable.trades_dropDoc docs' b.entry.ownDoc).frame_left b.entry.factoryDoc.toList
  exact EntryTable.carries_setRow found ((items.frame_left [b.entry]).trans (entry.frame _))

/-- A bundle without a pristine version loses its installed one, and its items drop theirs. -/
theorem carries_uninstalledRow (pristine : b.entry.locality.pristine = false)
    (release : Row.release { own := true, installed := true } b docs = (released, docs')) :
    Carries [] (entriesOf b) docs [] (entriesOf { released with entry := b.entry.uninstalled })
      (if b.entry.locality.installed then dropDoc docs' b.entry.factoryDoc else docs') := by
  have items := Nesting.release { own := true, installed := true } b docs
  rw [release] at items
  have entry : Carries [] [b.entry] docs' [] [b.entry.uninstalled]
      (if b.entry.locality.installed then dropDoc docs' b.entry.factoryDoc else docs') :=
    .change [] (fun backed => backed.uninstalled pristine) (trades_uninstalled b.entry docs')
  exact (items.frame_left [b.entry]).trans (entry.frame _)

/-- What becomes of a bundle without its installed version becomes of the table of bundles. -/
theorem carries_uninstall (found : t.row? id = some b) (pristine : b.entry.locality.pristine = false)
    (release : Row.release { own := true, installed := true } b docs = (released, docs')) :
    Carries [] t.entries docs [] (t.setRow id { released with entry := b.entry.uninstalled }).entries
      (if b.entry.locality.installed then dropDoc docs' b.entry.factoryDoc else docs') :=
  EntryTable.carries_setRow found (carries_uninstalledRow pristine release)

end Bundle

/-! ## Catalogs -/

/-- All entries of a catalog. -/
def Database.entries (db : Database) : List Entry := db.themes.entries ++ db.bundles.entries

/-- The documents are those that are named, the spare ones and some that are left over, each of them once. -/
def Database.Holds (db : Database) (spare : List Nat) : Prop :=
  ∃ left, db.docs.Holding (left ++ (spare ++ db.entries.flatMap Entry.held))

/-- Versions are backed by documents, which are there each once. -/
structure Database.Owns (db : Database) (spare : List Nat) : Prop where
  backed : ∀ e ∈ db.entries, e.Backed
  holding : db.Holds spare

namespace Database

variable {W : Document → Prop} {N : Prop} {db db' : Database} {spare spare' : List Nat}

theorem owns_empty : Owns {} [] := ⟨fun _ member => absurd member List.not_mem_nil, [], DocumentTable.holding_empty⟩

/-- A spare document is there. -/
theorem Holds.stored {doc : Nat} (h : db.Holds spare) (member : doc ∈ spare) : (db.docs.get doc).isVacant = false := by
  obtain ⟨left, holding⟩ := h
  exact holding.stored doc (List.mem_append_right _ (List.mem_append_left _ member))

/-- What a move does: it carries the documents along, or it writes to some of them. -/
inductive Carried (spare : List Nat) (db : Database) : List Nat → Database → Prop where
  | along {left : List Nat} {after : Database} (carries : Carries spare db.entries db.docs left after.entries after.docs) :
    Carried spare db left after
  | written {docs : DocumentTable} (rewrites : db.docs.Rewrites docs) : Carried spare db spare { db with docs }

theorem Holds.carried (h : db.Holds spare) (carried : Carried spare db spare' db') : db'.Holds spare' := by
  obtain ⟨left, holding⟩ := h
  cases carried with
  | along carries =>
    obtain ⟨left', trades⟩ := carries.trades
    refine ⟨left' ++ left, (trades left (holding.perm List.perm_append_comm)).1.perm ?_⟩
    simp only [List.perm_iff_count, List.count_append]
    intro index
    omega
  | written rewrites => exact ⟨left, holding.rewrite rewrites⟩

theorem Owns.carried (h : db.Owns spare) (carried : Carried spare db spare' db') : db'.Owns spare' := by
  refine ⟨?_, h.holding.carried carried⟩
  cases carried with
  | along carries => exact carries.backed h.backed
  | written => exact h.backed

theorem carried_move {db' : Database} (h : db.Holds spare) (move : Move W N (spare, db) (spare', db')) :
    Carried spare db spare' db' := by
  cases move with
  | themes change => exact .along ((EntryTable.carries_moves change.anyMoves).frame _)
  | bundles moves => exact .along ((EntryTable.carries_moves moves).frame_left _)
  | items found change =>
    exact .along ((Bundle.carries_items found (EntryTable.carries_moves change.anyMoves)).frame_left _)
  | copy found named =>
    obtain ⟨b, place, rfl⟩ := EntryTable.row?_of_entryAt? found
    have member : Row.entry b ∈ db.bundles.entries :=
      List.mem_flatMap.2 ⟨b, EntryTable.mem_of_row? place, List.mem_cons_self⟩
    exact .along (.copy (List.mem_append_right _ member) named spare db.docs)
  | write _ found same =>
    subst found
    exact .written (db.docs.rewrites_set same)
  | stamp => exact .written (db.docs.rewrites_set rfl)
  | name _ => exact .written (db.docs.rewrites_set rfl)
  | nameManifest _ _ => exact .written (db.docs.rewrites_set rfl)
  | fill member stored _ =>
    have there := h.stored member
    exact .written (db.docs.rewrites_set ((stored _ there).trans there.symm))
  | @place _ _ id dirName =>
    have same := EntryTable.entries_modify db.bundles id (fun b => { b with dirName }) fun _ => rfl
    exact .along ((Carries.refl spare db.entries db.docs).perm (.refl _) (.of_eq (congrArg (_ ++ ·) same.symm)))
  | hide found pristine release => exact .along (((Bundle.carries_hide found pristine release).beside _).frame_left _)
  | uninstall _ found pristine release =>
    exact .along (((Bundle.carries_uninstall found pristine release).beside _).frame_left _)
  | @reveal _ _ _ b found pristine =>
    have shown : Carries [] [b.entry] db.docs [] [{ b.entry with locality := { pristine := true } }] db.docs :=
      .mark rfl rfl (fun own => Bool.noConfusion own) (fun _ => Bool.or_eq_true_iff.2 (.inl pristine)) fun _ => rfl
    have revealed := EntryTable.carries_modifyEntry found (fun e => { e with locality := { pristine := true } }) shown
    exact .along ((revealed.beside _).frame_left _)
  | associate => exact .along (.refl spare db.entries db.docs)

theorem Owns.move {db' : Database} (h : db.Owns spare) (move : Move W N (spare, db) (spare', db')) : db'.Owns spare' :=
  h.carried (carried_move h.holding move)

theorem Holds.moves (h : db.Holds spare) (moves : Moves W N (spare, db) (spare', db')) : db'.Holds spare' := by
  have all {s s' : List Nat × Database} (h : s.2.Holds s.1) (moves : Moves W N s s') : s'.2.Holds s'.1 := by
    induction moves with
    | refl => exact h
    | tail _ move ih => exact ih.carried (carried_move ih move)
  exact all h moves

theorem Owns.moves (h : db.Owns spare) (moves : Moves W N (spare, db) (spare', db')) : db'.Owns spare' := by
  have all {s s' : List Nat × Database} (h : s.2.Owns s.1) (moves : Moves W N s s') : s'.2.Owns s'.1 := by
    induction moves with
    | refl => exact h
    | tail _ move ih => exact ih.move move
  exact all h moves

end Database

/-- Over every run each document is named once at most, and versions are backed by documents. -/
theorem owns_of_reachable {allowed : Catalog → Operation → Prop} {c : Catalog} (reached : Reachable allowed c) :
    c.db.Owns [] :=
  reached.induct (P := fun db => db.Owns []) Database.owns_empty
    (fun c h => h.moves (moves_resume (W := fun _ => True) (N := True) [] c (.inl trivial)))
    fun _ _ _ h _ runs => h.moves (Operation.moves (W := fun _ => True) (N := True) [] (fun _ _ _ => trivial) (.inl trivial) runs)

end EditorBundles.Catalog
