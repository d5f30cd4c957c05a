import EditorBundles.Proofs.Catalog.Carrying
import EditorBundles.Proofs.Catalog.Precedence

/-!
# Numbers that rows keep

Rows are dropped, cut off at the end, marked as gone, and new ones are put in the place of those that are gone. None
of this moves another row: `Leaves` says of an operation that the rows of some kind that are not gone are still there
under their numbers, just as they were, with what is below them, and that their documents are what they were. Rows do
not have to agree with their flags for this; it is enough that no document has two names.
-/

namespace EditorBundles.Catalog
set_option autoImplicit false
open PropertyList
open PropertyList.DocumentTable (Prunes)

namespace EntryTable

section
variable {ρ : Type} [Row ρ] [Nesting ρ]

/-- The documents that a row names, and those that the rows below it name. -/
def namedIn (row : ρ) : List Nat := (entriesOf row).flatMap Entry.held

/-- The rows of some kind that are not gone are left alone: they have their numbers, and with all that is in them
they are what they were, documents included. -/
def Leaves (which : Nat → ρ → Prop) (t : EntryTable ρ) (docs : DocumentTable) (t' : EntryTable ρ)
    (docs' : DocumentTable) : Prop :=
  ∀ id row, t.row? id = some row → (Row.entry row).isTombstone = false → which id row →
    t'.row? id = some row ∧ ∀ doc ∈ namedIn row, docs'.get doc = docs.get doc

/-- What every operation on a table leaves alone: all rows but the one that it is about, or all rows without the
versions that it drops. A new row has a number that no row had, or only one that is gone. -/
structure Stable (t : EntryTable ρ) (docs : DocumentTable) : Prop where
  insert : ∀ {loc : Locality} {d : Document}, loc.IsSource → d.isVacant = false →
    (∀ row, t.row? (t.insert (docs.insert d).2 loc (docs.insert d).1).2 = some row → (Row.entry row).isTombstone = true) ∧
      Leaves (fun _ _ => True) t docs (t.insert (docs.insert d).2 loc (docs.insert d).1).1 (docs.insert d).1
  register : ∀ {loc : Locality} {d : Document} (id : Nat), loc.IsSource → d.isVacant = false →
    Leaves (fun other _ => other ≠ id) t docs (t.register id (docs.insert d).2 loc (docs.insert d).1).1
      (t.register id (docs.insert d).2 loc (docs.insert d).1).2
  edit : ∀ {id : Nat} {t' : EntryTable ρ} {docs' : DocumentTable} {own : Nat},
    t.editable? id docs = some (t', docs', own) → Leaves (fun other _ => other ≠ id) t docs t' docs'
  drop : ∀ (id : Nat) (loc : Locality),
    Leaves (fun other _ => other ≠ id) t docs (t.drop id loc docs).1 (t.drop id loc docs).2.1
  delete : ∀ {id : Nat} {dir : String} {fs fs' : FileSystem} {t' : EntryTable ρ} {docs' : DocumentTable},
    t.delete id dir docs fs = .ok (t', docs', fs') → Leaves (fun other _ => other ≠ id) t docs t' docs'
  restore : ∀ id : Nat, Leaves (fun other _ => other ≠ id) t docs (t.restore id).1 docs
  dropAll : ∀ loc : Locality, Leaves (fun _ row => (Row.entry row).locality.meets loc = false) t docs
    (t.dropAll loc docs).1 (t.dropAll loc docs).2
  dropVanished : ∀ loc : Locality, Leaves (fun _ row => (Row.entry row).locality.meets loc = false) t docs
    (t.dropVanished loc docs).1 (t.dropVanished loc docs).2

end

section
variable {ρ : Type} [Row ρ] {t t' : EntryTable ρ} {docs docs' : DocumentTable} {id other : Nat} {row : ρ} {loc : Locality}

/-! ## Rows under their numbers -/

/-- A row that is not gone stays when another one is cut out, also at the end. -/
theorem row?_cut_of_here (found : t.row? other = some row) (here : (Row.entry row).isTombstone = false)
    (different : other ≠ id) : (t.cut id).row? other = some row := by
  rw [cut]
  split
  · rename_i last
    have bound : other < t.size := lt_of_row? found
    have before : (t.rows.take id)[other]? = some row := by
      rw [List.getElem?_take_of_lt (by omega)]
      exact found
    obtain ⟨gone, kept, marks, -⟩ := trimRows_split (t.rows.take id)
    rcases Nat.lt_or_ge other (trimRows (t.rows.take id)).length with inside | outside
    · rw [kept, List.getElem?_append_left inside] at before
      exact before
    · -- what is cut off at the end is gone, and the row is not
      rw [kept, List.getElem?_append_right outside] at before
      exact absurd (here.symm.trans (marks row (List.mem_of_getElem? before))) Bool.false_ne_true
  · rw [row?_setRow_of_ne t different, found]

theorem row?_removeRow (found : t.row? other = some row) (here : (Row.entry row).isTombstone = false)
    (different : other ≠ id) (docs : DocumentTable) : (t.removeRow id docs).1.row? other = some row := by
  cases doomed : t.row? id with
  | none =>
    rw [removeRow, doomed]
    exact found
  | some _ =>
    rw [fst_removeRow doomed]
    exact row?_cut_of_here found here different

theorem row?_drop (found : t.row? other = some row) (here : (Row.entry row).isTombstone = false)
    (different : other ≠ id) (loc : Locality) (docs : DocumentTable) : (t.drop id loc docs).1.row? other = some row := by
  rw [drop]
  split
  · exact found
  · dsimp only
    split
    · rw [row?_setRow_of_ne t different, found]
    · refine row?_removeRow ?_ here different _
      rw [row?_setRow_of_ne t different, found]

/-- Rows that do not satisfy a condition stay when versions of those are dropped that do. -/
theorem row?_dropWhere {p : Entry → DocumentTable → Bool} (found : t.row? other = some row)
    (here : (Row.entry row).isTombstone = false) (spared : ∀ docs, p (Row.entry row) docs = false) (loc : Locality)
    (docs : DocumentTable) (ids : List Nat) : (dropWhere p loc t docs ids).1.row? other = some row := by
  induction ids generalizing t docs with
  | nil => exact found
  | cons id ids ih =>
    rw [dropWhere]
    split
    · rename_i chosen
      refine ih (row?_drop found here ?_ loc docs) _
      rintro rfl
      rw [entryAt?, found, Option.map_some, Option.any_some, spared docs] at chosen
      exact Bool.false_ne_true chosen
    · exact ih found docs

theorem row?_register_of_ne (different : other ≠ id) (t : EntryTable ρ) (doc : Nat) (loc : Locality) (docs : DocumentTable) :
    (t.register id doc loc docs).1.row? other = t.row? other := by
  rw [register]
  split
  · rfl
  · dsimp only
    split
    · exact row?_modifyEntry_of_ne t different _
    · split <;> exact row?_modifyEntry_of_ne t different _

theorem row?_editable?_of_ne (different : other ≠ id) {own : Nat} (edited : t.editable? id docs = some (t', docs', own)) :
    t'.row? other = t.row? other := by
  obtain ⟨e, -, ⟨-, -, rfl, -⟩ | ⟨source, -, -, rfl⟩⟩ := editable?_cases edited
  · rfl
  · exact row?_modifyEntry_of_ne t different _

theorem row?_delete (found : t.row? other = some row) (here : (Row.entry row).isTombstone = false) (different : other ≠ id)
    {dir : String} {fs fs' : FileSystem} (deleted : t.delete id dir docs fs = .ok (t', docs', fs')) :
    t'.row? other = some row := by
  cases doomed : t.entryAt? id with
  | none =>
    rw [delete, doomed] at deleted
    obtain ⟨rfl, -⟩ := Prod.mk.inj (Except.ok.inj deleted)
    exact found
  | some e =>
    obtain ⟨docs₁, -, ⟨-, -, rfl⟩ | ⟨-, removed⟩⟩ := delete_cases doomed deleted
    · rw [row?_modifyEntry_of_ne t different, found]
    · have left : t' = _ := congrArg Prod.fst removed
      rw [left]
      refine row?_removeRow ?_ here different docs₁
      rw [row?_modifyEntry_of_ne t different, found]

theorem row?_restore_of_ne (different : other ≠ id) (t : EntryTable ρ) : (t.restore id).1.row? other = t.row? other := by
  rw [restore]
  split
  · dsimp only
    split
    · exact row?_modifyEntry_of_ne t different _
    · rfl
  · rfl

/-- A new row takes the place of one that is gone, or comes at the end. -/
theorem isTombstone_of_insert (doc : Nat) (loc : Locality) (docs : DocumentTable)
    (found : t.row? (t.insert doc loc docs).2 = some row) : (Row.entry row).isTombstone = true := by
  rw [insert] at found
  cases place : t.findEntry? Entry.isTombstone with
  | some id =>
    obtain ⟨bound, gone, -⟩ := List.findIdx?_eq_some_iff_getElem.1 place
    rw [place] at found
    obtain rfl := Option.some.inj ((List.getElem?_eq_getElem bound).symm.trans found)
    exact gone
  | none =>
    rw [place] at found
    exact absurd (lt_of_row? found) (Nat.lt_irrefl _)

theorem row?_insert_of_here (found : t.row? other = some row) (here : (Row.entry row).isTombstone = false) (doc : Nat)
    (loc : Locality) (docs : DocumentTable) : (t.insert doc loc docs).1.row? other = some row := by
  rw [row?_insert, if_neg, found]
  rintro rfl
  exact Bool.false_ne_true (here.symm.trans (isTombstone_of_insert doc loc docs found))

end

/-! ## Their documents -/

section
variable {ρ : Type} [Row ρ] [Nesting ρ] {t t' : EntryTable ρ} {docs docs₁ docs' : DocumentTable} {id : Nat}
  {spare others : List Nat} {which : Nat → ρ → Prop}

theorem namedIn_subset {row : ρ} (found : t.row? id = some row) : namedIn row ⊆ t.entries.flatMap Entry.held := by
  intro doc member
  obtain ⟨e, among, named⟩ := List.mem_flatMap.1 member
  exact List.mem_flatMap.2 ⟨e, List.mem_flatMap.2 ⟨row, mem_of_row? found, among⟩, named⟩

/-- Rows that stay keep their documents if documents are stored first, at most, and then some are deleted that are no
longer named. -/
theorem leaves_of_carries
    (rows : ∀ id row, t.row? id = some row → (Row.entry row).isTombstone = false → which id row → t'.row? id = some row)
    (before : ∀ doc ∈ t.entries.flatMap Entry.held, docs₁.get doc = docs.get doc)
    (holding : docs₁.Holding (spare ++ t.entries.flatMap Entry.held ++ others))
    (carries : Carries spare t.entries docs₁ [] t'.entries docs') (prunes : docs₁.Prunes docs') :
    Leaves which t docs t' docs' := by
  intro id row found here chosen
  have still := rows id row found here chosen
  refine ⟨still, fun doc member => ?_⟩
  obtain ⟨left, trades⟩ := carries.trades
  obtain ⟨holding', -⟩ := trades others holding
  have live : docs'.isLive doc = true := by
    refine holding'.mem_iff.1 (List.mem_append_left _ (List.mem_append_right _ ?_))
    exact namedIn_subset still member
  exact (prunes.kept doc live).trans (before doc (namedIn_subset found member))

/-- A document that is stored takes the place of none that is named. -/
theorem holding_insert (holding : docs.Holding (t.entries.flatMap Entry.held ++ others)) {d : Document}
    (stored : d.isVacant = false) :
    (docs.insert d).1.Holding ([(docs.insert d).2] ++ t.entries.flatMap Entry.held ++ others) ∧
      ∀ doc ∈ t.entries.flatMap Entry.held, (docs.insert d).1.get doc = docs.get doc := by
  obtain ⟨holding', same⟩ := docs.trades_insert stored (t.entries.flatMap Entry.held ++ others) holding
  rw [← List.append_assoc] at holding'
  exact ⟨holding', fun doc member => same doc (List.mem_append_left _ member)⟩

variable [Pruning ρ]

/-- Whatever is done to a table of rows that share no document, the other rows stay where they are. -/
theorem stable_of_holding (holding : docs.Holding (t.entries.flatMap Entry.held ++ others)) : t.Stable docs where
  insert {loc d} source stored := by
    obtain ⟨holding', same⟩ := holding_insert holding stored
    refine ⟨fun row found => isTombstone_of_insert _ _ _ found, ?_⟩
    exact leaves_of_carries (fun _ _ found here _ => row?_insert_of_here found here _ _ _) same holding'
      (carries_insert t source _ _) (.refl _)
  register {loc d} id source stored := by
    obtain ⟨holding', same⟩ := holding_insert holding stored
    exact leaves_of_carries (fun _ _ found _ different => (row?_register_of_ne different t _ _ _).trans found) same holding'
      (carries_register t source id _ _) (prunes_register t id _ loc _)
  edit {id t' docs' own} edited := by
    intro other row found here different
    refine ⟨(row?_editable?_of_ne different edited).trans found, fun doc member => ?_⟩
    obtain ⟨e, at_id, ⟨-, -, -, rfl⟩ | ⟨source, named, copied, -⟩⟩ := editable?_cases edited
    · rfl
    · obtain ⟨at_row, there, rfl⟩ := row?_of_entryAt? at_id
      have held : source ∈ t.entries.flatMap Entry.held :=
        namedIn_subset there (List.mem_flatMap.2 ⟨_, List.mem_cons_self, by simp [Entry.held, named]⟩)
      have stored : (docs.get source).copy.isVacant = false := holding.stored source (List.mem_append_left _ held)
      obtain ⟨-, same⟩ := holding_insert holding stored
      obtain rfl : (docs.copy source).1 = docs' := congrArg Prod.fst copied
      exact same doc (namedIn_subset found member)
  drop id loc :=
    leaves_of_carries (fun _ _ found here different => row?_drop found here different loc docs) (fun _ _ => rfl) holding
      (carries_drop t id loc docs) (prunes_drop t id loc docs)
  delete deleted :=
    leaves_of_carries (fun _ _ found here different => row?_delete found here different deleted) (fun _ _ => rfl) holding
      (carries_delete deleted) (prunes_deleteRow deleted)
  restore id :=
    leaves_of_carries (fun _ _ found _ different => (row?_restore_of_ne different t).trans found) (fun _ _ => rfl) holding
      (carries_restore t id docs) (.refl docs)
  dropAll loc :=
    leaves_of_carries (fun _ _ found here spared => row?_dropWhere found here (fun _ => spared) loc docs _) (fun _ _ => rfl)
      holding (carries_dropWhere _ loc t docs _) (prunes_dropWhere _ loc t docs _)
  dropVanished loc :=
    leaves_of_carries (fun _ _ found here spared =>
        row?_dropWhere found here (fun _ => by rw [spared, Bool.false_and]) loc docs _) (fun _ _ => rfl)
      holding (carries_dropWhere _ loc t docs _) (prunes_dropWhere _ loc t docs _)

end

/-! ## Tables of items -/

section
variable {docs : DocumentTable} {others : List Nat}

theorem held_entries (t : EntryTable Entry) : t.entries.flatMap Entry.held = t.held := by
  rw [entries, List.flatMap_assoc, held]
  exact List.flatMap_congr fun e _ => rfl

theorem held_bundleEntries (t : EntryTable Bundle) : t.entries.flatMap Entry.held = t.held := by
  rw [entries, List.flatMap_assoc, held]
  refine List.flatMap_congr fun b _ => ?_
  show b.entry.held ++ (Bundle.itemEntries b.items).flatMap Entry.held = b.entry.held ++ Bundle.heldIn b.items ItemKind.all
  rw [Bundle.itemEntries, List.flatMap_assoc, Bundle.heldIn]
  exact congrArg _ (List.flatMap_congr fun kind _ => held_entries _)

/-- What is carried along is there afterwards, and other documents stay. -/
theorem exists_holding_of_carries {ρ : Type} [Row ρ] [Keeper ρ] [Nesting ρ]
    (same : ∀ t : EntryTable ρ, t.entries.flatMap Entry.held = t.held) {taken : List Nat} {t t' : EntryTable ρ}
    {docs docs' : DocumentTable} {others : List Nat} (carries : Carries taken t.entries docs [] t'.entries docs')
    (holding : docs.Holding (taken ++ t.held ++ others)) :
    (∃ left, docs'.Holding (t'.held ++ left)) ∧ ∀ index ∈ others, docs'.get index = docs.get index := by
  obtain ⟨left, trades⟩ := carries.trades
  rw [same, same] at trades
  obtain ⟨held, kept⟩ := trades others holding
  refine ⟨⟨left ++ others, held.perm ?_⟩, kept⟩
  simp only [List.perm_iff_count, List.count_append, List.count_nil]
  intro index
  omega

/-- Whatever its rows say of themselves, a table goes on with the documents that it names. -/
theorem lasting_named {ρ : Type} [Row ρ] [Keeper ρ] [Nesting ρ]
    (same : ∀ t : EntryTable ρ, t.entries.flatMap Entry.held = t.held) {loc : Locality} (source : loc.IsSource) :
    Lasting loc fun _ : EntryTable ρ => True where
  drop {t docs} stocked id := by
    obtain ⟨-, others, holding⟩ := stocked
    exact ⟨trivial, (exists_holding_of_carries same (carries_drop t id loc docs) holding).1⟩
  register {t docs id doc others} _ _ holding :=
    ⟨trivial, (exists_holding_of_carries same (carries_register t source id doc docs) holding).1⟩
  insert {t docs doc others} _ holding :=
    ⟨trivial, (exists_holding_of_carries same (carries_insert t source doc docs) holding).1⟩

/-- What is asked of a table of bundles holds of the tables of items in them. -/
theorem holding_items {t : EntryTable Bundle} {b : Bundle} (member : b ∈ t.rows) (kind : ItemKind)
    (holding : docs.Holding (t.entries.flatMap Entry.held ++ others)) :
    ∃ rest, docs.Holding ((b.items.get kind).entries.flatMap Entry.held ++ rest) := by
  obtain ⟨id, found⟩ := List.mem_iff_getElem?.1 member
  obtain ⟨rest, inTable, -⟩ := entries_setRow (t := t) found
  obtain ⟨besides, inRow, -⟩ := Bundle.itemEntries_set b.items kind
  have split : t.entries.Perm ((b.items.get kind).entries ++ (besides ++ rest ++ [b.entry])) := by
    rw [← List.append_assoc, ← List.append_assoc]
    exact (inTable.trans ((inRow.cons b.entry).append_right rest)).trans (List.perm_append_singleton _ _).symm
  refine ⟨(besides ++ rest ++ [b.entry]).flatMap Entry.held ++ others, holding.perm ?_⟩
  rw [← List.append_assoc, ← List.flatMap_append]
  exact (split.flatMap_right Entry.held).append_right others

end

/-! ## Runs -/

/-- Over every run of a table of themes or items, of a table of bundles with all items in them, and of a catalog,
entries keep their numbers: an operation leaves alone all rows that it is not about, and a new row has a number
that no row has. -/
theorem stable_of_run :
    (∀ {t : EntryTable Entry} {docs : DocumentTable}, Run Step (t, docs) → t.Stable docs) ∧
    (∀ {t : EntryTable Bundle} {docs : DocumentTable}, Run Bundle.Step (t, docs) →
      t.Stable docs ∧ ∀ b ∈ t.rows, ∀ kind, (b.items.get kind).Stable docs) ∧
    ∀ {c : Catalog}, Reachable (fun _ _ => True) c → c.db.themes.Stable c.db.docs ∧ c.db.bundles.Stable c.db.docs ∧
      ∀ b ∈ c.db.bundles.rows, ∀ kind, (b.items.get kind).Stable c.db.docs := by
  have nested {t : EntryTable Bundle} {docs : DocumentTable} {others : List Nat}
      (holding : docs.Holding (t.entries.flatMap Entry.held ++ others)) :
      t.Stable docs ∧ ∀ b ∈ t.rows, ∀ kind, (b.items.get kind).Stable docs := by
    refine ⟨stable_of_holding holding, fun b member kind => ?_⟩
    obtain ⟨rest, held⟩ := holding_items member kind holding
    exact stable_of_holding held
  refine ⟨fun {t docs} run => ?_, fun {t docs} run => ?_, fun {c} reached => ?_⟩
  · have holding := (run.keeping fun _ _ step => step.passes).holding
    rw [← held_entries, ← List.append_nil (t.entries.flatMap Entry.held)] at holding
    exact stable_of_holding holding
  · have holding := (run.keeping fun _ _ step => step.passes).holding
    rw [← held_bundleEntries, ← List.append_nil (t.entries.flatMap Entry.held)] at holding
    exact nested holding
  · obtain ⟨left, holding⟩ := (owns_of_reachable reached).holding
    rw [List.nil_append, Database.entries, List.flatMap_append] at holding
    have inThemes := holding.perm (List.perm_append_comm_assoc _ _ _)
    rw [← List.append_assoc] at holding
    exact ⟨stable_of_holding inThemes, nested (holding.perm List.perm_append_comm)⟩

/-- A new theme takes the place of one that was dropped between two others. A bundle with a snippet, in a table and in a
catalog that was opened where there are no files. -/
theorem stable_of_run_reused :
    (∃ (t : EntryTable Entry) (docs : DocumentTable), Run Step (t, docs) ∧ t.size = 3 ∧ t.entryAt? 1 = some Entry.tombstone ∧
      (t.insert 1 { own := true } (docs.insert .new).1).2 = 1 ∧ t.Stable docs) ∧
    (∃ (t : EntryTable Bundle) (docs : DocumentTable) (b : Bundle), Run Bundle.Step (t, docs) ∧ b ∈ t.rows ∧
      (b.items.get .snippet).size = 1 ∧ t.Stable docs ∧ (b.items.get .snippet).Stable docs) ∧
    ∃ (c : Catalog) (b : Bundle), Reachable (fun _ _ => True) c ∧ b ∈ c.db.bundles.rows ∧ (b.items.get .snippet).size = 1 ∧
      c.db.bundles.Stable c.db.docs ∧ (b.items.get .snippet).Stable c.db.docs := by
  refine ⟨?_, ?_, ?_⟩
  · have first : Run Step (_, _) := .step (.empty : Run (Step (ρ := Entry)) _) (.insert .pristine (d := .new) rfl)
    have second : Run Step (_, _) := .step first (.insert .pristine (d := .new) rfl)
    have third : Run Step (_, _) := .step second (.insert .pristine (d := .new) rfl)
    obtain ⟨t, docs, run, size, gone, place⟩ : ∃ (t : EntryTable Entry) (docs : DocumentTable), Run Step (t, docs) ∧
        t.size = 3 ∧ t.entryAt? 1 = some Entry.tombstone ∧ (t.insert 1 { own := true } (docs.insert .new).1).2 = 1 :=
      ⟨_, _, .step third (.drop 1 { pristine := true }), rfl, rfl, rfl⟩
    exact ⟨t, docs, run, size, gone, place, stable_of_run.1 run⟩
  · have added : Run Bundle.Step (_, _) := .step .empty (.table (.insert .pristine (d := .new) rfl))
    obtain ⟨t, docs, b, run, member, size⟩ : ∃ (t : EntryTable Bundle) (docs : DocumentTable) (b : Bundle),
        Run Bundle.Step (t, docs) ∧ b ∈ t.rows ∧ (b.items.get .snippet).size = 1 :=
      ⟨_, _, _, .step added (@Bundle.Step.items _ _ _ 0 _ .snippet _ rfl rfl (.insert .pristine (d := .new) rfl)),
        List.mem_cons_self, rfl⟩
    obtain ⟨stable, items⟩ := stable_of_run.2.1 run
    exact ⟨t, docs, b, run, member, size, stable, items b member .snippet⟩
  · obtain ⟨empty, c, files, opens, bare⟩ := bare_openAt { nth := fun _ => "A" }
    have opened : Reachable (fun _ _ => True) c := .opened empty opens
    obtain ⟨config, db, files, identities, dirty, lastFlush, pending, complete⟩ := c
    obtain ⟨rfl, rfl⟩ := bare
    have withBundle := Reachable.next opened trivial (rfl : (Operation.newBundle "b").run? _ = some _)
    obtain ⟨c, b, reached, member, size⟩ : ∃ (c : Catalog) (b : Bundle), Reachable (fun _ _ => True) c ∧
        b ∈ c.db.bundles.rows ∧ (b.items.get .snippet).size = 1 :=
      ⟨_, _, .next withBundle trivial (rfl : (Operation.newItem .snippet 0 "s").run? _ = some _), List.mem_cons_self, rfl⟩
    obtain ⟨-, stable, items⟩ := stable_of_run.2.2 reached
    exact ⟨c, b, reached, member, size, stable, items b member .snippet⟩

end EntryTable

end EditorBundles.Catalog
