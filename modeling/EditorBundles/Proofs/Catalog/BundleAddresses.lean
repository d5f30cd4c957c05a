import EditorBundles.Proofs.Catalog.Directories
import EditorBundles.Proofs.Catalog.FreeNames

/-!
# Directories as addresses

A scan finds the bundle that a directory is of by the name of the directory, and so does whoever follows the address of an
item. Both find the right one in every run that saves no bundle under the name of another one's directory. What is looked
at when a bundle is saved are the files of the user, where the directories of factory bundles are not.
-/

namespace EditorBundles.Catalog
set_option autoImplicit false
open PropertyList

variable {c c' : Catalog} {id : Nat} {b : Bundle}

/-- Directories are apart in every run that gives no bundle the directory of another one. -/
theorem placed_of_reachable (reached : Reachable Unplaced c) : c.db.bundles.Placed :=
  reached.induct (P := fun db => db.bundles.Placed) EntryTable.placed_empty (fun _ placed => placed_resume placed)
    fun _ _ _ placed free runs => Operation.placed placed free runs

/-- The first bundle with a directory is the only one. -/
theorem EntryTable.Placed.findDir? (h : c.db.bundles.Placed) (found : c.db.bundles.row? id = some b)
    (here : b.entry.isTombstone = false) (placed : b.dirName ≠ "") : c.findDir? b.dirName = some id := by
  cases first : c.findDir? b.dirName with
  | none => exact absurd rfl (dirName_ne_of_findDir?_eq_none first found here)
  | some other =>
    obtain ⟨bound, matches_, -⟩ := List.findIdx?_eq_some_iff_getElem.1 first
    rw [Bool.and_eq_true, decide_eq_true_eq] at matches_
    rw [h.apart id other b _ found (List.getElem?_eq_getElem bound) placed matches_.2]

/-- Whatever comes of it, a bundle that is saved has a directory from then on. -/
theorem exists_saveBundle? {own : Nat} {d : Document} (found : c.db.bundles.row? id = some b)
    (named : savable? b.entry = some own) (live : c.liveDoc? own = some d) : ∃ c' result b',
      c.saveBundle? id = some (c', result) ∧ c'.db.bundles.row? id = some b' ∧
      (b'.dirName = if b.dirName.isEmpty then
        freeName c.files c.config.ownBundles ((d.rootString? "name").getD "") ".tmbundle" else b.dirName) ∧
      b'.entry.locality = b.entry.locality ∧
      ∀ other, other ≠ id → c'.db.bundles.row? other = c.db.bundles.row? other := by
  have changed {c : Catalog} {b : Bundle} (found : c.db.bundles.row? id = some b) (change : Bundle → Bundle) :
      (c.modifyBundle id change).db.bundles.row? id = some (change b) := by
    rw [modifyBundle, withDb, EntryTable.modify_eq found, EntryTable.row?_setRow_self (EntryTable.lt_of_row? found)]
  have others (c : Catalog) (change : Bundle → Bundle) (other : Nat) (ne : other ≠ id) :
      (c.modifyBundle id change).db.bundles.row? other = c.db.bundles.row? other :=
    List.getElem?_modify_ne _ _ ne.symm
  rw [saveBundle?, found]
  dsimp only [Option.bind_eq_bind, Option.bind_some]
  rw [named]
  dsimp only
  rw [live, Option.bind_some]
  generalize (if b.dirName.isEmpty then
    freeName c.files c.config.ownBundles ((d.rootString? "name").getD "") ".tmbundle" else b.dirName) = dirName
  have placed := changed found fun b => { b with dirName }
  have rest := others c fun b => { b with dirName }
  generalize c.modifyBundle id (fun b => { b with dirName }) = c₁ at placed rest
  cases c₁.files.createDirectories (c₁.ownDir dirName) with
  | mk files result =>
    cases result with
    | error fault => exact ⟨_, _, _, rfl, placed, rfl, rfl, rest⟩
    | ok _ =>
      dsimp only
      have same := (bundles_saveDoc (nameDoc { c₁ with files } own fun _ => manifestName) own
        ((nameDoc { c₁ with files } own fun _ => manifestName).ownDir dirName)).trans (bundles_nameDoc { c₁ with files } own _)
      generalize nameDoc { c₁ with files } own (fun _ => manifestName) = c₂ at same
      generalize c₂.saveDoc own (c₂.ownDir dirName) = ending at same
      obtain ⟨c₃, result⟩ := ending
      have there : c₃.db.bundles.row? id = some { b with dirName } := same ▸ placed
      have rest₃ (other : Nat) (ne : other ≠ id) : c₃.db.bundles.row? other = c.db.bundles.row? other :=
        (congrArg (·.row? other) same).trans (rest other ne)
      cases result with
      | error fault => exact ⟨_, _, _, rfl, there, rfl, rfl, rest₃⟩
      | ok _ => exact ⟨_, _, _, rfl, changed there _, rfl, rfl, fun other ne => (others c₃ _ other ne).trans (rest₃ other ne)⟩

/-- In runs that save no bundle under the name of another one's directory, a bundle is the only one in its directory, the
directory leads to it, and the address of each of its items leads into it. -/
theorem findDir?_of_reachable (reached : Reachable Unplaced c) (found : c.db.bundles.row? id = some b)
    (here : b.entry.isTombstone = false) (placed : b.dirName ≠ "") :
    (∀ other b', c.db.bundles.row? other = some b' → b'.dirName = b.dirName → other = id) ∧
      c.findDir? b.dirName = some id ∧
      ∀ kind item address, c.itemAddress? kind id item = some (some address) →
        ∃ item', c.findAddress? address = some (kind, id, item') := by
  have apart := placed_of_reachable reached
  have leads := apart.findDir? found here placed
  refine ⟨fun other b' found' same => apart.apart id other b b' found found' placed same, leads, ?_⟩
  intro kind item address addressed
  obtain ⟨row, place, addressed⟩ := Option.bind_eq_some_iff.1 addressed
  obtain rfl := Option.some.inj (found.symm.trans place)
  obtain ⟨e, there, addressed⟩ := Option.bind_eq_some_iff.1 addressed
  obtain ⟨doc, resolved, rfl⟩ := Option.map_eq_some_iff.1 (Option.some.inj addressed)
  have table : c.itemTable? kind id = some (b.items.get kind) := congrArg (Option.map _) found
  rw [Catalog.item?, table] at there
  obtain ⟨row, member, rfl⟩ := EntryTable.row?_of_entryAt? there
  rw [findAddress?, leads]
  dsimp only [Option.bind_eq_bind, Option.bind_some]
  rw [table, Option.bind_some]
  -- the item itself is in effect with its file, so that some item is
  cases first : EntryTable.findEntry? (b.items.get kind) fun e => e.resolve.any fun d =>
      (c.db.docs.get d).filename = (c.db.docs.get doc).filename with
  | some item' => exact ⟨item', rfl⟩
  | none =>
    have wrong := List.findIdx?_eq_none_iff.1 first row (EntryTable.mem_of_row? member)
    simp [resolved] at wrong

/-- Of two new bundles one is saved, and its directory leads to it. -/
theorem findDir?_of_reachable_new : ∃ c b b', Reachable Unplaced c ∧ c.db.bundles.row? 0 = some b ∧
    c.db.bundles.row? 1 = some b' ∧ b.dirName = "A.tmbundle" ∧ b'.dirName = "" ∧ c.findDir? "A.tmbundle" = some 0 := by
  obtain ⟨empty, c, files, opens, bare⟩ := bare_openAt { nth := fun _ => "U" }
  have opened : Reachable Unplaced c := .opened empty opens
  have first : Reachable Unplaced (c.newBundle "A").1 :=
    opened.next (show c.Unplaced (.newBundle "A") from trivial) rfl
  have second : Reachable Unplaced ((c.newBundle "A").1.newBundle "B").1 :=
    first.next (show (c.newBundle "A").1.Unplaced (.newBundle "B") from trivial) rfl
  obtain ⟨b, b', d, rows, unplaced, unplaced', owned, named, live, title⟩ : ∃ b b' d,
      ((c.newBundle "A").1.newBundle "B").1.db.bundles.rows = [b, b'] ∧ b.dirName = "" ∧ b'.dirName = "" ∧
      b.entry.locality = { own := true } ∧ savable? b.entry = some 0 ∧
      ((c.newBundle "A").1.newBundle "B").1.liveDoc? 0 = some d ∧ d.rootString? "name" = some "A" := by
    obtain ⟨config, db, files, identities, dirty, lastFlush, pending, complete⟩ := c
    obtain ⟨rfl, rfl⟩ := bare
    exact ⟨_, _, _, rfl, rfl, rfl, rfl, rfl, rfl, rfl⟩
  have none_ : ((c.newBundle "A").1.newBundle "B").1.files = {} := bare.files
  generalize ((c.newBundle "A").1.newBundle "B").1 = c₂ at second rows live none_
  have place : c₂.db.bundles.row? 0 = some b := by rw [EntryTable.row?, rows]; rfl
  have place' : c₂.db.bundles.row? 1 = some b' := by rw [EntryTable.row?, rows]; rfl
  have chosen : freeName c₂.files c₂.config.ownBundles "A" ".tmbundle" = "A.tmbundle" := by
    rw [none_, freeName_bare _ _ isExtension_bundle]
    rfl
  have free : c₂.Placeable 0 := by
    intro b₀ own d₀ _ _ _ _ other row found same
    have member : row ∈ [b, b'] := rows ▸ EntryTable.mem_of_row? found
    have nowhere : row.dirName = "" := by
      simp only [List.mem_cons, List.not_mem_nil, or_false] at member
      rcases member with rfl | rfl <;> assumption
    exact freeName_ne_empty _ _ _ isExtension_bundle (same.symm.trans nowhere)
  obtain ⟨c₃, result, saved, save, there, directory, kept, others⟩ := exists_saveBundle? place named live
  replace directory : saved.dirName = "A.tmbundle" := by
    rw [directory, unplaced, title]
    exact chosen
  have reached : Reachable Unplaced c₃ :=
    second.next (show c₂.Unplaced (.saveBundle 0) from free) (congrArg (Option.map Prod.fst) save)
  have here : saved.entry.isTombstone = false := by rw [Entry.isTombstone, kept, owned]
  have leads := (findDir?_of_reachable reached there here (by rw [directory]; decide)).2.1
  exact ⟨c₃, saved, b', reached, there, (others 1 Nat.one_ne_zero).trans place', directory, unplaced', directory ▸ leads⟩

end EditorBundles.Catalog
