import EditorBundles.Proofs.Catalog.LiveRows
import EditorBundles.Proofs.Catalog.SteadyRows
import EditorBundles.Proofs.Catalog.ViewKeeping

/-!
# What a scan makes of each row

A table is what is found at its numbers, rows that are gone aside: the marks of these rows are all alike, and none is at the
end. The first two rounds of a scan of a directory look at each row once, and what they make of it hangs on the row and on
the files alone, as long as no two rows have their versions in one file.
-/

namespace EditorBundles.Catalog
set_option autoImplicit false
open PropertyList

theorem EntryView.deleted_dropVersions_eq {loc : Locality} (apart : loc.deleted = false) (e : EntryView) :
    (e.dropVersions loc).1.locality.deleted = e.locality.deleted := by
  cases installed : e.locality.installed <;> cases factory : loc.installed <;>
    simp [dropVersions, Locality.without, installed, factory, apart]

namespace TableView

variable {ν : Type} [RowView ν] {t u : TableView ν} {id other : Nat} {row row' : ν} {loc : Locality} {d : Document}

/-! ## Rows that are there -/

/-- The row with a number, unless it is gone. -/
def present? (t : TableView ν) (id : Nat) : Option ν := (t.row? id).filter fun row => !(RowView.entry row).isTombstone

theorem present?_eq_some : t.present? id = some row ↔ t.row? id = some row ∧ (RowView.entry row).locality.deleted = false := by
  rw [present?, Option.filter_eq_some_iff, Bool.not_eq_true', EntryView.isTombstone]

theorem present?_of_size_le (beyond : t.size ≤ id) : t.present? id = none := by
  rw [present?, row?, List.getElem?_eq_none beyond]
  rfl

/-- Rows that are gone are marked all alike, and no mark is at the end. -/
structure Compact (t : TableView ν) : Prop where
  marks : ∀ id row, t.row? id = some row → (RowView.entry row).locality.deleted = true →
    row = RowView.ofEntry EntryView.tombstone
  last : ∀ row, t.rows.getLast? = some row → (RowView.entry row).locality.deleted = false

/-- Where all that is found in a compact table is found in another one, that is no smaller. -/
theorem Compact.size_le (h : t.Compact) (same : ∀ id row, t.present? id = some row → u.present? id = some row) :
    t.size ≤ u.size := by
  cases last : t.rows.getLast? with
  | none =>
    rw [List.getLast?_eq_none_iff] at last
    rw [size, last]
    exact Nat.zero_le _
  | some row =>
    have here := h.last row last
    rw [List.getLast?_eq_getElem?] at last
    have found := same _ row (present?_eq_some.2 ⟨last, here⟩)
    have bound := (List.getElem?_eq_some_iff.1 (present?_eq_some.1 found).1).1
    unfold size
    omega

/-- A compact table is what is found in it. -/
theorem Compact.ext (ht : t.Compact) (hu : u.Compact) (same : ∀ id, t.present? id = u.present? id) : t = u := by
  have size : t.rows.length = u.rows.length := Nat.le_antisymm
    (ht.size_le fun id row found => (same id).symm.trans found) (hu.size_le fun id row found => (same id).trans found)
  refine ext_row? fun id => ?_
  by_cases bound : id < t.rows.length
  · obtain ⟨row, found⟩ : ∃ row, t.row? id = some row := ⟨_, List.getElem?_eq_getElem bound⟩
    obtain ⟨row', found'⟩ : ∃ row, u.row? id = some row := ⟨_, List.getElem?_eq_getElem (size ▸ bound)⟩
    have same := same id
    rw [present?, present?, found, found', Option.filter_some, Option.filter_some] at same
    rw [found, found']
    cases gone : (RowView.entry row).locality.deleted <;> cases gone' : (RowView.entry row').locality.deleted
    · simpa [EntryView.isTombstone, gone, gone'] using same
    · simp [EntryView.isTombstone, gone, gone'] at same
    · simp [EntryView.isTombstone, gone, gone'] at same
    · rw [ht.marks id row found gone, hu.marks id row' found' gone']
  · rw [row?, row?, List.getElem?_eq_none (by omega), List.getElem?_eq_none (by omega)]

/-! ## One row -/

/-- What is left of a row when versions are dropped, if one is left. -/
def dropRow? (row : ν) (loc : Locality) : Option ν :=
  if ((RowView.entry row).dropVersions loc).1.locality.hasSource then some (dropRow row loc) else none

/-- The row with a document as its version at a locality. -/
def registerRow (row : ν) (d : Document) (loc : Locality) : ν :=
  RowView.withEntry row ((RowView.entry row).register d loc)

theorem present?_setRow (t : TableView ν) (id other : Nat) (row : ν) : (t.setRow id row).present? other =
    if id = other then ((t.row? id).map fun _ => row).filter fun row => !(RowView.entry row).isTombstone
    else t.present? other := by
  rw [present?, row?_setRow]
  split
  · next same => rw [same]
  · rfl

/-- A row takes the place of one that is there. -/
theorem Compact.setRow (h : t.Compact) (here : (RowView.entry row).locality.deleted = false) (id : Nat) :
    (t.setRow id row).Compact where
  marks other row' found gone := by
    rw [row?_setRow] at found
    split at found
    · obtain ⟨-, -, rfl⟩ := Option.map_eq_some_iff.1 found
      exact Bool.noConfusion (here.symm.trans gone)
    · exact h.marks other row' found gone
  last row' last := by
    rw [List.getLast?_eq_getElem?, TableView.setRow, List.length_set, List.getElem?_set] at last
    split at last
    · split at last
      · exact Option.some.inj last ▸ here
      · cases last
    · exact h.last row' (List.getLast?_eq_getElem?.trans last)

theorem Compact.cut (h : t.Compact) (id : Nat) : (t.cut id).Compact where
  marks other row found gone := by
    rcases row?_of_row?_cut found with ⟨-, found⟩ | ⟨-, marked⟩
    · exact h.marks other row found gone
    · exact marked
  last row last := by
    rw [TableView.cut] at last
    split at last
    · have kept := List.head?_dropWhile_not (fun row : ν => (RowView.entry row).isTombstone) (t.rows.take id).reverse
      rw [show (⟨trimRows (t.rows.take id)⟩ : TableView ν).rows = _ from rfl, trimRows, List.getLast?_reverse] at last
      rw [last] at kept
      simpa [EntryView.isTombstone] using kept
    · next early =>
      rw [TableView.setRow, List.getLast?_eq_getElem?, List.length_set] at last
      have bound : t.rows.length - 1 < t.rows.length := by simpa using (List.getElem?_eq_some_iff.1 last).1
      have apart : id ≠ t.rows.length - 1 := by
        unfold TableView.size at early
        omega
      rw [List.getElem?_set_ne apart] at last
      exact h.last row (List.getLast?_eq_getElem?.trans last)

variable [LawfulRowView ν]

theorem entry_registerRow (row : ν) (d : Document) (loc : Locality) :
    RowView.entry (registerRow row d loc) = (RowView.entry row).register d loc := LawfulRowView.entry_withEntry row _

theorem deleted_tombstone : (RowView.entry (RowView.ofEntry EntryView.tombstone : ν)).locality.deleted = true := by
  rw [LawfulRowView.entry_ofEntry]
  rfl

theorem present?_cut (t : TableView ν) (id other : Nat) :
    (t.cut id).present? other = if id = other then none else t.present? other := by
  refine Option.ext fun row => ?_
  rw [present?_eq_some]
  split
  · next same =>
    refine ⟨fun ⟨found, here⟩ => ?_, nofun⟩
    rcases row?_of_row?_cut found with ⟨different, -⟩ | ⟨-, rfl⟩
    · exact absurd same.symm different
    · exact Bool.noConfusion (deleted_tombstone.symm.trans here)
  · next different =>
    rw [present?_eq_some]
    refine ⟨fun ⟨found, here⟩ => ?_, fun ⟨found, here⟩ => ⟨row?_cut_of_ne different found here, here⟩⟩
    rcases row?_of_row?_cut found with ⟨-, found⟩ | ⟨same, -⟩
    · exact ⟨found, here⟩
    · exact absurd same.symm different

/-- Dropping versions of a row leaves the others as they are. -/
theorem present?_drop (apart : loc.deleted = false) (t : TableView ν) (id other : Nat) :
    (t.drop id loc).present? other =
      if id = other then (t.present? other).bind fun row => dropRow? row loc else t.present? other := by
  rw [drop]
  cases found : t.row? id with
  | none =>
    dsimp only
    split
    · next same =>
      rw [present?, ← same, found]
      rfl
    · rfl
  | some row =>
    have flags : (RowView.entry (dropRow row loc)).locality.deleted = (RowView.entry row).locality.deleted := by
      rw [entry_dropRow, EntryView.deleted_dropVersions_eq apart]
    dsimp only
    cases left : ((RowView.entry row).dropVersions loc).1.locality.hasSource with
    | true =>
      rw [if_pos rfl, present?_setRow]
      split
      · next same =>
        subst same
        rw [present?, found, Option.map_some, Option.filter_some, Option.filter_some, EntryView.isTombstone,
          EntryView.isTombstone, flags]
        cases (RowView.entry row).locality.deleted <;> simp [dropRow?, left]
      · rfl
    | false =>
      rw [if_neg Bool.false_ne_true, present?_cut]
      split
      · next same =>
        subst same
        rw [present?, found, Option.filter_some]
        cases (RowView.entry row).isTombstone <;> simp [dropRow?, left]
      · rfl

theorem Compact.drop (h : t.Compact) (found : t.present? id = some row) (loc : Locality) : (t.drop id loc).Compact := by
  obtain ⟨there, here⟩ := present?_eq_some.1 found
  rw [TableView.drop, there]
  dsimp only
  split
  · refine h.setRow ?_ id
    rw [entry_dropRow]
    exact EntryView.deleted_dropVersions here loc
  · exact h.cut id

/-- Recording a document in a row leaves the others as they are. -/
theorem present?_register (source : loc.IsSource) (t : TableView ν) (id other : Nat) (d : Document) :
    (t.register id d loc).present? other = if id = other then (t.present? other).map fun row => registerRow row d loc else
      t.present? other := by
  rw [present?, row?_register]
  split
  · have flags (row : ν) : (RowView.entry (registerRow row d loc)).isTombstone = (RowView.entry row).isTombstone := by
      rw [entry_registerRow]
      exact EntryView.deleted_register_eq source _ d
    rw [present?]
    cases t.row? other with
    | none => rfl
    | some row =>
      have flags := flags row
      rw [registerRow] at flags
      rw [Option.map_some, Option.filter_some, Option.filter_some, flags]
      split <;> rfl
  · rfl

theorem Compact.register (h : t.Compact) (source : loc.IsSource) (found : t.present? id = some row) (d : Document) :
    (t.register id d loc).Compact := by
  obtain ⟨there, here⟩ := present?_eq_some.1 found
  have same : t.register id d loc = t.setRow id (registerRow row d loc) := by
    refine ext_row? fun other => ?_
    rw [row?_register, row?_setRow]
    split
    · next same =>
      rw [← same, there]
      rfl
    · rfl
  rw [same]
  refine h.setRow ?_ id
  rw [entry_registerRow]
  exact EntryView.deleted_register here source d

/-! ## Rows and files -/

variable {fs : FileSystem} {dir name : String} {files left : List String} {ids : List Nat}

/-- Only rows that are there have versions. -/
theorem Compact.tracked?_eq (h : t.Compact) (source : loc.IsSource) (id : Nat) :
    t.tracked? loc id = (t.present? id).bind fun row => (RowView.entry row).tracked? loc := by
  cases found : t.row? id with
  | none =>
    rw [TableView.tracked?_eq, entryAt?, present?, found]
    rfl
  | some row =>
    rw [tracked?_of_row? found, present?, found, Option.filter_some, EntryView.isTombstone]
    cases gone : (RowView.entry row).locality.deleted with
    | false => rfl
    | true =>
      rw [h.marks id row found gone, LawfulRowView.entry_ofEntry]
      cases source <;> rfl

/-- No two rows have their versions at a locality in one file. -/
def Apart (loc : Locality) (t : TableView ν) : Prop :=
  ∀ i j v w, t.tracked? loc i = some v → t.tracked? loc j = some w → v.filename = w.filename → i = j

/-- No row has its version at a locality in the file with a name. -/
def untracked (t : TableView ν) (loc : Locality) (ids : List Nat) (name : String) : Bool :=
  ids.all fun id => (t.tracked? loc id).all fun v => v.filename ≠ name

/-- What is left of a row when the versions in missing files are dropped. -/
def keptRow? (loc : Locality) (files : List String) (row : ν) : Option ν :=
  if ((RowView.entry row).tracked? loc).any fun v => !files.contains v.filename && !v.fixed then dropRow? row loc else some row

/-- What is left of a row when changed files are read again. -/
def readRow? (fs : FileSystem) (dir : String) (loc : Locality) (files : List String) (row : ν) : Option ν :=
  match ((RowView.entry row).tracked? loc).filter fun v => files.contains v.filename with
  | none => some row
  | some v =>
    let path := Path.join dir v.filename
    if EntryTable.hasChanged fs path v.document && !v.fixed then
      match Document.load fs path with
      | .ok fresh => some (registerRow row fresh loc)
      | .error _ => dropRow? row loc
    else some row

/-- What the first two rounds of a scan leave of a row. -/
def scanRow? (fs : FileSystem) (dir : String) (loc : Locality) (files : List String) (row : ν) : Option ν :=
  match (RowView.entry row).tracked? loc with
  | none => some row
  | some v =>
    if v.fixed then some row
    else if files.contains v.filename then
      let path := Path.join dir v.filename
      if EntryTable.hasChanged fs path v.document then
        match Document.load fs path with
        | .ok fresh => some (registerRow row fresh loc)
        | .error _ => dropRow? row loc
      else some row
    else dropRow? row loc

/-- A row from which versions were dropped has none at their locality. -/
theorem tracked?_of_dropRow? (source : loc.IsSource) (dropped : dropRow? row loc = some row') :
    (RowView.entry row').tracked? loc = none := by
  rw [dropRow?] at dropped
  split at dropped
  · obtain rfl := Option.some.inj dropped
    rw [entry_dropRow, EntryView.tracked?, if_neg]
    cases source <;> cases installed : (RowView.entry row).locality.installed <;>
      simp [EntryView.dropVersions, Locality.without, Locality.contains, installed]
  · cases dropped

omit [LawfulRowView ν] in
theorem readRow?_of_tracked?_eq_none (none_ : (RowView.entry row).tracked? loc = none) :
    readRow? fs dir loc files row = some row := by
  rw [readRow?, none_]
  rfl

omit [LawfulRowView ν] in
theorem readRow?_of_tracked? {v : TrackedView} (tracked : (RowView.entry row).tracked? loc = some v) (fs : FileSystem)
    (dir : String) (files : List String) : readRow? fs dir loc files row =
      if files.contains v.filename && (EntryTable.hasChanged fs (Path.join dir v.filename) v.document && !v.fixed) then
        match Document.load fs (Path.join dir v.filename) with
        | .ok fresh => some (registerRow row fresh loc)
        | .error _ => dropRow? row loc
      else some row := by
  rw [readRow?, tracked, Option.filter_some]
  cases files.contains v.filename <;> rfl

/-- The two rounds are one step for each row. -/
theorem bind_readRow? (source : loc.IsSource) (fs : FileSystem) (dir : String) (files : List String) (row : ν) :
    (keptRow? loc files row).bind (readRow? fs dir loc files) = scanRow? fs dir loc files row := by
  rw [keptRow?, scanRow?]
  cases tracked : (RowView.entry row).tracked? loc with
  | none => exact readRow?_of_tracked?_eq_none tracked
  | some v =>
    obtain ⟨document, filename, fixed⟩ := v
    have dropped : (dropRow? row loc).bind (readRow? fs dir loc files) = dropRow? row loc := by
      cases left : dropRow? row loc with
      | none => rfl
      | some row' => exact readRow?_of_tracked?_eq_none (tracked?_of_dropRow? source left)
    have reads := readRow?_of_tracked? tracked fs dir files
    rw [Option.any_some]
    dsimp only at reads ⊢
    cases fixed with
    | true =>
      rw [Bool.not_true, Bool.and_false, Bool.and_false] at reads
      rw [Bool.not_true, Bool.and_false]
      exact reads
    | false =>
      rw [Bool.not_false, Bool.and_true] at reads
      cases there : files.contains filename with
      | false => exact dropped
      | true =>
        rw [there, Bool.true_and] at reads
        exact reads

/-! ## One row after the other -/

/-- A table is another one with some of its rows changed, each on its own. -/
structure Swept (change : ν → Option ν) (ids : List Nat) (t t' : TableView ν) : Prop where
  compact : t'.Compact
  rows : ∀ id, t'.present? id = if id ∈ ids then (t.present? id).bind change else t.present? id

section
variable {t' t'' : TableView ν} {change : ν → Option ν}

omit [LawfulRowView ν] in
theorem Swept.nil (h : t.Compact) : Swept change [] t t := ⟨h, fun _ => (if_neg List.not_mem_nil).symm⟩

omit [LawfulRowView ν] in
theorem Swept.cons (first : Swept change [id] t t') (rest : Swept change ids t' t'') (fresh : id ∉ ids) :
    Swept change (id :: ids) t t'' := by
  refine ⟨rest.compact, fun other => ?_⟩
  rw [rest.rows, first.rows]
  by_cases same : other = id
  · subst same
    rw [if_neg fresh, if_pos List.mem_cons_self, if_pos List.mem_cons_self]
  · simp [same]

omit [LawfulRowView ν] in
theorem Swept.keep (h : t.Compact) (same : ∀ row, t.present? id = some row → change row = some row) :
    Swept change [id] t t := by
  refine ⟨h, fun other => ?_⟩
  split
  · next equal =>
    rw [List.mem_singleton.1 equal]
    cases found : t.present? id with
    | none => rfl
    | some row => rw [Option.bind_some, same row found]
  · rfl

omit [LawfulRowView ν] in
theorem Swept.of_eq (compact : t'.Compact) (found : t.present? id = some row) (rows : ∀ other, t'.present? other =
    if id = other then change row else t.present? other) : Swept change [id] t t' := by
  refine ⟨compact, fun other => ?_⟩
  rw [rows]
  by_cases same : id = other
  · rw [← same, if_pos rfl, if_pos List.mem_cons_self, found, Option.bind_some]
  · rw [if_neg same, if_neg fun member => same (List.mem_singleton.1 member).symm]

theorem Swept.drop (h : t.Compact) (source : loc.IsSource) (found : t.present? id = some row)
    (dropped : change row = dropRow? row loc) : Swept change [id] t (t.drop id loc) := by
  refine .of_eq (h.drop found loc) found fun other => ?_
  rw [present?_drop (by cases source <;> rfl), dropped]
  split
  · next same => rw [← same, found, Option.bind_some]
  · rfl

theorem Swept.register (h : t.Compact) (source : loc.IsSource) (found : t.present? id = some row)
    (registered : change row = some (registerRow row d loc)) : Swept change [id] t (t.register id d loc) := by
  refine .of_eq (h.register source found d) found fun other => ?_
  rw [present?_register source, registered]
  split
  · next same => rw [← same, found, Option.map_some]
  · rfl

omit [LawfulRowView ν] in
theorem Swept.of_range (swept : Swept change (List.range t.size) t t') (id : Nat) :
    t'.present? id = (t.present? id).bind change := by
  rw [swept.rows]
  split
  · rfl
  · next outside =>
    rw [present?_of_size_le (by simpa using outside)]
    rfl

/-- The versions of other rows are as before. -/
theorem Swept.tracked?_eq (swept : Swept change ids t t') (h : t.Compact) (source : loc.IsSource) (other : id ∉ ids) :
    t'.tracked? loc id = t.tracked? loc id := by
  rw [swept.compact.tracked?_eq source, h.tracked?_eq source, swept.rows, if_neg other]

end

theorem Compact.dropMissing (h : t.Compact) (source : loc.IsSource) (single : ids.Nodup) :
    Swept (keptRow? loc files) ids t (dropMissing loc files t ids) := by
  induction ids generalizing t with
  | nil => exact .nil h
  | cons id ids ih =>
    obtain ⟨fresh, single⟩ := List.nodup_cons.1 single
    have step : Swept (keptRow? loc files) [id] t
        (if (t.tracked? loc id).any fun v => !files.contains v.filename && !v.fixed then t.drop id loc else t) := by
      rw [h.tracked?_eq source]
      cases found : t.present? id with
      | none => exact .keep h fun row there => by rw [found] at there; cases there
      | some row =>
        rw [Option.bind_some]
        split
        · next missing => exact .drop h source found (if_pos missing)
        · next kept =>
          refine .keep h fun row' there => ?_
          rw [found] at there
          exact Option.some.inj there ▸ if_neg kept
    rw [TableView.dropMissing]
    split
    · next missing =>
      rw [if_pos missing] at step
      exact step.cons (ih step.compact single) fresh
    · next kept =>
      rw [if_neg kept] at step
      exact step.cons (ih step.compact single) fresh

/-- A changed file of a list is read again for a row. -/
def reloadRow (fs : FileSystem) (dir : String) (loc : Locality) (left : List String) (t : TableView ν) (id : Nat) :
    TableView ν :=
  match (t.tracked? loc id).filter fun v => left.contains v.filename with
  | none => t
  | some v =>
    let path := Path.join dir v.filename
    if EntryTable.hasChanged fs path v.document && !v.fixed then
      match Document.load fs path with
      | .ok fresh => t.register id fresh loc
      | .error _ => t.drop id loc
    else t

omit [LawfulRowView ν] in
/-- The files of a list but for that of a row. -/
theorem filter_untracked (single : left.Nodup) (t : TableView ν) (loc : Locality) (id : Nat) :
    left.filter (t.untracked loc [id]) = ((t.tracked? loc id).elim left fun v => left.erase v.filename) := by
  cases tracked : t.tracked? loc id with
  | none => exact List.filter_eq_self.2 fun _ _ => by simp [untracked, tracked]
  | some v =>
    rw [Option.elim_some, single.erase_eq_filter]
    refine List.filter_congr fun name _ => ?_
    rw [Bool.eq_iff_iff, bne_iff_ne, untracked, List.all_cons, tracked, Option.all_some, List.all_nil, Bool.and_true,
      decide_eq_true_eq]
    exact ne_comm

omit [LawfulRowView ν] in
theorem reloadChanged_cons (single : left.Nodup) (t : TableView ν) (id : Nat) (ids : List Nat) :
    reloadChanged fs dir loc left t (id :: ids) =
      reloadChanged fs dir loc (left.filter (t.untracked loc [id])) (t.reloadRow fs dir loc left id) ids := by
  rw [filter_untracked single, reloadChanged, reloadRow]
  cases t.tracked? loc id with
  | none => rfl
  | some v =>
    rw [Option.filter_some, Option.elim_some]
    cases there : left.contains v.filename with
    | false =>
      rw [List.erase_of_not_mem fun member => Bool.noConfusion (there.symm.trans (List.contains_iff_mem.2 member))]
      rfl
    | true =>
      rw [if_pos rfl]
      dsimp only
      split
      · cases Document.load fs (Path.join dir v.filename) <;> rfl
      · rfl

theorem Compact.reloadRow (h : t.Compact) (source : loc.IsSource)
    (listed : ∀ v, t.tracked? loc id = some v → left.contains v.filename = files.contains v.filename) :
    Swept (readRow? fs dir loc files) [id] t (t.reloadRow fs dir loc left id) := by
  rw [TableView.reloadRow, h.tracked?_eq source]
  rw [h.tracked?_eq source] at listed
  cases found : t.present? id with
  | none => exact .keep h fun row there => by rw [found] at there; cases there
  | some row =>
    have stays (same : readRow? fs dir loc files row = some row) : Swept (readRow? fs dir loc files) [id] t t := by
      refine .keep h fun row' there => ?_
      rw [found] at there
      exact Option.some.inj there ▸ same
    rw [found, Option.bind_some] at listed
    rw [Option.bind_some]
    cases tracked : (RowView.entry row).tracked? loc with
    | none => exact stays (readRow?_of_tracked?_eq_none tracked)
    | some v =>
      have reads := readRow?_of_tracked? tracked fs dir files
      rw [Option.filter_some, listed v tracked]
      cases there : files.contains v.filename with
      | false =>
        rw [there, Bool.false_and] at reads
        exact stays reads
      | true =>
        rw [there, Bool.true_and] at reads
        rw [if_pos rfl]
        dsimp only
        split
        · next changed =>
          rw [if_pos changed] at reads
          split
          · next document read =>
            rw [read] at reads
            exact .register h source found reads
          · next fault read =>
            rw [read] at reads
            exact .drop h source found reads
        · next unchanged =>
          rw [if_neg unchanged] at reads
          exact stays reads

/-- How far the rows have been compared with the files of a list: those that wait are apart, and a file of theirs is left
if it was in the list. -/
structure Waiting (loc : Locality) (files : List String) (t : TableView ν) (left : List String) (ids : List Nat) : Prop where
  compact : t.Compact
  single : left.Nodup
  files : ∀ id ∈ ids, ∀ v, t.tracked? loc id = some v → left.contains v.filename = files.contains v.filename
  apart : ∀ i ∈ ids, ∀ j ∈ ids, ∀ v w, t.tracked? loc i = some v → t.tracked? loc j = some w →
    v.filename = w.filename → i = j

/-- A row has been compared with the files, and the file of its version is not left. -/
theorem Waiting.next (h : Waiting loc files t left (id :: ids)) (source : loc.IsSource) (fresh : id ∉ ids) {t' : TableView ν}
    {change : ν → Option ν} (step : Swept change [id] t t') :
    Waiting loc files t' (left.filter (t.untracked loc [id])) ids := by
  have tracked (other : Nat) (member : other ∈ ids) : t'.tracked? loc other = t.tracked? loc other :=
    step.tracked?_eq h.compact source fun same => fresh (List.mem_singleton.1 same ▸ member)
  refine ⟨step.compact, h.single.filter _, fun other member v found => ?_, fun i first j second v w => ?_⟩
  · rw [tracked other member] at found
    rw [← h.files other (List.mem_cons_of_mem id member) v found, Bool.eq_iff_iff, List.contains_iff_mem,
      List.contains_iff_mem, List.mem_filter, untracked, List.all_cons, List.all_nil, Bool.and_true, Option.all_eq_true]
    refine and_iff_left fun w here => decide_eq_true fun equal => fresh ?_
    rw [h.apart id List.mem_cons_self other (List.mem_cons_of_mem id member) w v here found equal]
    exact member
  · rw [tracked i first, tracked j second]
    exact h.apart i (List.mem_cons_of_mem id first) j (List.mem_cons_of_mem id second) v w

theorem Waiting.reloadChanged (h : Waiting loc files t left ids) (source : loc.IsSource) (single : ids.Nodup)
    (fs : FileSystem) (dir : String) : Swept (readRow? fs dir loc files) ids t (reloadChanged fs dir loc left t ids).1 ∧
      (TableView.reloadChanged fs dir loc left t ids).2 = left.filter (t.untracked loc ids) := by
  induction ids generalizing t left with
  | nil => exact ⟨.nil h.compact, (List.filter_eq_self.2 fun _ _ => rfl).symm⟩
  | cons id ids ih =>
    obtain ⟨fresh, single⟩ := List.nodup_cons.1 single
    have step : Swept (readRow? fs dir loc files) [id] t (t.reloadRow fs dir loc left id) :=
      h.compact.reloadRow source (h.files id List.mem_cons_self)
    obtain ⟨swept, rest⟩ := ih (h.next source fresh step) single
    rw [reloadChanged_cons h.single]
    refine ⟨step.cons swept fresh, ?_⟩
    rw [rest, List.filter_filter]
    refine List.filter_congr fun name _ => ?_
    have tracked : ∀ other ∈ ids, (t.reloadRow fs dir loc left id).tracked? loc other = t.tracked? loc other :=
      fun other member => step.tracked?_eq h.compact source fun same => fresh (List.mem_singleton.1 same ▸ member)
    simp only [untracked, List.all_cons, List.all_nil, Bool.and_true]
    rw [Bool.and_comm]
    congr 1
    rw [Bool.eq_iff_iff, List.all_eq_true, List.all_eq_true]
    exact forall₂_congr fun other member => by rw [tracked other member]

/-! ## Two rounds -/

omit [LawfulRowView ν] in
theorem untracked_range : t.untracked loc (List.range t.size) name = true ↔
    ∀ id v, t.tracked? loc id = some v → v.filename ≠ name := by
  rw [untracked, List.all_eq_true]
  refine forall_congr' fun id => ?_
  rw [List.mem_range, Option.all_eq_true]
  refine ⟨fun within v tracked => ?_, fun all _ v tracked => decide_eq_true (all v tracked)⟩
  refine of_decide_eq_true (within ?_ v tracked)
  rw [tracked?_eq, entryAt?] at tracked
  obtain ⟨e, found, -⟩ := Option.bind_eq_some_iff.1 tracked
  obtain ⟨row, found, -⟩ := Option.map_eq_some_iff.1 found
  exact (List.getElem?_eq_some_iff.1 found).1

/-- The versions after those in missing files were dropped are those that were there before and are in a file or stay as
they are. -/
theorem Swept.tracked?_iff {t' : TableView ν} (swept : Swept (keptRow? loc files) (List.range t.size) t t') (h : t.Compact)
    (source : loc.IsSource) {v : TrackedView} :
    t'.tracked? loc id = some v ↔ t.tracked? loc id = some v ∧ (v.fixed = true ∨ v.filename ∈ files) := by
  rw [swept.compact.tracked?_eq source, h.tracked?_eq source, swept.of_range]
  cases t.present? id with
  | none => simp
  | some row =>
    rw [Option.bind_some, Option.bind_some, keptRow?]
    cases tracked : (RowView.entry row).tracked? loc with
    | none => simp [tracked]
    | some w =>
      rw [Option.any_some]
      split
      · next missing =>
        rw [Bool.and_eq_true, Bool.not_eq_true', Bool.not_eq_true', ← Bool.not_eq_true, List.contains_iff_mem] at missing
        constructor
        · intro there
          obtain ⟨row', dropped, there⟩ := Option.bind_eq_some_iff.1 there
          rw [tracked?_of_dropRow? source dropped] at there
          cases there
        · rintro ⟨same, present⟩
          obtain rfl := Option.some.inj same
          rcases present with fixed | member
          · exact Bool.noConfusion (fixed.symm.trans missing.2)
          · exact absurd member missing.1
      · next present =>
        rw [Option.bind_some, tracked]
        refine (and_iff_left_of_imp fun same => ?_).symm
        obtain rfl := Option.some.inj same
        rw [Bool.and_eq_true, Bool.not_eq_true', Bool.not_eq_true', ← Bool.not_eq_true, List.contains_iff_mem] at present
        grind

/-- What the first two rounds of a scan of a directory leave, and which files they leave to the third one. -/
def rounds (fs : FileSystem) (dir : String) (loc : Locality) (files : List String) (t : TableView ν) :
    TableView ν × List String :=
  let kept := dropMissing loc files t (List.range t.size)
  reloadChanged fs dir loc files kept (List.range kept.size)

omit [LawfulRowView ν] in
theorem sync_eq_rounds {extension : String} (isDir : fs.isDirectory dir = true) (t : TableView ν) :
    t.sync fs dir loc extension = addNew fs dir loc (rounds fs dir loc (versionFiles fs dir extension) t).1
      (rounds fs dir loc (versionFiles fs dir extension) t).2 := by
  rw [sync, if_pos isDir]
  rfl

/-- The first two rounds of a scan change each row on its own, if no two rows have their versions in one file, and leave
the files of no row to the third one. -/
theorem Compact.rounds (h : t.Compact) (source : loc.IsSource) (apart : t.Apart loc) (single : files.Nodup)
    (fs : FileSystem) (dir : String) : (TableView.rounds fs dir loc files t).1.Compact ∧
      (∀ id, (TableView.rounds fs dir loc files t).1.present? id = (t.present? id).bind (scanRow? fs dir loc files)) ∧
      (TableView.rounds fs dir loc files t).2 = files.filter (t.untracked loc (List.range t.size)) := by
  have kept : Swept (keptRow? loc files) (List.range t.size) t _ := h.dropMissing source List.nodup_range
  have waiting : Waiting loc files _ files (List.range (TableView.dropMissing loc files t (List.range t.size)).size) :=
    ⟨kept.compact, single, fun _ _ _ _ => rfl, fun i _ j _ v w first second =>
      apart i j v w ((kept.tracked?_iff h source).1 first).1 ((kept.tracked?_iff h source).1 second).1⟩
  obtain ⟨read, rest⟩ := waiting.reloadChanged source List.nodup_range fs dir
  refine ⟨read.compact, fun id => ?_, rest.trans (List.filter_congr fun name listed => ?_)⟩
  · rw [TableView.rounds, read.of_range, kept.of_range, Option.bind_assoc]
    exact congrArg _ (funext (bind_readRow? source fs dir files))
  · rw [Bool.eq_iff_iff, untracked_range, untracked_range]
    refine forall₂_congr fun id v => ?_
    rw [kept.tracked?_iff h source]
    exact ⟨fun apart tracked same => apart ⟨tracked, .inr (same ▸ listed)⟩ same, fun apart both => apart both.1⟩

end TableView

/-! ## Sound tables -/

namespace EntryTable

variable {ρ : Type} [Row ρ] [Keeper ρ] {ν : Type} [RowView ν] [Viewed ρ ν] {t : EntryTable ρ} {loc : Locality}

theorem Sound.compact_view (h : t.Sound) (docs : DocumentTable) : (t.view docs).Compact where
  marks id row found gone := by
    rw [row?_view] at found
    obtain ⟨row, place, rfl⟩ := Option.map_eq_some_iff.1 found
    rw [Viewed.entry_view, Entry.view_locality] at gone
    rw [(h.rows row (mem_of_row? place)).eq_tombstone gone, Viewed.view_ofEntry]
    rfl
  last row last := by
    rw [view, List.getLast?_map] at last
    obtain ⟨row', last', rfl⟩ := Option.map_eq_some_iff.1 last
    rw [Viewed.entry_view, Entry.view_locality]
    exact h.last row' last'

/-- No two rows have their versions at a locality in one file. -/
def Apart (docs : DocumentTable) (loc : Locality) (t : EntryTable ρ) : Prop :=
  ∀ i j v w, t.tracked? docs loc i = some v → t.tracked? docs loc j = some w → v.filename = w.filename → i = j

theorem Apart.view {docs : DocumentTable} (h : t.Apart docs loc) : (t.view docs).Apart loc := by
  intro i j v w first second same
  rw [tracked?_view] at first second
  obtain ⟨v', first', rfl⟩ := Option.map_eq_some_iff.1 first
  obtain ⟨w', second', rfl⟩ := Option.map_eq_some_iff.1 second
  exact h i j v' w' first' second' same

end EntryTable

end EditorBundles.Catalog
