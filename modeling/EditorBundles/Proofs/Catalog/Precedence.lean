import EditorBundles.Proofs.Catalog.TableRuns
import EditorBundles.Proofs.Catalog.ViewKeeping

/-!
# Which version of a row is in effect

An entry has one place for its factory document, which pristine and installed versions share. What stands
there is told by the history of the table: `Recorded log s` runs a table and keeps a log of the versions
that its rows got. No operation puts an older document in the place of a newer one, and a pristine document
never takes the place of an installed one; so each place that an entry names holds the version that the row
got last from the locality that the place stands for (`Recalls`).
-/

namespace EditorBundles.Catalog
set_option autoImplicit false
open PropertyList
open PropertyList.DocumentTable (Prunes)

/-- A version that a row got: the row, where it came from, its number and the document. -/
structure Arrival where
  row : Nat
  loc : Locality
  doc : Nat
  document : Document
  deriving DecidableEq, Repr

namespace Arrival

/-- The arrival after its document was written to. -/
def rewrite (index : Nat) (d : Document) (a : Arrival) : Arrival :=
  if a.doc = index then { a with document := d } else a

@[simp] theorem doc_rewrite (index : Nat) (d : Document) (a : Arrival) : (a.rewrite index d).doc = a.doc := by
  unfold rewrite
  split <;> rfl

/-- The version that a row got last from a locality. The log has the last arrival first. -/
def latest? (log : List Arrival) (id : Nat) (loc : Locality) : Option Arrival :=
  log.find? fun a => a.row = id ∧ a.loc = loc

variable {log : List Arrival} {id : Nat} {loc : Locality} {a : Arrival}

theorem latest?_cons_self (row : a.row = id) (from_ : a.loc = loc) : latest? (a :: log) id loc = some a := by
  rw [latest?, List.find?_cons_of_pos]
  simp [row, from_]

theorem latest?_cons_of_ne (apart : ¬(a.row = id ∧ a.loc = loc)) : latest? (a :: log) id loc = latest? log id loc := by
  rw [latest?, List.find?_cons_of_neg, latest?]
  simpa using apart

theorem latest?_map_rewrite (index : Nat) (d : Document) :
    latest? (log.map (rewrite index d)) id loc = (latest? log id loc).map (rewrite index d) := by
  have same (a : Arrival) : (rewrite index d a).row = a.row ∧ (rewrite index d a).loc = a.loc := by
    unfold rewrite
    split <;> exact ⟨rfl, rfl⟩
  rw [latest?, List.find?_map, latest?]
  congr 1
  refine congrArg (List.find? · log) (funext fun a => ?_)
  simp [same a]

end Arrival

/-! ## What an entry names -/

namespace Entry

/-- An entry names a document for its version at a locality. A pristine version behind an installed one has
none. -/
def Names (e : Entry) (loc : Locality) : Prop :=
  e.locality.contains loc = true ∧ (loc = { pristine := true } → e.locality.installed = false)

variable {e : Entry}

@[simp] theorem names_own : e.Names { own := true } ↔ e.locality.own = true := by
  simp [Names, Locality.contains]

@[simp] theorem names_installed : e.Names { installed := true } ↔ e.locality.installed = true := by
  simp [Names, Locality.contains]

@[simp] theorem names_pristine :
    e.Names { pristine := true } ↔ e.locality.pristine = true ∧ e.locality.installed = false := by
  simp [Names, Locality.contains]

theorem not_names_tombstone {loc : Locality} (source : loc.IsSource) : ¬tombstone.Names loc := by
  cases source <;> simp [tombstone]

/-- The locality whose version is in effect as long as the entry is not hidden: the user's own one before the
installed one, and the pristine one last. -/
def effective (e : Entry) : Locality :=
  if e.locality.own then { own := true }
  else if e.locality.installed then { installed := true }
  else { pristine := true }

theorem isSource_effective (e : Entry) : e.effective.IsSource := by
  unfold effective
  split
  · exact .own
  · split
    · exact .installed
    · exact .pristine

/-- A live entry that is not disabled resolves to the document that it names for the locality in effect. -/
theorem Live.resolve_eq (h : e.Live) (shown : e.locality.disabled = false) :
    e.Names e.effective ∧ e.resolve = e.docFor e.effective := by
  have source := h.source
  have visible : e.locality.isHidden = false := by simp [Locality.isHidden, shown, h.here]
  cases own : e.locality.own with
  | true => simp [effective, resolve, visible, docFor, own]
  | false =>
    cases installed : e.locality.installed with
    | true => simp [effective, resolve, visible, docFor, own, installed, Locality.isFactory]
    | false =>
      have pristine : e.locality.pristine = true := by simpa [Locality.hasSource, own, installed] using source
      simp [effective, resolve, visible, docFor, own, installed, pristine, Locality.isFactory]

end Entry

namespace EntryTable

variable {ρ : Type} [Row ρ] [Keeper ρ] {t t' t'' : EntryTable ρ} {docs docs' : DocumentTable} {id : Nat} {e e' : Entry}
  {loc : Locality} {row : ρ}

/-! ## What an operation makes of the names -/

/-- Every document that an entry names it named before, or it is the one that arrived. -/
def Brings (arrived : Option Arrival) (t t' : EntryTable ρ) : Prop :=
  ∀ id e', t'.entryAt? id = some e' → ∀ loc : Locality, loc.IsSource → e'.Names loc →
    (∃ a ∈ arrived, a.row = id ∧ a.loc = loc ∧ e'.docFor loc = some a.doc) ∨
      (∀ a ∈ arrived, ¬(a.row = id ∧ a.loc = loc)) ∧
        ∃ e, t.entryAt? id = some e ∧ e.Names loc ∧ e'.docFor loc = e.docFor loc

omit [Keeper ρ] in
/-- Where nothing arrives, every document that is named was named before. -/
theorem brings_none (h : ∀ id e', t'.entryAt? id = some e' → ∀ loc : Locality, loc.IsSource → e'.Names loc →
    ∃ e, t.entryAt? id = some e ∧ e.Names loc ∧ e'.docFor loc = e.docFor loc) : Brings none t t' := by
  intro id e' found loc source named
  refine .inr ⟨?_, h id e' found loc source named⟩
  rintro a ⟨⟩

omit [Keeper ρ] in
theorem Brings.named (h : Brings none t t') (found : t'.entryAt? id = some e') (source : loc.IsSource)
    (named : e'.Names loc) : ∃ e, t.entryAt? id = some e ∧ e.Names loc ∧ e'.docFor loc = e.docFor loc := by
  rcases h id e' found loc source named with ⟨a, member, -⟩ | ⟨-, before⟩
  · cases member
  · exact before

omit [Keeper ρ] in
theorem Brings.refl (t : EntryTable ρ) : Brings none t t :=
  brings_none fun _ e found _ _ named => ⟨e, found, named, rfl⟩

omit [Keeper ρ] in
theorem Brings.trans (first : Brings none t t') (second : Brings none t' t'') : Brings none t t'' := by
  refine brings_none fun id e'' found loc source named => ?_
  obtain ⟨e', found', named', same'⟩ := second.named found source named
  obtain ⟨e, found, named, same⟩ := first.named found' source named'
  exact ⟨e, found, named, same'.trans same⟩

omit [Keeper ρ] in
/-- Only the entry of one row is changed. -/
theorem brings_modifyEntry {arrived : Option Arrival} (at_ : ∀ a ∈ arrived, a.row = id) (found : t.entryAt? id = some e)
    {change : Entry → Entry}
    (changed : ∀ loc : Locality, loc.IsSource → (change e).Names loc →
      (∃ a ∈ arrived, a.loc = loc ∧ (change e).docFor loc = some a.doc) ∨
        (∀ a ∈ arrived, a.loc ≠ loc) ∧ e.Names loc ∧ (change e).docFor loc = e.docFor loc) :
    Brings arrived t (t.modifyEntry id change) := by
  intro other e' found' loc source named
  by_cases same : other = id
  · subst same
    rw [entryAt?_modifyEntry_self, found, Option.map_some, Option.some.injEq] at found'
    subst found'
    rcases changed loc source named with ⟨a, member, from_, doc⟩ | ⟨apart, named, doc⟩
    · exact .inl ⟨a, member, at_ a member, from_, doc⟩
    · exact .inr ⟨fun a member both => apart a member both.2, e, found, named, doc⟩
  · rw [entryAt?, row?_modifyEntry_of_ne t same] at found'
    exact .inr ⟨fun a member both => same (both.1.symm.trans (at_ a member)), e', found', named, rfl⟩

omit [Keeper ρ] in
/-- Where a new row is put, and that the others stay. -/
theorem row?_insert (t : EntryTable ρ) (doc : Nat) (loc : Locality) (docs : DocumentTable) (other : Nat) :
    (t.insert doc loc docs).1.row? other =
      if other = (t.insert doc loc docs).2 then some (Row.ofEntry ((Entry.new loc doc).identify (docs.get doc)))
      else t.row? other := by
  rw [insert]
  cases place : t.findEntry? Entry.isTombstone with
  | some id =>
    obtain ⟨bound, -, -⟩ := List.findIdx?_eq_some_iff_getElem.1 place
    dsimp only
    split
    · rename_i same
      subst same
      exact row?_setRow_self bound _
    · rename_i different
      exact row?_setRow_of_ne t different _
  | none =>
    dsimp only
    unfold row?
    rcases Nat.lt_trichotomy other t.rows.length with inside | rfl | beyond
    · rw [List.getElem?_append_left inside, if_neg (Nat.ne_of_lt inside)]
    · simp
    · rw [List.getElem?_eq_none (by simp; omega), List.getElem?_eq_none (Nat.le_of_lt beyond),
        if_neg (Nat.ne_of_gt beyond)]

omit [Keeper ρ] in
theorem entryAt?_insert (t : EntryTable ρ) (doc : Nat) (loc : Locality) (docs : DocumentTable) (other : Nat) :
    (t.insert doc loc docs).1.entryAt? other =
      if other = (t.insert doc loc docs).2 then some ((Entry.new loc doc).identify (docs.get doc)) else t.entryAt? other := by
  rw [entryAt?, row?_insert]
  split
  · exact congrArg some (Row.entry_ofEntry _)
  · rfl

omit [Keeper ρ] in
theorem brings_insert (t : EntryTable ρ) (source : loc.IsSource) (doc : Nat) (docs : DocumentTable) (d : Document) :
    Brings (some ⟨(t.insert doc loc docs).2, loc, doc, d⟩) t (t.insert doc loc docs).1 := by
  intro other e' found loc' source' named
  rw [entryAt?_insert] at found
  split at found
  · rename_i same
    rw [Option.some.injEq] at found
    subst found
    have at_loc : loc' = loc ∧ ((Entry.new loc doc).identify (docs.get doc)).docFor loc' = some doc := by
      cases source <;> cases source' <;> simp_all [Entry.Names, Locality.contains, Entry.new, Entry.docFor, Entry.identify]
    exact .inl ⟨_, rfl, same.symm, at_loc.1.symm, at_loc.2⟩
  · rename_i different
    refine .inr ⟨?_, e', found, named, rfl⟩
    rintro a ⟨⟩ both
    exact different both.1.symm

omit [Keeper ρ] in
theorem brings_register (source : loc.IsSource) (found : t.entryAt? id = some e) (doc : Nat) (docs : DocumentTable)
    (d : Document) : Brings (some ⟨id, loc, doc, d⟩) t (t.register id doc loc docs).1 := by
  have at_ (a : Arrival) (member : a ∈ some (⟨id, loc, doc, d⟩ : Arrival)) : a.row = id := by
    cases member
    rfl
  -- the version that arrived is named anew, the one in the other place as before
  have changed {change : Entry → Entry} (new : (change e).docFor loc = some doc)
      (others : ∀ other : Locality, other.IsSource → other ≠ loc → (change e).Names other →
        e.Names other ∧ (change e).docFor other = e.docFor other) :
      Brings (some ⟨id, loc, doc, d⟩) t (t.modifyEntry id change) := by
    refine brings_modifyEntry at_ found fun other source' named => ?_
    by_cases same : other = loc
    · subst same
      exact .inl ⟨_, rfl, rfl, new⟩
    · refine .inr ⟨?_, others other source' same named⟩
      rintro a ⟨⟩
      exact Ne.symm same
  rw [register, found]
  cases source with
  | own =>
    refine changed rfl fun other source' different named => ?_
    cases source' with
    | own => exact absurd rfl different
    | installed => exact ⟨by simpa [Locality.union] using named, rfl⟩
    | pristine => exact ⟨by simpa [Locality.union] using named, rfl⟩
  | installed =>
    dsimp only
    rw [if_neg Bool.false_ne_true, if_neg (by simp)]
    refine changed rfl fun other source' different named => ?_
    cases source' with
    | own => exact ⟨by simpa [Locality.union] using named, rfl⟩
    | installed => exact absurd rfl different
    | pristine => simp [Locality.union] at named
  | pristine =>
    dsimp only
    rw [if_neg Bool.false_ne_true]
    split
    · rename_i shadowed
      refine brings_modifyEntry at_ found fun other source' named => .inr ⟨?_, ?_⟩
      · rintro a ⟨⟩ rfl
        simp [Locality.union, shadowed.2] at named
      · cases source' with
        | own => exact ⟨by simpa [Locality.union] using named, rfl⟩
        | installed => exact ⟨by simpa [Locality.union] using named, rfl⟩
        | pristine => simp [Locality.union, shadowed.2] at named
    · rename_i unshadowed
      have absent : e.locality.installed = false := by simpa using unshadowed
      refine changed rfl fun other source' different named => ?_
      cases source' with
      | own => exact ⟨by simpa [Locality.union] using named, rfl⟩
      | installed => simp [Locality.union, absent] at named
      | pristine => exact absurd rfl different

omit [Keeper ρ] in
/-- A document that becomes the own version of a row arrives there. -/
theorem brings_adopt (found : t.entryAt? id = some e) (own : Nat) (d : Document) :
    Brings (some ⟨id, { own := true }, own, d⟩) t
      (t.modifyEntry id fun e => { e with ownDoc := some own, locality := { e.locality with own := true } }) := by
  refine brings_modifyEntry ?_ found fun other source' named => ?_
  · rintro a ⟨⟩
    rfl
  · cases source' with
    | own => exact .inl ⟨_, rfl, rfl, rfl⟩
    | installed =>
      refine .inr ⟨?_, by simpa using named, rfl⟩
      rintro a ⟨⟩
      simp
    | pristine =>
      refine .inr ⟨?_, by simpa using named, rfl⟩
      rintro a ⟨⟩
      simp

omit [Keeper ρ] in
/-- The own version that is made of a row arrives there. -/
theorem brings_editable? {own : Nat} (found : t.entryAt? id = some e) (without : e.locality.own = false)
    (edited : t.editable? id docs = some (t', docs', own)) (d : Document) :
    Brings (some ⟨id, { own := true }, own, d⟩) t t' := by
  obtain ⟨e', found', made⟩ := editable?_cases edited
  obtain rfl : e = e' := Option.some.inj (found.symm.trans found')
  rcases made with ⟨flag, -⟩ | ⟨source, -, -, rfl⟩
  · rw [without] at flag
    exact Bool.noConfusion flag
  · exact brings_adopt found own d

/-! ## Operations that add no version -/

omit [Keeper ρ] in
theorem brings_setRow {row' : ρ} (found : t.row? id = some row)
    (changed : ∀ loc : Locality, loc.IsSource → (Row.entry row').Names loc →
      (Row.entry row).Names loc ∧ (Row.entry row').docFor loc = (Row.entry row).docFor loc) :
    Brings none t (t.setRow id row') := by
  refine brings_none fun other e' found' loc source named => ?_
  by_cases same : other = id
  · subst same
    rw [entryAt?, row?_setRow_self (lt_of_row? found), Option.map_some, Option.some.injEq] at found'
    subst found'
    obtain ⟨named, doc⟩ := changed loc source named
    exact ⟨Row.entry row, congrArg (Option.map Row.entry) found, named, doc⟩
  · rw [entryAt?, row?_setRow_of_ne t same] at found'
    exact ⟨e', found', named, rfl⟩

omit [Keeper ρ] in
theorem brings_cut (t : EntryTable ρ) (id : Nat) : Brings none t (t.cut id) := by
  refine brings_none fun other e' found loc source named => ?_
  obtain ⟨row, place, rfl⟩ := row?_of_entryAt? found
  rcases row?_cut place with rfl | ⟨-, before⟩
  · rw [Row.entry_ofEntry] at named
    exact absurd named (Entry.not_names_tombstone source)
  · exact ⟨Row.entry row, congrArg (Option.map Row.entry) before, named, rfl⟩

/-- What is left of an entry names the documents that it named before: a pristine version behind an installed
one goes with it. -/
theorem names_dropVersions {dropped : Locality} (source : loc.IsSource) (named : (dropVersions e dropped).1.Names loc) :
    e.Names loc ∧ (dropVersions e dropped).1.docFor loc = e.docFor loc := by
  cases source with
  | own =>
    obtain ⟨own, ownDoc, -⟩ := dropVersions_eq e dropped
    rw [Entry.names_own, own, Bool.and_eq_true, Bool.not_eq_true'] at named
    refine ⟨Entry.names_own.2 named.1, ?_⟩
    show (dropVersions e dropped).1.ownDoc = e.ownDoc
    rw [ownDoc, named.2, Bool.false_and, if_neg Bool.false_ne_true]
  | installed =>
    cases had : e.locality.installed <;> cases goes : dropped.installed <;>
      simp [dropVersions, Locality.without, Entry.docFor, had, goes] at named ⊢
  | pristine =>
    -- with an installed version left the pristine one is not named, and without one it is not left
    cases had : e.locality.installed <;> cases goes : dropped.installed <;> cases goes' : dropped.pristine <;>
      simp [dropVersions, Locality.without, Entry.docFor, had, goes, goes'] at named ⊢
    all_goals exact named

omit [Keeper ρ] in
theorem brings_drop (t : EntryTable ρ) (id : Nat) (dropped : Locality) (docs : DocumentTable) :
    Brings none t (t.drop id dropped docs).1 := by
  cases found : t.row? id with
  | none =>
    rw [drop, found]
    exact .refl t
  | some row =>
    rw [drop, found]
    dsimp only
    have entry := Row.entry_release (dropVersions (Row.entry row) dropped).2.1
      (Row.withEntry row (dropVersions (Row.entry row) dropped).1)
      ((dropVersions (Row.entry row) dropped).2.2.foldl DocumentTable.delete docs)
    rw [Row.entry_withEntry] at entry
    split
    · refine brings_setRow found fun loc source named => ?_
      rw [entry] at named ⊢
      exact names_dropVersions source named
    · dsimp only
      rw [fst_removeRow (row?_setRow_self (lt_of_row? found) _), cut_setRow]
      exact brings_cut t id

omit [Keeper ρ] in
theorem brings_dropWhere (p : Entry → DocumentTable → Bool) (dropped : Locality) (t : EntryTable ρ)
    (docs : DocumentTable) (ids : List Nat) : Brings none t (dropWhere p dropped t docs ids).1 := by
  induction ids generalizing t docs with
  | nil => exact .refl t
  | cons id ids ih =>
    rw [dropWhere]
    split
    · exact (brings_drop t id dropped docs).trans (ih _ _)
    · exact ih t docs

/-- Without its own version an entry names the factory document that it named. -/
theorem names_disowned (source : loc.IsSource) (named : e.disowned.Names loc) :
    e.Names loc ∧ e.disowned.docFor loc = e.docFor loc := by
  unfold Entry.disowned at named ⊢
  split at named
  · rename_i own
    rw [if_pos own]
    cases source with
    | own => simp at named
    | installed => exact ⟨by simpa using named, rfl⟩
    | pristine => exact ⟨by simpa using named, rfl⟩
  · rename_i without
    rw [if_neg without]
    exact ⟨named, rfl⟩

omit [Keeper ρ] in
theorem brings_modifyEntry_none (found : t.entryAt? id = some e) {change : Entry → Entry}
    (changed : ∀ loc : Locality, loc.IsSource → (change e).Names loc →
      e.Names loc ∧ (change e).docFor loc = e.docFor loc) : Brings none t (t.modifyEntry id change) := by
  refine brings_modifyEntry ?_ found fun loc source named => .inr ⟨?_, changed loc source named⟩
  · rintro a ⟨⟩
  · rintro a ⟨⟩

omit [Keeper ρ] in
theorem brings_delete {dir : String} {fs fs' : FileSystem} (deleted : t.delete id dir docs fs = .ok (t', docs', fs')) :
    Brings none t t' := by
  cases found : t.row? id with
  | none =>
    rw [delete, entryAt?, found] at deleted
    obtain ⟨rfl, -⟩ := Prod.mk.inj (Except.ok.inj deleted)
    exact .refl t
  | some row =>
    have named : t.entryAt? id = some (Row.entry row) := congrArg (Option.map Row.entry) found
    obtain ⟨docs₁, -, ⟨-, -, rfl⟩ | ⟨-, removed⟩⟩ := delete_cases named deleted
    · refine brings_modifyEntry_none named fun loc source named => names_disowned source ?_
      cases source with
      | own => simpa using named
      | installed => simpa using named
      | pristine => simpa using named
    · rw [modifyEntry_eq found] at removed
      have left : t' = _ := congrArg Prod.fst removed
      rw [left, fst_removeRow (row?_setRow_self (lt_of_row? found) _), cut_setRow]
      exact brings_cut t id

omit [Keeper ρ] in
/-- Deleting a row deletes documents at most. -/
theorem prunes_deleteRow [Pruning ρ] {dir : String} {fs fs' : FileSystem}
    (deleted : t.delete id dir docs fs = .ok (t', docs', fs')) : docs.Prunes docs' := by
  cases found : t.entryAt? id with
  | none =>
    rw [delete, found] at deleted
    obtain ⟨-, same⟩ := Prod.mk.inj (Except.ok.inj deleted)
    obtain ⟨rfl, -⟩ := Prod.mk.inj same
    exact .refl docs
  | some e =>
    obtain ⟨docs₁, rfl, ⟨-, rfl, -⟩ | ⟨-, removed⟩⟩ := delete_cases found deleted
    · exact prunes_dropDoc docs _
    · have left : docs' = _ := congrArg Prod.snd removed
      rw [left]
      exact (prunes_dropDoc docs _).trans (prunes_removeRow _ id _)

omit [Keeper ρ] in
theorem brings_restore (t : EntryTable ρ) (id : Nat) : Brings none t (t.restore id).1 := by
  rw [restore]
  cases found : t.entryAt? id with
  | none => exact .refl t
  | some e =>
    dsimp only
    split
    · refine brings_modifyEntry_none found fun loc source named => ?_
      cases source with
      | own => exact ⟨by simpa using named, rfl⟩
      | installed => exact ⟨by simpa using named, rfl⟩
      | pristine => exact ⟨by simpa using named, rfl⟩
    · exact .refl t

/-! ## Histories -/

/-- A table after a run of operations from the empty table, with the log of the versions that its rows got, the
last one first. A document that a row gets is stored at once before. In between the documents are written to,
and there are operations on the tables inside of rows. -/
inductive Recorded : List Arrival → State ρ → Prop where
  | empty : Recorded [] ({}, {})
  | insert {log : List Arrival} {t : EntryTable ρ} {docs : DocumentTable} {loc : Locality} {d : Document}
      (before : Recorded log (t, docs)) (source : loc.IsSource) (stored : d.isVacant = false) :
      Recorded (⟨(t.insert (docs.insert d).2 loc (docs.insert d).1).2, loc, (docs.insert d).2, d⟩ :: log)
        ((t.insert (docs.insert d).2 loc (docs.insert d).1).1, (docs.insert d).1)
  | register {log : List Arrival} {t : EntryTable ρ} {docs : DocumentTable} {loc : Locality} {id : Nat} {e : Entry}
      {d : Document} (before : Recorded log (t, docs)) (source : loc.IsSource) (found : t.entryAt? id = some e)
      (here : e.isTombstone = false) (stored : d.isVacant = false) :
      Recorded (⟨id, loc, (docs.insert d).2, d⟩ :: log) (t.register id (docs.insert d).2 loc (docs.insert d).1)
  | clone {log : List Arrival} {t t' : EntryTable ρ} {docs docs' : DocumentTable} {id own : Nat} {e : Entry}
      (before : Recorded log (t, docs)) (found : t.entryAt? id = some e) (without : e.locality.own = false)
      (edited : t.editable? id docs = some (t', docs', own)) :
      Recorded (⟨id, { own := true }, own, docs'.get own⟩ :: log) (t', docs')
  | edit {log : List Arrival} {t t' : EntryTable ρ} {docs docs' : DocumentTable} {id own : Nat} {e : Entry}
      (before : Recorded log (t, docs)) (found : t.entryAt? id = some e) (has : e.locality.own = true)
      (edited : t.editable? id docs = some (t', docs', own)) : Recorded log (t', docs')
  | drop {log : List Arrival} {t : EntryTable ρ} {docs : DocumentTable} (before : Recorded log (t, docs)) (id : Nat)
      (loc : Locality) : Recorded log ((t.drop id loc docs).1, (t.drop id loc docs).2.1)
  | dropAll {log : List Arrival} {t : EntryTable ρ} {docs : DocumentTable} (before : Recorded log (t, docs))
      (loc : Locality) : Recorded log (t.dropAll loc docs)
  | dropVanished {log : List Arrival} {t : EntryTable ρ} {docs : DocumentTable} (before : Recorded log (t, docs))
      (loc : Locality) : Recorded log (t.dropVanished loc docs)
  | delete {log : List Arrival} {t t' : EntryTable ρ} {docs docs' : DocumentTable} {id : Nat} {dir : String}
      {fs fs' : FileSystem} (before : Recorded log (t, docs))
      (deleted : t.delete id dir docs fs = .ok (t', docs', fs')) : Recorded log (t', docs')
  | restore {log : List Arrival} {t : EntryTable ρ} {docs : DocumentTable} (before : Recorded log (t, docs))
      (id : Nat) : Recorded log ((t.restore id).1, docs)
  | write {log : List Arrival} {t : EntryTable ρ} {docs : DocumentTable} {index : Nat} {d : Document}
      (before : Recorded log (t, docs)) (live : docs.isLive index = true) (stored : d.isVacant = false) :
      Recorded (log.map (Arrival.rewrite index d)) (t, docs.set index d)
  | inside {log : List Arrival} {t t' : EntryTable ρ} {docs docs' : DocumentTable} (before : Recorded log (t, docs))
      (same : ∀ id, t'.entryAt? id = t.entryAt? id) (passes : Passes [] t docs t' docs')
      (kept : ∀ id e, t.entryAt? id = some e → ∀ index ∈ e.held, docs'.get index = docs.get index) :
      Recorded log (t', docs')

/-- Each document that an entry names is the one that arrived last in its row from the locality that it is
named for, as it is now. -/
def Recalls (log : List Arrival) (t : EntryTable ρ) (docs : DocumentTable) : Prop :=
  ∀ id e, t.entryAt? id = some e → ∀ loc : Locality, loc.IsSource → e.Names loc →
    ∃ a, Arrival.latest? log id loc = some a ∧ e.docFor loc = some a.doc ∧ docs.get a.doc = a.document

omit [Keeper ρ] in
theorem mem_held_of_docFor {doc : Nat} (named : e.docFor loc = some doc) : doc ∈ e.held := by
  unfold Entry.docFor at named
  split at named <;> simp [Entry.held, named]

theorem mem_held_of_entry {index : Nat} (found : t.entryAt? id = some e) (member : index ∈ e.held) : index ∈ t.held := by
  obtain ⟨row, place, rfl⟩ := row?_of_entryAt? found
  exact List.mem_flatMap.2 ⟨row, mem_of_row? place, List.mem_append_left _ member⟩

variable {log : List Arrival} {arrived : Option Arrival} {docs₁ : DocumentTable}

/-- An operation stores the document that arrives, changes no other, and then deletes some at most: the log
goes on telling which documents are named. -/
theorem Recalls.step (h : Recalls log t docs) (brings : Brings arrived t t') (fresh : ∀ a ∈ arrived, docs₁.get a.doc = a.document)
    (kept : ∀ index ∈ t.held, docs₁.get index = docs.get index) (prunes : docs₁.Prunes docs')
    (holding : docs'.Holding t'.held) : Recalls (arrived.toList ++ log) t' docs' := by
  intro id e' found loc source named
  -- what is named is still there, and so it is what it was before anything was deleted
  have still {doc : Nat} (doc_ : e'.docFor loc = some doc) : docs'.get doc = docs₁.get doc := by
    have member := mem_held_of_entry found (mem_held_of_docFor doc_)
    exact prunes.kept doc (holding.mem_iff.1 member)
  rcases brings id e' found loc source named with ⟨a, member, row, from_, doc⟩ | ⟨apart, e, before, named, doc⟩
  · obtain rfl := Option.mem_def.1 member
    exact ⟨a, Arrival.latest?_cons_self row from_, doc, (still doc).trans (fresh a rfl)⟩
  · obtain ⟨a, latest, doc', content⟩ := h id e before loc source named
    refine ⟨a, ?_, doc.trans doc', ?_⟩
    · cases arrived with
      | none => exact latest
      | some new =>
        rw [Option.toList_some, List.singleton_append, Arrival.latest?_cons_of_ne (apart new rfl)]
        exact latest
    · rw [still (doc.trans doc'), kept a.doc (mem_held_of_entry before (mem_held_of_docFor doc')), content]

/-- What a document table keeps when a document is stored in it. -/
theorem get_insert_of_held {held : List Nat} (holding : docs.Holding held) {d : Document} (stored : d.isVacant = false) :
    ∀ index ∈ held, (docs.insert d).1.get index = docs.get index := by
  obtain ⟨-, kept⟩ := docs.trades_insert stored held (by simpa using holding)
  exact kept

theorem Recalls.quiet (h : Recalls log t docs) (brings : Brings none t t') (prunes : docs.Prunes docs')
    (holding : docs'.Holding t'.held) : Recalls log t' docs' := by
  have step := h.step brings (fun a member => by cases member) (fun _ _ => rfl) prunes holding
  exact step

/-- Over a recorded run a table keeps its documents, and its log tells which of them its rows name. -/
theorem Recorded.keeping_recalls [Pruning ρ] {s : State ρ} (run : Recorded log s) :
    s.1.Keeping s.2 ∧ Recalls log s.1 s.2 := by
  induction run with
  | empty =>
    refine ⟨keeping_empty, fun id e found => ?_⟩
    simp [entryAt?, row?] at found
  | @insert log t docs loc d before source stored ih =>
    obtain ⟨keeping, recalls⟩ := ih
    have keeping' := (Step.passes (.insert source stored) keeping.sound).keeping keeping.holding
    refine ⟨keeping', recalls.step (brings_insert t source _ _ d) ?_ ?_ (.refl _) keeping'.holding⟩
    · rintro a ⟨⟩
      exact DocumentTable.get_insert keeping.holding d
    · exact get_insert_of_held keeping.holding stored
  | @register log t docs loc id e d before source found here stored ih =>
    obtain ⟨keeping, recalls⟩ := ih
    have keeping' := (Step.passes (.register source found here stored) keeping.sound).keeping keeping.holding
    refine ⟨keeping', recalls.step (brings_register source found _ _ d) ?_ ?_ (prunes_register t id _ loc _) keeping'.holding⟩
    · rintro a ⟨⟩
      exact DocumentTable.get_insert keeping.holding d
    · exact get_insert_of_held keeping.holding stored
  | @clone log t t' docs docs' id own e before found without edited ih =>
    obtain ⟨keeping, recalls⟩ := ih
    have keeping' := (Step.passes (.edit edited) keeping.sound).keeping keeping.holding
    refine ⟨keeping', recalls.step (brings_editable? found without edited _) ?_ ?_ (.refl docs') keeping'.holding⟩
    · rintro a ⟨⟩
      rfl
    · obtain ⟨e', found', ⟨has, -⟩ | ⟨source, named, copied, -⟩⟩ := editable?_cases edited
      · rw [← Option.some.inj (found.symm.trans found'), without] at has
        exact Bool.noConfusion has
      · have member : source ∈ t.held := mem_held_of_entry found' (by simp [Entry.held, named])
        have stored : (docs.get source).copy.isVacant = false := keeping.holding.stored source member
        have copy : docs' = _ := (congrArg Prod.fst copied).symm
        rw [copy]
        exact get_insert_of_held keeping.holding stored
  | @edit log t t' docs docs' id own e before found has edited ih =>
    obtain ⟨keeping, recalls⟩ := ih
    obtain ⟨row, place, rfl⟩ := row?_of_entryAt? found
    have named := (keeping.sound.rows row (mem_of_row? place)).agrees.own
    rw [has] at named
    obtain ⟨doc, named⟩ := Option.isSome_iff_exists.1 named.symm
    obtain ⟨rfl, rfl, -⟩ := Option.some.inj ((editable?_again found has named docs).symm.trans edited)
    exact ⟨keeping, recalls⟩
  | @drop log t docs before id loc ih =>
    obtain ⟨keeping, recalls⟩ := ih
    have keeping' := (Step.passes (.drop id loc) keeping.sound).keeping keeping.holding
    exact ⟨keeping', recalls.quiet (brings_drop t id loc docs) (prunes_drop t id loc docs) keeping'.holding⟩
  | @dropAll log t docs before loc ih =>
    obtain ⟨keeping, recalls⟩ := ih
    have keeping' := (Step.passes (.dropAll loc) keeping.sound).keeping keeping.holding
    exact ⟨keeping', recalls.quiet (brings_dropWhere _ loc t docs _) (prunes_dropWhere _ loc t docs _) keeping'.holding⟩
  | @dropVanished log t docs before loc ih =>
    obtain ⟨keeping, recalls⟩ := ih
    have keeping' := (Step.passes (.dropVanished loc) keeping.sound).keeping keeping.holding
    exact ⟨keeping', recalls.quiet (brings_dropWhere _ loc t docs _) (prunes_dropWhere _ loc t docs _) keeping'.holding⟩
  | @delete log t t' docs docs' id dir fs fs' before deleted ih =>
    obtain ⟨keeping, recalls⟩ := ih
    have keeping' := (Step.passes (.delete deleted) keeping.sound).keeping keeping.holding
    exact ⟨keeping', recalls.quiet (brings_delete deleted) (prunes_deleteRow deleted) keeping'.holding⟩
  | @restore log t docs before id ih =>
    obtain ⟨keeping, recalls⟩ := ih
    have keeping' := (Step.passes (.restore id) keeping.sound).keeping keeping.holding
    exact ⟨keeping', recalls.quiet (brings_restore t id) (.refl docs) keeping'.holding⟩
  | @write log t docs index d before live stored ih =>
    obtain ⟨keeping, recalls⟩ := ih
    have same := stored.trans (keeping.holding.stored _ (keeping.holding.mem_iff.2 live)).symm
    refine ⟨⟨keeping.sound, keeping.holding.rewrite (DocumentTable.rewrites_set _ same)⟩, ?_⟩
    intro id e found loc source named
    obtain ⟨a, latest, doc, content⟩ := recalls id e found loc source named
    refine ⟨a.rewrite index d, ?_, ?_, ?_⟩
    · rw [Arrival.latest?_map_rewrite, latest, Option.map_some]
    · rw [Arrival.doc_rewrite]
      exact doc
    · rw [Arrival.doc_rewrite]
      unfold Arrival.rewrite
      split
      · rename_i written
        rw [written]
        exact docs.get_set_self (keeping.holding.lt (keeping.holding.mem_iff.2 live)) d
      · rename_i elsewhere
        rw [docs.get_set_of_ne elsewhere]
        exact content
  | @inside log t t' docs docs' before same passes kept ih =>
    obtain ⟨keeping, recalls⟩ := ih
    refine ⟨passes.keeping keeping.holding, fun id e found loc source named => ?_⟩
    rw [same] at found
    obtain ⟨a, latest, doc, content⟩ := recalls id e found loc source named
    exact ⟨a, latest, doc, (kept id e found a.doc (mem_held_of_docFor doc)).trans content⟩

/-- At every point of a run a row that is not disabled resolves to the version that arrived last from the locality
in effect, which is still what it was: to the user's own version if there is one, else to the installed one,
however many pristine ones arrived before or after it, and else to the pristine one. A disabled row resolves to
nothing. -/
theorem resolve_of_recorded [Pruning ρ] (run : Recorded log (t, docs)) (found : t.entryAt? id = some e)
    (here : e.isTombstone = false) :
    (e.locality.disabled = true → t.resolve id = none) ∧
      (e.locality.disabled = false → ∃ a,
        Arrival.latest? log id (if e.locality.own then { own := true }
          else if e.locality.installed then { installed := true } else { pristine := true }) = some a ∧
        t.resolve id = some a.doc ∧ docs.isLive a.doc = true ∧ docs.get a.doc = a.document) := by
  obtain ⟨keeping, recalls⟩ := run.keeping_recalls
  have resolved : t.resolve id = e.resolve := by rw [resolve, found, Option.bind_some]
  rw [resolved]
  constructor
  · intro disabled
    exact e.resolve_eq_none_of_isHidden (by simp [Locality.isHidden, disabled])
  · intro shown
    obtain ⟨row, place, rfl⟩ := row?_of_entryAt? found
    have live := (keeping.sound.rows row (mem_of_row? place)).live here
    obtain ⟨named, same⟩ := live.resolve_eq shown
    obtain ⟨a, latest, doc, content⟩ := recalls id _ found _ (Entry.isSource_effective _) named
    have member := mem_held_of_entry found (mem_held_of_docFor doc)
    exact ⟨a, latest, same.trans doc, keeping.holding.mem_iff.1 member, content⟩

/-- A pristine document that is found after the installed one does not come into effect. -/
theorem resolve_of_recorded_installed :
    ∃ (log : List Arrival) (t : EntryTable Entry) (docs : DocumentTable), Recorded log (t, docs) ∧
      log.map Arrival.loc = [{ pristine := true }, { installed := true }] ∧ t.resolve 0 = some 0 ∧
        docs.get 0 = { Document.new with filename := "installed" } := by
  have installed : Recorded _ (_, _) := .insert (.empty : Recorded [] (({}, {}) : State Entry)) .installed
    (d := { Document.new with filename := "installed" }) rfl
  have pristine : Recorded _ (_, _) :=
    @Recorded.register _ _ _ _ _ _ _ 0 _ { Document.new with filename := "pristine" } installed .pristine rfl rfl rfl
  obtain ⟨a, latest, resolved, -, content⟩ := (@resolve_of_recorded _ _ _ _ _ 0 _ _ _ pristine rfl rfl).2 rfl
  obtain rfl := Option.some.inj latest
  exact ⟨_, _, _, pristine, rfl, resolved, content⟩

end EntryTable

namespace Bundle
open EntryTable (Recorded)

variable {log : List Arrival} {t : EntryTable Bundle} {docs docs' : DocumentTable} {id : Nat} {b : Bundle}
  {kind : ItemKind} {table : EntryTable Entry}

/-- An operation on the items of a bundle leaves the versions of all bundles alone. -/
theorem recorded_items (before : Recorded log (t, docs)) (found : t.row? id = some b) (here : b.entry.isTombstone = false)
    (step : EntryTable.Step (b.items.get kind, docs) (table, docs')) :
    Recorded log (t.setRow id { b with items := b.items.set kind table }, docs') := by
  obtain ⟨keeping, -⟩ := before.keeping_recalls
  have passes := step.passes ((keeping.sound.rows _ (EntryTable.mem_of_row? found)).settled kind)
  obtain ⟨rest, perm, entry, -, rows⟩ := exists_held_besides found kind
  obtain ⟨-, kept⟩ := passes.trades rest (keeping.holding.perm perm)
  refine .inside before (EntryTable.entryAt?_setRow found rfl) (passes_items keeping.sound found here passes) ?_
  intro other e found' index member
  refine kept index ?_
  obtain ⟨row, place, rfl⟩ := EntryTable.row?_of_entryAt? found'
  by_cases same : other = id
  · subst same
    obtain rfl := Option.some.inj (found.symm.trans place)
    exact entry index member
  · exact rows other row same place index (List.mem_append_left _ member)

end Bundle

end EditorBundles.Catalog
