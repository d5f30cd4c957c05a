import EditorBundles.Proofs.Catalog.Isolation
import EditorBundles.Proofs.Catalog.NamesApart

/-!
# Families of versions

The user's own versions of themes are written to one directory, and so are those of the items of one kind in one
bundle. Such a family is a table of the catalog. Moves of the catalog keep the names in each family apart: what is
done to the table of a family is done to that family alone, and what is done to bundles gives no names to their items.
-/

namespace EditorBundles.Catalog
set_option autoImplicit false
open PropertyList

/-! ## Items of bundles -/

namespace Bundle

theorem brings_dropItems (loc : Locality) (items : PerKind (EntryTable Entry)) (docs : DocumentTable) (kinds : List ItemKind)
    (kind : ItemKind) : EntryTable.Brings none (items.get kind) ((dropItems loc items docs kinds).1.get kind) := by
  induction kinds generalizing items docs with
  | nil => exact .refl _
  | cons first kinds ih =>
    refine .trans ?_ (ih _ _)
    by_cases same : kind = first
    · subst same
      rw [PerKind.get_set_self]
      exact EntryTable.brings_dropWhere _ loc _ docs _
    · rw [PerKind.get_set_of_ne items same]
      exact .refl _

theorem brings_release (loc : Locality) (b : Bundle) (docs : DocumentTable) (kind : ItemKind) :
    EntryTable.Brings none (b.items.get kind) ((Row.release loc b docs).1.items.get kind) :=
  brings_dropItems loc b.items docs ItemKind.all kind

end Bundle

namespace EntryTable

variable {t t' : EntryTable Bundle} {docs docs' : DocumentTable} {id owner : Nat} {kind : ItemKind} {b b' : Bundle}

/-- The items of a kind in a bundle. There are none where there is no bundle. -/
def itemsAt (t : EntryTable Bundle) (owner : Nat) (kind : ItemKind) : EntryTable Entry :=
  ((t.row? owner).map fun b => b.items.get kind).getD {}

theorem itemsAt_eq (found : t.row? owner = some b) (kind : ItemKind) : t.itemsAt owner kind = b.items.get kind := by
  rw [itemsAt, found]
  rfl

/-- Items name no document that they did not name before. -/
def BringsItems (t t' : EntryTable Bundle) : Prop := ∀ owner kind, Brings none (t.itemsAt owner kind) (t'.itemsAt owner kind)

theorem brings_none_empty {ρ : Type} [Row ρ] (t : EntryTable ρ) : Brings none t {} :=
  brings_none fun _ _ found => nomatch found

theorem BringsItems.refl (t : EntryTable Bundle) : BringsItems t t := fun _ _ => .refl _

/-- Each row has items that it had, fewer of them, or none. -/
theorem bringsItems_of_rows (h : ∀ owner b', t'.row? owner = some b' →
    b'.items = .replicate {} ∨ ∃ b, t.row? owner = some b ∧ ∀ kind, Brings none (b.items.get kind) (b'.items.get kind)) :
    BringsItems t t' := by
  intro owner kind
  cases found : t'.row? owner with
  | none =>
    rw [itemsAt, itemsAt, found]
    exact brings_none_empty _
  | some b' =>
    rw [itemsAt_eq found]
    rcases h owner b' found with none_ | ⟨b, before, brings⟩
    · rw [none_]
      cases kind <;> exact brings_none_empty _
    · rw [itemsAt_eq before]
      exact brings kind

/-- The items of other bundles stay. -/
theorem bringsItems_setRow (found : t.row? id = some b)
    (brings : ∀ kind, Brings none (b.items.get kind) (b'.items.get kind)) : BringsItems t (t.setRow id b') := by
  refine bringsItems_of_rows fun owner row there => .inr ?_
  by_cases same : owner = id
  · subst same
    rw [row?_setRow_self (lt_of_row? found), Option.some.injEq] at there
    subst there
    exact ⟨b, found, brings⟩
  · rw [row?_setRow_of_ne t same] at there
    exact ⟨row, there, fun _ => .refl _⟩

/-- Bundles are changed that keep their items. -/
theorem bringsItems_modify (t : EntryTable Bundle) (id : Nat) {change : Bundle → Bundle}
    (same : ∀ b, (change b).items = b.items) : BringsItems t ⟨t.rows.modify id change⟩ := by
  cases found : t.row? id with
  | none =>
    have absent : t.rows[id]? = none := found
    rw [List.modify_eq_set_getElem?, absent]
    exact .refl t
  | some b =>
    rw [modify_eq found]
    refine bringsItems_setRow found fun kind => ?_
    rw [same]
    exact .refl _

theorem bringsItems_modifyEntry (t : EntryTable Bundle) (id : Nat) (change : Entry → Entry) :
    BringsItems t (t.modifyEntry id change) := t.bringsItems_modify id fun _ => rfl

theorem bringsItems_cut (t : EntryTable Bundle) (id : Nat) : BringsItems t (t.cut id) := by
  refine bringsItems_of_rows fun owner row found => ?_
  rcases row?_cut found with rfl | ⟨-, before⟩
  · exact .inl rfl
  · exact .inr ⟨row, before, fun _ => .refl _⟩

theorem bringsItems_insert (t : EntryTable Bundle) (doc : Nat) (loc : Locality) (docs : DocumentTable) :
    BringsItems t (t.insert doc loc docs).1 := by
  refine bringsItems_of_rows fun owner row found => ?_
  rw [row?_insert] at found
  split at found
  · exact .inl (congrArg Bundle.items (Option.some.inj found).symm)
  · exact .inr ⟨row, found, fun _ => .refl _⟩

theorem bringsItems_register (t : EntryTable Bundle) (id doc : Nat) (loc : Locality) (docs : DocumentTable) :
    BringsItems t (t.register id doc loc docs).1 := by
  rw [register]
  cases t.entryAt? id with
  | none => exact .refl t
  | some e =>
    dsimp only
    split
    · exact t.bringsItems_modifyEntry id _
    · split <;> exact t.bringsItems_modifyEntry id _

theorem bringsItems_drop (t : EntryTable Bundle) (id : Nat) (loc : Locality) (docs : DocumentTable) :
    BringsItems t (t.drop id loc docs).1 := by
  rw [drop]
  cases found : t.row? id with
  | none => exact .refl t
  | some b =>
    dsimp only
    split
    · exact bringsItems_setRow found (Bundle.brings_release _ _ _)
    · dsimp only
      rw [fst_removeRow (row?_setRow_self (lt_of_row? found) _), cut_setRow]
      exact t.bringsItems_cut id

theorem bringsItems_delete {dir : String} {fs fs' : FileSystem} (deleted : t.delete id dir docs fs = .ok (t', docs', fs')) :
    BringsItems t t' := by
  cases found : t.row? id with
  | none =>
    rw [delete, entryAt?, found] at deleted
    obtain ⟨rfl, -⟩ := Prod.mk.inj (Except.ok.inj deleted)
    exact .refl t
  | some row =>
    obtain ⟨docs₁, -, ⟨-, -, rfl⟩ | ⟨-, removed⟩⟩ := delete_cases (congrArg (Option.map Row.entry) found) deleted
    · exact t.bringsItems_modifyEntry id _
    · rw [modifyEntry_eq found] at removed
      have left : t' = _ := congrArg Prod.fst removed
      rw [left, fst_removeRow (row?_setRow_self (lt_of_row? found) _), cut_setRow]
      exact t.bringsItems_cut id

theorem bringsItems_restore (t : EntryTable Bundle) (id : Nat) : BringsItems t (t.restore id).1 := by
  rw [restore]
  cases t.entryAt? id with
  | none => exact .refl t
  | some e =>
    dsimp only
    split
    · exact t.bringsItems_modifyEntry id _
    · exact .refl t

/-- Whatever is done to the table of bundles gives items no documents. -/
theorem bringsItems_move {N : Prop} {s s' : List Nat × EntryTable Bundle × DocumentTable} (move : Move N s s') :
    BringsItems s.2.1 s'.2.1 := by
  cases move with
  | store => exact .refl _
  | insert => exact bringsItems_insert _ _ _ _
  | register => exact bringsItems_register _ _ _ _ _
  | edit edited _ =>
    obtain ⟨e, -, ⟨-, -, rfl, -⟩ | ⟨source, -, -, rfl⟩⟩ := editable?_cases edited
    · exact .refl _
    · exact bringsItems_modifyEntry _ _ _
  | drop => exact bringsItems_drop _ _ _ _
  | delete deleted => exact bringsItems_delete deleted
  | restore => exact bringsItems_restore _ _
  | mark => exact bringsItems_modifyEntry _ _ _

end EntryTable

/-! ## Families -/

/-- The themes, or the items of one kind in one bundle. -/
inductive Family where
  | themes
  | items (kind : ItemKind) (owner : Nat)
  deriving DecidableEq, Repr

/-- The subject with a number in a family. -/
def Family.subject : Family → Nat → Subject
  | .themes, id => .theme id
  | .items kind owner, id => .item kind owner id

theorem Family.subject_inj {f f' : Family} {id id' : Nat} (same : f.subject id = f'.subject id') : f = f' ∧ id = id' := by
  cases f <;> cases f' <;> cases same <;> exact ⟨rfl, rfl⟩

namespace Database

variable {W : Document → Prop} {N : Prop} {db db' : Database} {f f' : Family} {spare spare' : List Nat} {id doc : Nat}
  {e : Entry}

/-- The table of a family. -/
def family (db : Database) : Family → EntryTable Entry
  | .themes => db.themes
  | .items kind owner => db.bundles.itemsAt owner kind

/-- No two own versions of a family have the same file name. -/
def NamesApart (db : Database) : Prop := ∀ f, (db.family f).NamesApart db.docs

theorem namesApart_empty : NamesApart {} := by
  intro f id other name named
  have none_ : ({} : Database).family f = {} := by cases f <;> rfl
  rw [none_] at named
  cases named

/-- The catalog without the versions of a family. -/
def clear (db : Database) : Family → Database
  | .themes => { db with themes := {} }
  | .items kind owner =>
    { db with bundles := ⟨db.bundles.rows.modify owner fun b => { b with items := b.items.set kind {} }⟩ }

theorem entryAt?_family (db : Database) (f : Family) (id : Nat) :
    (db.family f).entryAt? id = db.entryOf? (f.subject id) := by
  cases f with
  | themes => rfl
  | items kind owner =>
    rw [family, EntryTable.itemsAt, Family.subject, entryOf?]
    cases db.bundles.row? owner <;> rfl

theorem family_items (db : Database) {owner : Nat} {b : Bundle} (found : db.bundles.row? owner = some b) (kind : ItemKind) :
    db.family (.items kind owner) = b.items.get kind := EntryTable.itemsAt_eq found kind

/-- Other items of a kind are put into a bundle. -/
theorem family_setItems_self {owner : Nat} {b : Bundle} (found : db.bundles.row? owner = some b) (kind : ItemKind)
    (table : EntryTable Entry) (docs : DocumentTable) :
    ({ db with bundles := db.bundles.setRow owner { b with items := b.items.set kind table }, docs } : Database).family
      (.items kind owner) = table := by
  rw [family_items _ (EntryTable.row?_setRow_self (EntryTable.lt_of_row? found) _), PerKind.get_set_self]

theorem family_setItems_of_ne {owner : Nat} {b : Bundle} {kind : ItemKind} (found : db.bundles.row? owner = some b)
    (table : EntryTable Entry) (docs : DocumentTable) (ne : f ≠ .items kind owner) :
    ({ db with bundles := db.bundles.setRow owner { b with items := b.items.set kind table }, docs } : Database).family f =
      db.family f := by
  cases f with
  | themes => rfl
  | items kind' owner' =>
    by_cases same : owner' = owner
    · subst same
      have apart : kind' ≠ kind := fun same => ne (congrArg (Family.items · owner') same)
      rw [family_items _ (EntryTable.row?_setRow_self (EntryTable.lt_of_row? found) _), family_items db found,
        PerKind.get_set_of_ne _ apart]
    · have kept := EntryTable.row?_setRow_of_ne db.bundles same { b with items := b.items.set kind table }
      rw [family, family, EntryTable.itemsAt, EntryTable.itemsAt, kept]

theorem family_clear_of_ne (db : Database) (ne : f' ≠ f) : (db.clear f).family f' = db.family f' := by
  cases f with
  | themes =>
    cases f' with
    | themes => exact absurd rfl ne
    | items => rfl
  | items kind owner =>
    cases found : db.bundles.row? owner with
    | none =>
      have absent : db.bundles.rows[owner]? = none := found
      rw [clear, List.modify_eq_set_getElem?, absent]
      rfl
    | some b =>
      rw [clear, EntryTable.modify_eq found]
      exact family_setItems_of_ne found {} db.docs ne

/-- The entries of a catalog are those of a family and those of the others. -/
theorem entries_family (db : Database) (f : Family) : db.entries.Perm ((db.family f).entries ++ (db.clear f).entries) := by
  cases f with
  | themes => exact .refl _
  | items kind owner =>
    cases found : db.bundles.row? owner with
    | none =>
      have absent : db.bundles.rows[owner]? = none := found
      rw [family, EntryTable.itemsAt, found, clear, List.modify_eq_set_getElem?, absent]
      exact .refl _
    | some b =>
      obtain ⟨rest, before, after⟩ := EntryTable.entries_setRow found
      obtain ⟨others, whole, part⟩ := Bundle.itemEntries_set b.items kind
      rw [family, EntryTable.itemsAt_eq found, clear, EntryTable.modify_eq found]
      have bundle : db.bundles.entries.Perm (b.entry :: Bundle.itemEntries b.items ++ rest) := before
      have cleared : (db.bundles.setRow owner { b with items := b.items.set kind {} }).entries.Perm
          (b.entry :: Bundle.itemEntries (b.items.set kind {}) ++ rest) := after _
      simp only [entries, List.perm_iff_count, List.count_append, List.count_cons, List.cons_append]
        at bundle whole part cleared ⊢
      intro e
      have none_ : List.count e ({} : EntryTable Entry).entries = 0 := rfl
      have := bundle e
      have := whole e
      have := part {} e
      have := cleared e
      omega

theorem mem_entries_clear (ne : f' ≠ f) (found : (db.family f').entryAt? id = some e) : e ∈ (db.clear f).entries := by
  rw [← family_clear_of_ne db ne] at found
  exact ((db.clear f).entries_family f').mem_iff.2 (List.mem_append_left _ (EntryTable.mem_entries found))

/-- The documents of a family and those of the others. -/
theorem Owns.exists_others (h : db.Owns spare) (f : Family) : ∃ left, db.docs.Holding
    ((spare ++ (db.family f).entries.flatMap Entry.held) ++ (left ++ (db.clear f).entries.flatMap Entry.held)) := by
  obtain ⟨left, holding⟩ := h.holding
  refine ⟨left, holding.perm ?_⟩
  have split := (db.entries_family f).flatMap_right Entry.held
  simp only [List.flatMap_append, List.perm_iff_count, List.count_append] at split ⊢
  intro index
  have := split index
  omega

/-- The documents of a family are its own. -/
theorem Owns.owned (h : db.Owns spare) (f : Family) : EntryTable.Owned spare (db.family f) db.docs := by
  obtain ⟨left, holding⟩ := h.exists_others f
  exact ⟨_, holding.perm List.perm_append_comm⟩

/-- No two rows of families have one own document. -/
theorem Owns.ownDoc?_inj (h : db.Owns spare) {id' : Nat} (own : (db.family f).ownDoc? id = some doc)
    (own' : (db.family f').ownDoc? id' = some doc) : f = f' ∧ id = id' := by
  obtain ⟨e, found, -, named⟩ := EntryTable.ownDoc?_eq_some.1 own
  obtain ⟨e', found', -, named'⟩ := EntryTable.ownDoc?_eq_some.1 own'
  rw [entryAt?_family] at found found'
  refine Family.subject_inj (Classical.not_not.1 fun different => ?_)
  exact h.disjoint_held found (Ne.symm different) found' (List.mem_append_right _ (Option.mem_toList.2 named))
    (List.mem_append_right _ (Option.mem_toList.2 named'))

/-! ## Moves -/

/-- Nothing is named that was not named before, and documents keep their names. -/
theorem NamesApart.quiet (apart : db.NamesApart) (owns : db.Owns spare) (owns' : db'.Owns spare')
    (brings : ∀ f, EntryTable.Brings none (db.family f) (db'.family f)) (kept : db.docs.KeepsNames db'.docs) :
    db'.NamesApart :=
  fun f => (apart f).quiet ((brings f).namesFrom_none kept (owns.owned f).stored (owns'.owned f).stored)

/-- Documents are changed, and those of own versions keep their names. -/
theorem NamesApart.docs {docs : DocumentTable} (apart : db.NamesApart)
    (kept : ∀ f id doc, (db.family f).ownDoc? id = some doc → (docs.get doc).filename = (db.docs.get doc).filename) :
    ({ db with docs } : Database).NamesApart := by
  intro f
  have same : ({ db with docs } : Database).family f = db.family f := by cases f <;> rfl
  rw [same]
  exact (apart f).quiet (EntryTable.namesFrom_docs (kept f))

/-- Something is done to the table of one family. -/
theorem NamesApart.change (f : Family) (apart : db.NamesApart) (owns : db.Owns spare)
    (change : EntryTable.Change False (spare, db.family f, db.docs) (spare', db'.family f, db'.docs))
    (others : ∀ f', f' ≠ f → db'.family f' = db.family f') : db'.NamesApart := by
  intro f'
  by_cases same : f' = f
  · subst same
    exact (apart f').change (owns.owned f') change
  · rw [others f' same]
    refine (apart f').quiet (EntryTable.namesFrom_docs fun id doc own => congrArg Document.filename ?_)
    obtain ⟨e, found, -, named⟩ := EntryTable.ownDoc?_eq_some.1 own
    obtain ⟨left, holding⟩ := owns.exists_others f
    obtain ⟨_, trades⟩ := (EntryTable.carries_moves change.anyMoves).trades
    refine (trades _ holding).2 doc (List.mem_append_right _ (List.mem_flatMap.2 ⟨e, mem_entries_clear same found, ?_⟩))
    exact List.mem_append_right _ (Option.mem_toList.2 named)

/-- The table of bundles changes, and no items get documents. -/
theorem brings_family (db : Database) {bundles : EntryTable Bundle} (docs : DocumentTable)
    (brings : EntryTable.BringsItems db.bundles bundles) (f : Family) :
    EntryTable.Brings none (db.family f) (({ db with bundles, docs } : Database).family f) := by
  cases f with
  | themes => exact .refl _
  | items kind owner => exact brings owner kind

/-- The documents of bundles are those of a catalog, too. -/
theorem Owns.ownedBundles (h : db.Owns spare) : EntryTable.Owned spare db.bundles db.docs := by
  obtain ⟨left, holding⟩ := h.holding
  refine ⟨left ++ db.themes.entries.flatMap Entry.held, holding.perm ?_⟩
  simp only [entries, List.flatMap_append, List.perm_iff_count, List.count_append]
  intro index
  omega

/-- Whatever is done to bundles gives no names to their items. -/
theorem NamesApart.bundles (apart : db.NamesApart) (owns : db.Owns spare) {bundles : EntryTable Bundle} {docs : DocumentTable}
    (moves : EntryTable.Moves True (spare, db.bundles, db.docs) (spare', bundles, docs)) :
    ({ db with bundles, docs } : Database).NamesApart := by
  have all {s : List Nat × EntryTable Bundle × DocumentTable} (moves : EntryTable.Moves True (spare, db.bundles, db.docs) s) :
      ({ db with bundles := s.2.1, docs := s.2.2 } : Database).Owns s.1 ∧
        ({ db with bundles := s.2.1, docs := s.2.2 } : Database).NamesApart := by
    induction moves with
    | refl => exact ⟨owns, apart⟩
    | @tail s₁ s₂ _ move ih =>
      obtain ⟨spare₁, bundles₁, docs₁⟩ := s₁
      obtain ⟨spare₂, bundles₂, docs₂⟩ := s₂
      obtain ⟨owns₁, apart₁⟩ := ih
      have step : Move (fun _ => True) True (spare₁, { db with bundles := bundles₁, docs := docs₁ })
        (spare₂, { db with bundles := bundles₂, docs := docs₂ }) := .bundles (.single move)
      have owns₂ := owns₁.move step
      have brings := brings_family { db with bundles := bundles₁, docs := docs₁ } docs₂ (EntryTable.bringsItems_move move)
      exact ⟨owns₂, apart₁.quiet owns₁ owns₂ brings (owns₁.ownedBundles.keepsNames move)⟩
  exact (all moves).2

/-- An own version is given a name that no other one of its family has. -/
theorem NamesApart.name {filename : String} (apart : db.NamesApart) (owns : db.Owns spare)
    (own : (db.family f).ownDoc? id = some doc) (lacks : (db.family f).Lacks db.docs filename) :
    ({ db with docs := db.docs.modify doc fun d => { d with filename } } : Database).NamesApart := by
  intro f'
  have table : ({ db with docs := db.docs.modify doc fun d => { d with filename } } : Database).family f' =
      db.family f' := by
    cases f' <;> rfl
  rw [table]
  by_cases same : f' = f
  · subst same
    have names : EntryTable.NamesFrom (some (id, filename)) (db.family f') db.docs (db.family f')
        (db.docs.modify doc fun d => { d with filename }) := by
      intro other name named
      obtain ⟨doc', own', rfl, present⟩ := EntryTable.ownName?_eq_some.1 named
      by_cases here : doc' = doc
      · subst here
        obtain ⟨-, rfl⟩ := owns.ownDoc?_inj own own'
        have live := (owns.owned f').stored id doc' own
        have bound : doc' < db.docs.size := of_decide_eq_true (Bool.and_eq_true_iff.1 live).1
        rw [DocumentTable.modify, db.docs.get_set_self bound]
        exact .inl rfl
      · rw [DocumentTable.modify, db.docs.get_set_of_ne here] at present ⊢
        exact .inr (EntryTable.ownName?_eq_some.2 ⟨doc', own', rfl, present⟩)
    exact (apart f').give names lacks
  · refine (apart f').quiet (EntryTable.namesFrom_docs fun other doc' own' => ?_)
    have different : doc' ≠ doc := by
      rintro rfl
      exact same (owns.ownDoc?_inj own' own).1
    rw [DocumentTable.modify, db.docs.get_set_of_ne different]

/-- Every move of a catalog keeps names apart. -/
theorem NamesApart.move (apart : db.NamesApart) (owns : db.Owns spare) (move : Move W False (spare, db) (spare', db')) :
    db'.NamesApart := by
  have owns' := owns.move move
  cases move with
  | themes change =>
    refine apart.change .themes owns change fun f ne => ?_
    cases f with
    | themes => exact absurd rfl ne
    | items => rfl
  | bundles moves => exact apart.bundles owns moves
  | @items _ _ _ owner b kind table docs found change =>
    have here : EntryTable.Change False (spare, db.family (.items kind owner), db.docs) (spare', (
        { db with bundles := db.bundles.setRow owner { b with items := b.items.set kind table }, docs } : Database).family
          (.items kind owner), docs) := by
      rwa [family_setItems_self found, family_items db found]
    exact apart.change _ owns here fun f ne => family_setItems_of_ne found table docs ne
  | @copy _ _ id e doc found named =>
    have live := owns.isLive (s := .bundle id) found (List.mem_append_left _ (Option.mem_toList.2 named))
    have there : (db.docs.get doc).copy.isVacant = false := (Bool.not_eq_true' _).mp (Bool.and_eq_true_iff.1 live).2
    refine apart.quiet owns owns' (fun f => ?_) (owns.ownedBundles.keepsNames_insert there (.refl _))
    cases f <;> exact .refl _
  | @write _ _ doc content d _ found =>
    subst found
    have same : ({ content with filename := (db.docs.get doc).filename, modTime := (db.docs.get doc).modTime } :
        Document).filename = (db.docs.get doc).filename := rfl
    exact apart.docs fun _ _ other _ => DocumentTable.filename_set same other
  | @stamp _ _ doc modTime =>
    have same (d : Document) : ({ d with modTime } : Document).filename = d.filename := rfl
    exact apart.docs fun _ _ other _ => DocumentTable.filename_modify same db.docs doc other
  | name named =>
    obtain ⟨owner, b, kind, id, found, own, lacks⟩ := named.resolve_left False.elim
    rw [← family_items db found] at own lacks
    exact apart.name owns own lacks
  | @nameManifest _ _ id e doc filename found held =>
    refine apart.docs fun f other doc' own => ?_
    obtain ⟨e', found', -, named⟩ := EntryTable.ownDoc?_eq_some.1 own
    rw [entryAt?_family] at found'
    have different : doc' ≠ doc := by
      rintro rfl
      refine owns.disjoint_held (s := .bundle id) found ?_ found' held
        (List.mem_append_right _ (Option.mem_toList.2 named))
      cases f <;> exact fun same => nomatch same
    rw [DocumentTable.modify, db.docs.get_set_of_ne different]
  | @fill _ _ doc _ member =>
    refine apart.docs fun f other doc' own => ?_
    have different : doc' ≠ doc := by
      rintro rfl
      exact (owns.owned f).notMem_spare own member
    rw [DocumentTable.modify, db.docs.get_set_of_ne different]
  | place => exact apart.quiet owns owns' (brings_family db _ (EntryTable.bringsItems_modify _ _ fun _ => rfl)) (.refl _)
  | @hide _ _ _ b released docs found _ release =>
    have brings := Bundle.brings_release { own := true, installed := true } b db.docs
    have prunes := Pruning.prunes_release { own := true, installed := true } b db.docs
    rw [release] at brings prunes
    exact apart.quiet owns owns' (brings_family db _ (EntryTable.bringsItems_setRow found brings))
      (prunes.trans (prunes_dropDoc _ _)).keepsNames
  | @uninstall _ _ _ b released docs found _ release =>
    have brings := Bundle.brings_release { own := true, installed := true } b db.docs
    have prunes := Pruning.prunes_release { own := true, installed := true } b db.docs
    rw [release] at brings prunes
    refine apart.quiet owns owns' (brings_family db _ (EntryTable.bringsItems_setRow found brings)) ?_
    dsimp only
    split
    · exact (prunes.trans (prunes_dropDoc _ _)).keepsNames
    · exact prunes.keepsNames
  | reveal => exact apart.quiet owns owns' (brings_family db _ (EntryTable.bringsItems_modify _ _ fun _ => rfl)) (.refl _)
  | associate => exact apart.docs fun _ _ _ _ => rfl

theorem NamesApart.moves (apart : db.NamesApart) (owns : db.Owns spare) (moves : Moves W False (spare, db) (spare', db')) :
    db'.NamesApart := by
  have all {s s' : List Nat × Database} (owns : s.2.Owns s.1) (apart : s.2.NamesApart) (moves : Moves W False s s') :
      s'.2.NamesApart := by
    induction moves with
    | refl => exact apart
    | tail before move ih => exact ih.move (owns.moves before) move
  exact all owns apart moves

end Database

end EditorBundles.Catalog
