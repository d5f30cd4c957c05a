import EditorBundles.Proofs.Catalog.Isolation
import EditorBundles.Proofs.Catalog.RowChanges

/-!
# Entries that remain

Only recording a document gives an entry another name and another identity. Whatever else is done to a catalog leaves
each entry with what it had of them, and with no document that it did not have. This is looked at for the entries of a
table of any kind together with those inside of its rows, which have places there.
-/

namespace EditorBundles.Catalog
set_option autoImplicit false
open PropertyList

/-! ## Entries -/

theorem Locality.hasSource_of_pristine {s : Locality} (pristine : s.pristine = true) : s.hasSource = true := by
  rw [hasSource, pristine, Bool.true_or, Bool.true_or]

namespace Entry

/-- The entry names no document and has no version. -/
def Blank (e : Entry) : Prop := e.held = [] ∧ e.locality.hasSource = false

/-- What an entry becomes that is not given a document. -/
structure Remains (e e' : Entry) : Prop where
  name : e'.name = e.name
  uuid : e'.uuid = e.uuid
  held : ∀ doc ∈ e'.held, doc ∈ e.held
  blank : e.Blank → e'.Blank

variable {e e' e'' : Entry}

theorem Remains.refl (e : Entry) : e.Remains e := ⟨rfl, rfl, fun _ member => member, id⟩

theorem Remains.trans (first : e.Remains e') (second : e'.Remains e'') : e.Remains e'' where
  name := second.name.trans first.name
  uuid := second.uuid.trans first.uuid
  held doc member := first.held doc (second.held doc member)
  blank blank := second.blank (first.blank blank)

/-- An entry with a version goes on with some of its documents. -/
theorem remains_of_source (source : e.locality.hasSource = true) (name : e'.name = e.name) (uuid : e'.uuid = e.uuid)
    (held : ∀ doc ∈ e'.held, doc ∈ e.held) : e.Remains e' where
  name := name
  uuid := uuid
  held := held
  blank blank := Bool.noConfusion (blank.2.symm.trans source)

theorem blank_tombstone : tombstone.Blank := ⟨rfl, rfl⟩

/-- Versions and flags are taken from an entry. -/
theorem remains_of_less (name : e'.name = e.name) (uuid : e'.uuid = e.uuid)
    (factory : ∀ doc, e'.factoryDoc = some doc → e.factoryDoc = some doc)
    (own : ∀ doc, e'.ownDoc = some doc → e.ownDoc = some doc)
    (source : e.locality.hasSource = false → e'.locality.hasSource = false) : e.Remains e' := by
  have held (doc : Nat) (member : doc ∈ e'.held) : doc ∈ e.held := by
    simp only [Entry.held, List.mem_append, Option.mem_toList] at member ⊢
    exact member.imp (factory doc) (own doc)
  refine ⟨name, uuid, held, fun blank => ⟨List.eq_nil_iff_forall_not_mem.2 fun doc member => ?_, source blank.2⟩⟩
  have before := held doc member
  rw [blank.1] at before
  cases before

theorem remains_dropVersions (e : Entry) (loc : Locality) : e.Remains (EntryTable.dropVersions e loc).1 := by
  refine remains_of_less rfl rfl (fun _ named => (Option.ite_none_left_eq_some.1 named).2)
    (fun _ named => (Option.ite_none_left_eq_some.1 named).2) fun none_ => ?_
  simp only [Locality.hasSource, Bool.or_eq_false_iff] at none_
  simp [Locality.hasSource, EntryTable.dropVersions, Locality.without, none_]

theorem remains_disowned (e : Entry) : e.Remains e.disowned := by
  rw [disowned]
  split
  · refine remains_of_less rfl rfl (fun _ named => named) (fun _ named => by cases named) fun none_ => ?_
    simp only [Locality.hasSource, Bool.or_eq_false_iff] at none_ ⊢
    simp [none_]
  · exact .refl e

theorem remains_uninstalled (e : Entry) : e.Remains e.uninstalled := by
  rw [uninstalled]
  split
  · refine remains_of_less rfl rfl (fun _ named => by cases named) (fun _ named => named) fun none_ => ?_
    simp only [Locality.hasSource, Bool.or_eq_false_iff] at none_ ⊢
    simp [none_]
  · exact .refl e

end Entry

/-! ## Rows -/

/-- Rows with entries inside, each with a place. -/
class Indexed (ρ : Type) [Row ρ] where
  inner? : ρ → ItemKind × Nat → Option Entry
  inner?_withEntry : ∀ row e place, inner? (Row.withEntry row e) place = inner? row place
  inner?_ofEntry : ∀ e place, inner? (Row.ofEntry e) place = none
  inner?_release : ∀ loc row docs place e', inner? (Row.release loc row docs).1 place = some e' →
    e'.Blank ∨ ∃ e, inner? row place = some e ∧ e.Remains e'

instance : Indexed Entry where
  inner? _ _ := none
  inner?_withEntry _ _ _ := rfl
  inner?_ofEntry _ _ := rfl
  inner?_release _ _ _ _ _ found := nomatch found

namespace EntryTable

section
variable {ρ : Type} [Row ρ] [Indexed ρ] {t t' t'' : EntryTable ρ} {docs docs' : DocumentTable} {id doc : Nat}
  {row row' : ρ} {e e' : Entry} {loc : Locality} {place : Option (ItemKind × Nat)}

/-- The entry of a row, or the one at a place inside. -/
def entryIn? (row : ρ) : Option (ItemKind × Nat) → Option Entry
  | none => some (Row.entry row)
  | some place => Indexed.inner? row place

/-- No entry of the row has anything. -/
def BlankRow (row : ρ) : Prop := ∀ place e, entryIn? row place = some e → e.Blank

/-- Each entry of the row remains. -/
def RemainsRow (row row' : ρ) : Prop :=
  ∀ place e', entryIn? row' place = some e' → e'.Blank ∨ ∃ e, entryIn? row place = some e ∧ e.Remains e'

/-- Each entry of the table remains. -/
def Remains (t t' : EntryTable ρ) : Prop := Alters BlankRow RemainsRow t t'

/-- What is found at no place inside is the entry of the row. -/
theorem bind_entryIn?_none (t : EntryTable ρ) (id : Nat) : (t.row? id).bind (entryIn? · none) = t.entryAt? id := by
  rw [entryAt?]
  cases t.row? id <;> rfl

theorem blankRow_ofEntry (blank : e.Blank) : BlankRow (Row.ofEntry e : ρ) := by
  intro place e' found
  cases place with
  | none =>
    obtain rfl := Option.some.inj found
    rwa [Row.entry_ofEntry]
  | some place =>
    rw [entryIn?, Indexed.inner?_ofEntry] at found
    cases found

theorem RemainsRow.trans {row'' : ρ} (first : RemainsRow row row') (second : RemainsRow row' row'') :
    RemainsRow row row'' := by
  intro place e'' found
  rcases second place e'' found with blank | ⟨e', found', later⟩
  · exact .inl blank
  · rcases first place e' found' with blank | ⟨e, found, sooner⟩
    · exact .inl (later.blank blank)
    · exact .inr ⟨e, found, sooner.trans later⟩

theorem remainsRow_withEntry (remains : (Row.entry row).Remains e) : RemainsRow row (Row.withEntry row e) := by
  intro place e' found
  cases place with
  | none =>
    rw [entryIn?, Row.entry_withEntry] at found
    obtain rfl := Option.some.inj found
    exact .inr ⟨_, rfl, remains⟩
  | some place =>
    rw [entryIn?, Indexed.inner?_withEntry] at found
    exact .inr ⟨e', found, .refl e'⟩

theorem remainsRow_release (loc : Locality) (row : ρ) (docs : DocumentTable) :
    RemainsRow row (Row.release loc row docs).1 := by
  intro place e' found
  cases place with
  | none =>
    rw [entryIn?, Row.entry_release] at found
    exact .inr ⟨e', found, .refl e'⟩
  | some place => exact Indexed.inner?_release loc row docs place e' found

theorem evolves_remains : Evolves (BlankRow (ρ := ρ)) RemainsRow where
  mark := blankRow_ofEntry Entry.blank_tombstone
  after blank remains place e' found := by
    rcases remains place e' found with new | ⟨e, before, kept⟩
    · exact new
    · exact kept.blank (blank place e before)
  trans := .trans

theorem Remains.refl (t : EntryTable ρ) : Remains t t := Alters.refl t

theorem Remains.trans (first : Remains t t') (second : Remains t' t'') : Remains t t'' :=
  Alters.trans first evolves_remains second

theorem remainsRow_dropRow (row : ρ) (loc : Locality) (docs : DocumentTable) : RemainsRow row (dropRow row loc docs) :=
  (remainsRow_withEntry ((Row.entry row).remains_dropVersions loc)).trans (remainsRow_release _ _ docs)

theorem remains_drop (t : EntryTable ρ) (id : Nat) (loc : Locality) (docs : DocumentTable) :
    Remains t (t.drop id loc docs).1 :=
  alters_drop evolves_remains.mark fun row docs' _ _ => remainsRow_dropRow row loc docs'

theorem remains_dropAll (t : EntryTable ρ) (loc : Locality) (docs : DocumentTable) : Remains t (t.dropAll loc docs).1 :=
  alters_dropWhere evolves_remains (fun row docs' _ => remainsRow_dropRow row loc docs') _ t docs _

theorem remains_delete {dir : String} {fs fs' : FileSystem} (deleted : t.delete id dir docs fs = .ok (t', docs', fs')) :
    Remains t t' := by
  refine alters_delete evolves_remains.mark (fun row _ factory => remainsRow_withEntry ?_) deleted
  refine (Row.entry row).remains_disowned.trans (Entry.remains_of_source ?_ rfl rfl fun _ member => member)
  simp only [Locality.isFactory, Locality.hasSource, Bool.or_eq_true] at factory ⊢
  exact factory.imp_left .inl

theorem remains_restore (t : EntryTable ρ) (id : Nat) : Remains t (t.restore id).1 :=
  alters_restore fun _ _ _ => remainsRow_withEntry
    (Entry.remains_of_less rfl rfl (fun _ named => named) (fun _ named => named) fun none_ => none_)

theorem remains_mark (t : EntryTable ρ) (id : Nat) (b : Bool) :
    Remains t (t.modifyEntry id fun e => { e with modified := b }) :=
  alters_modifyEntry fun _ _ => remainsRow_withEntry
    (Entry.remains_of_less rfl rfl (fun _ named => named) (fun _ named => named) fun none_ => none_)

/-- The entry that is found after all rows remained. -/
theorem Remains.found (h : Remains t t') (found : (t'.row? id).bind (entryIn? · place) = some e') :
    e'.Blank ∨ ∃ e, (t.row? id).bind (entryIn? · place) = some e ∧ e.Remains e' := by
  obtain ⟨row', at_id, inside⟩ := Option.bind_eq_some_iff.1 found
  rcases h id row' at_id with new | ⟨row, before, rfl | remains⟩
  · exact .inl (new place e' inside)
  · exact .inr ⟨e', Option.bind_eq_some_iff.2 ⟨row', before, inside⟩, .refl e'⟩
  · refine (remains place e' inside).imp_right ?_
    rintro ⟨e, inside, kept⟩
    exact ⟨e, Option.bind_eq_some_iff.2 ⟨row, before, inside⟩, kept⟩

end

end EntryTable

namespace Bundle

variable {items : PerKind (EntryTable Entry)}

/-- Versions are dropped from the items of some kinds. -/
theorem remains_dropItems (loc : Locality) (items : PerKind (EntryTable Entry)) (docs : DocumentTable) (kinds : List ItemKind)
    (kind : ItemKind) : EntryTable.Remains (items.get kind) ((dropItems loc items docs kinds).1.get kind) := by
  induction kinds generalizing items docs with
  | nil => exact .refl _
  | cons first kinds ih =>
    refine .trans ?_ (ih (items.set first ((items.get first).dropAll loc docs).1) _)
    by_cases same : kind = first
    · subst same
      rw [PerKind.get_set_self]
      exact EntryTable.remains_dropAll _ loc docs
    · rw [PerKind.get_set_of_ne items same]
      exact .refl _

instance : Indexed Bundle where
  inner? b place := (b.items.get place.1).entryAt? place.2
  inner?_withEntry _ _ _ := rfl
  inner?_ofEntry e place := by
    obtain ⟨kind, id⟩ := place
    cases kind <;> rfl
  inner?_release loc b docs place e' found := by
    have remains := remains_dropItems loc b.items docs ItemKind.all place.1
    rw [← EntryTable.bind_entryIn?_none] at found ⊢
    exact remains.found found

variable {t : EntryTable Bundle} {id : Nat} {b : Bundle} {kind : ItemKind} {table : EntryTable Entry}

/-- What remains in the items of one kind remains in the table of bundles. -/
theorem remains_items (found : t.row? id = some b) (remains : EntryTable.Remains (b.items.get kind) table) :
    EntryTable.Remains t (t.setRow id { b with items := b.items.set kind table }) := by
  refine EntryTable.alters_setRow found fun place e' inside => ?_
  cases place with
  | none => exact .inr ⟨e', inside, .refl e'⟩
  | some place =>
    obtain ⟨other, i⟩ := place
    by_cases same : other = kind
    · subst same
      change ((b.items.set other table).get other).entryAt? i = some e' at inside
      rw [PerKind.get_set_self] at inside
      rw [← EntryTable.bind_entryIn?_none] at inside
      have before := remains.found inside
      rwa [EntryTable.bind_entryIn?_none] at before
    · change ((b.items.set kind table).get other).entryAt? i = some e' at inside
      rw [PerKind.get_set_of_ne b.items same] at inside
      exact .inr ⟨e', inside, .refl e'⟩

end Bundle

end EditorBundles.Catalog
