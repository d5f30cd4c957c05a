import EditorBundles.Proofs.Catalog.Carrying

/-!
# Editing one entry

Whoever edits a theme, a bundle or an item gets a document of the user's own, a copy if there was none. In every
catalog that is reached each document is named once at most. So what is written to that document is seen nowhere
else, and asking for it again gives the same one.
-/

namespace EditorBundles.Catalog
set_option autoImplicit false
open PropertyList

/-! ## Places of entries -/

/-- Rows in which putting an entry changes nothing but the entry. -/
class LawfulRow (ρ : Type) [Row ρ] : Prop where
  withEntry_withEntry : ∀ (row : ρ) e e', Row.withEntry (Row.withEntry row e) e' = Row.withEntry row e'
  withEntry_entry : ∀ row : ρ, Row.withEntry row (Row.entry row) = row

instance : LawfulRow Entry where
  withEntry_withEntry _ _ _ := rfl
  withEntry_entry _ := rfl

instance : LawfulRow Bundle where
  withEntry_withEntry _ _ _ := rfl
  withEntry_entry _ := rfl

namespace EntryTable

variable {ρ : Type} [Row ρ] {t : EntryTable ρ} {id : Nat} {e : Entry}

/-- Changing an entry puts it as it is changed in its place. -/
theorem modifyEntry_const (found : t.entryAt? id = some e) (change : Entry → Entry) :
    t.modifyEntry id change = t.modifyEntry id fun _ => change e := by
  obtain ⟨row, place, rfl⟩ := row?_of_entryAt? found
  rw [modifyEntry_eq place, modifyEntry_eq place]

/-- Two changes of an entry are one. -/
theorem modifyEntry_modifyEntry [LawfulRow ρ] (t : EntryTable ρ) (id : Nat) (first second : Entry → Entry) :
    (t.modifyEntry id first).modifyEntry id second = t.modifyEntry id (second ∘ first) := by
  refine congrArg EntryTable.mk ((List.modify_modify_eq _ _ id t.rows).trans ?_)
  congr 1
  funext row
  simp [LawfulRow.withEntry_withEntry]

/-- An entry that is put in its own place leaves the table as it was. -/
theorem modifyEntry_self [LawfulRow ρ] (found : t.entryAt? id = some e) : t.modifyEntry id (fun _ => e) = t := by
  obtain ⟨row, place, rfl⟩ := row?_of_entryAt? found
  obtain ⟨bound, rfl⟩ := List.getElem?_eq_some_iff.1 place
  rw [modifyEntry_eq place, LawfulRow.withEntry_entry, setRow, List.set_getElem_self]

/-- An entry with a version can be edited. -/
theorem exists_editable? (found : t.entryAt? id = some e) (backed : e.Backed) (source : e.locality.hasSource = true)
    (docs : DocumentTable) : ∃ result, t.editable? id docs = some result := by
  rw [editable?, found]
  cases own : e.locality.own with
  | true =>
    obtain ⟨doc, named⟩ := Option.isSome_iff_exists.1 (backed.own own)
    exact ⟨(t, docs, doc), by simp [own, named]⟩
  | false =>
    have factory : e.locality.isFactory = true := by
      simpa [Locality.hasSource, Locality.isFactory, own] using source
    obtain ⟨doc, named⟩ := Option.isSome_iff_exists.1 (backed.factory factory)
    refine ⟨(t.modifyEntry id fun e => { e with ownDoc := some (docs.copy doc).2, locality := { e.locality with own := true } },
      docs.copy doc), ?_⟩
    simp [own, named, factory]

/-- The entries of a table are one of them and others, which stay when the one is changed. -/
theorem entries_modifyEntry [Nesting ρ] (found : t.entryAt? id = some e) : ∃ rest, t.entries.Perm (e :: rest) ∧
    ∀ e', (t.modifyEntry id fun _ => e').entries.Perm (e' :: rest) := by
  obtain ⟨row, place, rfl⟩ := row?_of_entryAt? found
  obtain ⟨rest, before, after⟩ := entries_setRow place
  refine ⟨Nesting.below row ++ rest, before, fun e' => ?_⟩
  rw [modifyEntry_eq place]
  have put := after (Row.withEntry row e')
  rwa [entriesOf_withEntry] at put

end EntryTable

namespace Database

variable {db : Database} {s s' : Subject} {e e' : Entry} {spare : List Nat} {doc : Nat}

/-- The entry of a subject. -/
def entryOf? (db : Database) : Subject → Option Entry
  | .theme id => db.themes.entryAt? id
  | .bundle id => db.bundles.entryAt? id
  | .item kind owner id => (db.bundles.row? owner).bind fun b => (b.items.get kind).entryAt? id

/-- Puts another entry for a subject. -/
def putEntry (db : Database) (e : Entry) : Subject → Database
  | .theme id => { db with themes := db.themes.modifyEntry id fun _ => e }
  | .bundle id => { db with bundles := db.bundles.modifyEntry id fun _ => e }
  | .item kind owner id => { db with bundles := ⟨db.bundles.rows.modify owner fun b =>
      { b with items := b.items.set kind ((b.items.get kind).modifyEntry id fun _ => e) }⟩ }

theorem entryOf?_docs (db : Database) (docs : DocumentTable) (s : Subject) :
    ({ db with docs } : Database).entryOf? s = db.entryOf? s := by
  cases s <;> rfl

/-- The entry that was put for a subject is the one that is read. -/
theorem entryOf?_putEntry_self (found : db.entryOf? s = some e) (e' : Entry) :
    (db.putEntry e' s).entryOf? s = some e' := by
  cases s with
  | theme id => exact (EntryTable.entryAt?_modifyEntry_self _ id _).trans (congrArg (Option.map fun _ => e') found)
  | bundle id => exact (EntryTable.entryAt?_modifyEntry_self _ id _).trans (congrArg (Option.map fun _ => e') found)
  | item kind owner id =>
    obtain ⟨b, place, found⟩ := Option.bind_eq_some_iff.1 found
    have put : (db.putEntry e' (.item kind owner id)).bundles = db.bundles.setRow owner _ := EntryTable.modify_eq place _
    rw [entryOf?, put, EntryTable.row?_setRow_self (EntryTable.lt_of_row? place)]
    rw [Option.bind_some, PerKind.get_set_self, EntryTable.entryAt?_modifyEntry_self, found]
    rfl

/-- Putting an entry leaves those of other subjects alone. -/
theorem entryOf?_putEntry_of_ne (db : Database) (e : Entry) (ne : s' ≠ s) :
    (db.putEntry e s).entryOf? s' = db.entryOf? s' := by
  cases s with
  | theme id =>
    cases s' with
    | theme other =>
      have apart : other ≠ id := fun same => ne (congrArg Subject.theme same)
      exact congrArg (Option.map _) (EntryTable.row?_modifyEntry_of_ne _ apart _)
    | bundle other => rfl
    | item kind owner other => rfl
  | bundle id =>
    cases s' with
    | theme other => rfl
    | bundle other =>
      have apart : other ≠ id := fun same => ne (congrArg Subject.bundle same)
      exact congrArg (Option.map _) (EntryTable.row?_modifyEntry_of_ne _ apart _)
    | item kind owner other =>
      rw [putEntry, entryOf?, entryOf?, EntryTable.row?, EntryTable.modifyEntry, List.getElem?_modify]
      cases found : db.bundles.rows[owner]? with
      | none => simp [EntryTable.row?, found]
      | some b => split <;> simp [EntryTable.row?, found, Row.withEntry]
  | item kind owner id =>
    cases s' with
    | theme other => rfl
    | bundle other =>
      rw [putEntry, entryOf?, entryOf?, EntryTable.entryAt?, EntryTable.entryAt?, EntryTable.row?, List.getElem?_modify]
      cases found : db.bundles.rows[other]? with
      | none => simp [EntryTable.row?, found]
      | some b => split <;> simp [EntryTable.row?, found, Row.entry]
    | item kind' owner' other =>
      rw [putEntry, entryOf?, entryOf?, EntryTable.row?, List.getElem?_modify]
      cases found : db.bundles.rows[owner']? with
      | none => simp [EntryTable.row?, found]
      | some b =>
        split
        · rename_i same
          subst same
          by_cases sameKind : kind' = kind
          · subst sameKind
            have apart : other ≠ id := fun same => ne (congrArg (Subject.item kind' owner) same)
            have kept : ((b.items.get kind').modifyEntry id fun _ => e).entryAt? other = (b.items.get kind').entryAt? other :=
              congrArg (Option.map _) (EntryTable.row?_modifyEntry_of_ne _ apart _)
            simp [EntryTable.row?, found, kept]
          · simp [EntryTable.row?, found, PerKind.get_set_of_ne _ sameKind]
        · simp [EntryTable.row?, found]

/-- The entries of a catalog are that of one subject and others, which stay when the one is changed. -/
theorem entries_putEntry (found : db.entryOf? s = some e) : ∃ rest, db.entries.Perm (e :: rest) ∧
    ∀ e', (db.putEntry e' s).entries.Perm (e' :: rest) := by
  cases s with
  | theme id =>
    obtain ⟨rest, before, after⟩ := EntryTable.entries_modifyEntry found
    exact ⟨rest ++ db.bundles.entries, before.append_right _, fun e' => (after e').append_right _⟩
  | bundle id =>
    obtain ⟨rest, before, after⟩ := EntryTable.entries_modifyEntry found
    refine ⟨db.themes.entries ++ rest, ?_, fun e' => ?_⟩
    · exact (before.append_left _).trans List.perm_middle
    · exact ((after e').append_left _).trans List.perm_middle
  | item kind owner id =>
    obtain ⟨b, place, found⟩ := Option.bind_eq_some_iff.1 found
    obtain ⟨rest₁, before₁, after₁⟩ := EntryTable.entries_modifyEntry found
    obtain ⟨rest₂, before₂, after₂⟩ := Bundle.itemEntries_set b.items kind
    obtain ⟨rest₃, before₃, after₃⟩ := EntryTable.entries_setRow place
    -- an entry in a table of items that is in a row of bundles
    have nested {e : Entry} {table items bundles : List Entry} (inTable : table.Perm (e :: rest₁))
        (inItems : items.Perm (table ++ rest₂)) (inBundles : bundles.Perm (b.entry :: items ++ rest₃)) :
        (db.themes.entries ++ bundles).Perm (e :: (db.themes.entries ++ (b.entry :: (rest₁ ++ rest₂) ++ rest₃))) := by
      have first := ((inItems.trans (inTable.append_right rest₂)).cons b.entry).append_right rest₃
      have swapped := (List.Perm.swap e b.entry (rest₁ ++ rest₂)).append_right rest₃
      exact ((inBundles.trans (first.trans swapped)).append_left _).trans List.perm_middle
    refine ⟨_, nested before₁ before₂ before₃, fun e' => ?_⟩
    have put : (db.putEntry e' (.item kind owner id)).bundles = db.bundles.setRow owner _ := EntryTable.modify_eq place _
    refine nested (after₁ e') (after₂ _) ?_
    rw [put]
    exact after₃ _

/-! ## Documents of one entry -/

namespace Owns

/-- A document that an entry names is there. -/
theorem isLive (h : db.Owns spare) (found : db.entryOf? s = some e) (member : doc ∈ e.held) : db.docs.isLive doc = true := by
  obtain ⟨left, holding⟩ := h.holding
  obtain ⟨rest, before, -⟩ := entries_putEntry found
  refine holding.mem_iff.1 (List.mem_append_right _ (List.mem_append_right _ ?_))
  exact List.mem_flatMap.2 ⟨e, before.mem_iff.2 List.mem_cons_self, member⟩

/-- What an entry and the others name is all different. -/
theorem nodup (h : db.Owns spare) {rest : List Entry} (split : db.entries.Perm (e :: rest)) :
    (e.held ++ rest.flatMap Entry.held).Nodup := by
  obtain ⟨left, holding⟩ := h.holding
  have named := (List.nodup_append.1 (List.nodup_append.1 holding.nodup).2.1).2.1
  exact (split.flatMap_right Entry.held).nodup_iff.1 named

/-- No document is named by both references of an entry. -/
theorem nodup_held (h : db.Owns spare) (found : db.entryOf? s = some e) : e.held.Nodup := by
  obtain ⟨rest, before, -⟩ := entries_putEntry found
  exact (List.nodup_append.1 (h.nodup before)).1

/-- No document is named by two entries. -/
theorem disjoint_held (h : db.Owns spare) (found : db.entryOf? s = some e) (ne : s' ≠ s) (found' : db.entryOf? s' = some e') :
    e.held.Disjoint e'.held := by
  obtain ⟨rest, before, after⟩ := entries_putEntry found
  -- the other entry is still there when this one names nothing
  rw [← entryOf?_putEntry_of_ne db Entry.tombstone ne] at found'
  obtain ⟨others, among, -⟩ := entries_putEntry found'
  have member : e' ∈ Entry.tombstone :: rest := (after Entry.tombstone).mem_iff.1 (among.mem_iff.2 List.mem_cons_self)
  intro doc held held'
  rcases List.mem_cons.1 member with rfl | member
  · exact absurd held' List.not_mem_nil
  · exact (List.nodup_append.1 (h.nodup before)).2.2 doc held doc (List.mem_flatMap.2 ⟨e', member, held'⟩) rfl

end Owns

end Database

/-! ## Editing -/

/-- The user's own version of a subject, which is made if there is none. -/
def edit? (c : Catalog) : Subject → Option (Catalog × Nat)
  | .theme id => c.editTheme? id
  | .bundle id => c.editBundle? id
  | .item kind owner id => c.editItem? kind owner id

/-- A subject is edited: it names the document `own` as its own, which it did before or which is a copy of its factory
document, and all other subjects are as they were. -/
structure Edits (db : Database) (s : Subject) (e : Entry) (db' : Database) (e' : Entry) (own : Nat) : Prop where
  found : db.entryOf? s = some e
  found' : db'.entryOf? s = some e'
  factoryDoc : e'.factoryDoc = e.factoryDoc
  ownDoc : e'.ownDoc = some own
  editable : e'.locality.own = true
  others : ∀ s', s' ≠ s → db'.entryOf? s' = db.entryOf? s'
  docs : db'.docs = db.docs ∨ ∃ source, e.factoryDoc = some source ∧ db.docs.copy source = (db'.docs, own)

/-- Another entry is put for a subject. -/
theorem Edits.of_putEntry {db : Database} {s : Subject} {e e' : Entry} {docs : DocumentTable} {own : Nat}
    (found : db.entryOf? s = some e) (factoryDoc : e'.factoryDoc = e.factoryDoc) (ownDoc : e'.ownDoc = some own)
    (editable : e'.locality.own = true)
    (copied : docs = db.docs ∨ ∃ source, e.factoryDoc = some source ∧ db.docs.copy source = (docs, own)) :
    Edits db s e { db.putEntry e' s with docs } e' own where
  found := found
  found' := (Database.entryOf?_docs _ docs s).trans (Database.entryOf?_putEntry_self found e')
  factoryDoc := factoryDoc
  ownDoc := ownDoc
  editable := editable
  others s' ne := (Database.entryOf?_docs _ docs s').trans (db.entryOf?_putEntry_of_ne e' ne)
  docs := copied

theorem edits_of_edit? {c c' : Catalog} {s : Subject} {own : Nat} (edited : c.edit? s = some (c', own)) :
    ∃ e e', Edits c.db s e c'.db e' own := by
  cases s with
  | theme id =>
    obtain ⟨⟨themes, docs, own⟩, made, edited⟩ := Option.bind_eq_some_iff.1 edited
    obtain ⟨rfl, rfl⟩ := Prod.mk.inj (Option.some.inj edited)
    obtain ⟨e, found, ⟨flag, named, rfl, rfl⟩ | ⟨source, named, copied, rfl⟩⟩ := EntryTable.editable?_cases made
    · exact ⟨e, e, found, found, rfl, named, flag, fun _ _ => rfl, .inl rfl⟩
    · rw [EntryTable.modifyEntry_const found]
      exact ⟨e, _, .of_putEntry (s := .theme id) found rfl rfl rfl (.inr ⟨source, named, copied⟩)⟩
  | bundle id =>
    obtain ⟨⟨bundles, docs, own⟩, made, edited⟩ := Option.bind_eq_some_iff.1 edited
    obtain ⟨rfl, rfl⟩ := Prod.mk.inj (Option.some.inj edited)
    obtain ⟨e, found, ⟨flag, named, rfl, rfl⟩ | ⟨source, named, copied, rfl⟩⟩ := EntryTable.editable?_cases made
    · exact ⟨e, e, found, found, rfl, named, flag, fun _ _ => rfl, .inl rfl⟩
    · rw [EntryTable.modifyEntry_const found]
      exact ⟨e, _, .of_putEntry (s := .bundle id) found rfl rfl rfl (.inr ⟨source, named, copied⟩)⟩
  | item kind owner id =>
    obtain ⟨items, listed, edited⟩ := Option.bind_eq_some_iff.1 edited
    obtain ⟨b, place, rfl⟩ := Option.map_eq_some_iff.1 listed
    obtain ⟨⟨table, docs, own⟩, made, edited⟩ := Option.bind_eq_some_iff.1 edited
    obtain ⟨rfl, rfl⟩ := Prod.mk.inj (Option.some.inj edited)
    obtain ⟨e, found, made⟩ := EntryTable.editable?_cases made
    have located : c.db.entryOf? (.item kind owner id) = some e := Option.bind_eq_some_iff.2 ⟨b, place, found⟩
    -- the table of items that is put has another entry for the item
    have put (e' : Entry) : ((c.withDocs docs).withItems kind owner ((b.items.get kind).modifyEntry id fun _ => e')).db =
        { c.db.putEntry e' (.item kind owner id) with docs } := by
      have same := EntryTable.modify_eq place fun row =>
        { row with items := row.items.set kind ((b.items.get kind).modifyEntry id fun _ => e') }
      have same' := EntryTable.modify_eq place fun row =>
        { row with items := row.items.set kind ((row.items.get kind).modifyEntry id fun _ => e') }
      exact congrArg (fun bundles => ({ c.db with bundles, docs } : Database)) (same.trans same'.symm)
    rcases made with ⟨flag, named, rfl, rfl⟩ | ⟨source, named, copied, rfl⟩
    · refine ⟨e, { e with modified := true }, ?_⟩
      show Edits c.db _ e ((c.withDocs c.db.docs).withItems kind owner _).db _ own
      rw [EntryTable.modifyEntry_const found, put]
      exact .of_putEntry located rfl named flag (.inl rfl)
    · refine ⟨e, { e with ownDoc := some own, locality := { e.locality with own := true }, modified := true }, ?_⟩
      show Edits c.db _ e ((c.withDocs docs).withItems kind owner _).db _ own
      rw [EntryTable.modifyEntry_modifyEntry, EntryTable.modifyEntry_const found, put]
      exact .of_putEntry located rfl rfl rfl (.inr ⟨source, named, copied⟩)

/-- A subject with a version can be edited. -/
theorem exists_edit? {c : Catalog} {s : Subject} {e : Entry} (h : c.db.Owns []) (found : c.db.entryOf? s = some e)
    (source : e.locality.hasSource = true) : ∃ c' own, c.edit? s = some (c', own) := by
  obtain ⟨rest, among, -⟩ := Database.entries_putEntry found
  have backed := h.backed e (among.mem_iff.2 List.mem_cons_self)
  cases s with
  | theme id =>
    obtain ⟨result, made⟩ := EntryTable.exists_editable? found backed source c.db.docs
    exact ⟨_, _, Option.bind_eq_some_iff.2 ⟨result, made, rfl⟩⟩
  | bundle id =>
    obtain ⟨result, made⟩ := EntryTable.exists_editable? found backed source c.db.docs
    exact ⟨_, _, Option.bind_eq_some_iff.2 ⟨result, made, rfl⟩⟩
  | item kind owner id =>
    obtain ⟨b, place, found⟩ := Option.bind_eq_some_iff.1 found
    obtain ⟨result, made⟩ := EntryTable.exists_editable? found backed source c.db.docs
    have listed : c.itemTable? kind owner = some (b.items.get kind) := congrArg (Option.map _) place
    exact ⟨_, _, Option.bind_eq_some_iff.2 ⟨_, listed, Option.bind_eq_some_iff.2 ⟨result, made, rfl⟩⟩⟩

/-- A subject that has a version of the user's own is edited without a copy. -/
theorem edit?_again {c : Catalog} {s : Subject} {e : Entry} {own : Nat} (found : c.db.entryOf? s = some e)
    (flag : e.locality.own = true) (named : e.ownDoc = some own) :
    ∃ c', c.edit? s = some (c', own) ∧ c'.db.docs = c.db.docs := by
  cases s with
  | theme id => exact ⟨_, Option.bind_eq_some_iff.2 ⟨_, EntryTable.editable?_again found flag named c.db.docs, rfl⟩, rfl⟩
  | bundle id => exact ⟨_, Option.bind_eq_some_iff.2 ⟨_, EntryTable.editable?_again found flag named c.db.docs, rfl⟩, rfl⟩
  | item kind owner id =>
    obtain ⟨b, place, found⟩ := Option.bind_eq_some_iff.1 found
    have listed : c.itemTable? kind owner = some (b.items.get kind) := congrArg (Option.map _) place
    have made := EntryTable.editable?_again found flag named c.db.docs
    exact ⟨_, Option.bind_eq_some_iff.2 ⟨_, listed, Option.bind_eq_some_iff.2 ⟨_, made, rfl⟩⟩, rfl⟩

/-- Editing keeps what is owned. -/
theorem Database.Owns.edit? {c c' : Catalog} {s : Subject} {own : Nat} (h : c.db.Owns [])
    (edited : c.edit? s = some (c', own)) : c'.db.Owns [] := by
  cases s with
  | theme id => exact h.moves (moves_editTheme? (W := fun _ => True) (N := True) [] (.inl trivial) edited)
  | bundle id => exact h.moves (moves_editBundle? (W := fun _ => True) (N := True) [] edited)
  | item kind owner id => exact h.moves (moves_editItem? (W := fun _ => True) (N := True) [] (.inl trivial) edited)

/-- Documents that entries name are as they were when a subject has been edited. -/
theorem Edits.get_eq {db db' : Database} {s s' : Subject} {e e' f : Entry} {own doc : Nat} (edits : Edits db s e db' e' own)
    (h : db.Owns []) (found : db.entryOf? s' = some f) (member : doc ∈ f.held) : db'.docs.get doc = db.docs.get doc := by
  rcases edits.docs with same | ⟨source, named, copied⟩
  · rw [same]
  · obtain ⟨left, holding⟩ := h.holding
    have holds {s : Subject} {e : Entry} {doc : Nat} (found : db.entryOf? s = some e) (member : doc ∈ e.held) :
        doc ∈ left ++ ([] ++ db.entries.flatMap Entry.held) := holding.mem_iff.2 (h.isLive found member)
    have stored := holding.stored source (holds edits.found (by simp [Entry.held, named]))
    have inserted := (db.docs.trades_insert (d := (db.docs.get source).copy) stored _ holding).2 doc (holds found member)
    rwa [show db.docs.insert (db.docs.get source).copy = (db'.docs, own) from copied] at inserted

/-! ## Writing to one document -/

/-- A document is written to any number of times. -/
def writeAll? (c : Catalog) (doc : Nat) (contents : List Document) : Option Catalog :=
  contents.foldlM (fun c content => c.write? doc content) c

/-- Writing to a document leaves the entries and all other documents alone. -/
theorem writeAll?_others {c c' : Catalog} {doc : Nat} {contents : List Document}
    (wrote : c.writeAll? doc contents = some c') : (∀ s, c'.db.entryOf? s = c.db.entryOf? s) ∧
      ∀ other, other ≠ doc → c'.liveDoc? other = c.liveDoc? other := by
  induction contents generalizing c with
  | nil =>
    obtain rfl := Option.some.inj wrote
    exact ⟨fun _ => rfl, fun _ _ => rfl⟩
  | cons content contents ih =>
    rw [writeAll?, List.foldlM_cons] at wrote
    obtain ⟨c₁, first, wrote⟩ := Option.bind_eq_some_iff.1 wrote
    obtain ⟨entries, docs⟩ := ih wrote
    obtain ⟨d, -, first⟩ := Option.bind_eq_some_iff.1 first
    split at first
    · cases first
    · obtain rfl := Option.some.inj first
      refine ⟨fun s => (entries s).trans (Database.entryOf?_docs _ _ s), fun other ne => (docs other ne).trans ?_⟩
      simp [liveDoc?, withDocs, DocumentTable.isLive, DocumentTable.get_set_of_ne _ ne]

/-! ## Editing in a catalog that is reached -/

/-- Subject `s` has been edited in catalog `c`, and the catalog that is left has its document `own`. -/
structure EditedAlone (c : Catalog) (s : Subject) (c' : Catalog) (own : Nat) : Prop where
  /-- The factory document of the subject is the same as before. -/
  factory : ∃ e e', c.db.entryOf? s = some e ∧ c'.db.entryOf? s = some e' ∧ e'.factoryDoc = e.factoryDoc ∧
    e'.ownDoc = some own ∧ ∀ doc ∈ e.factoryDoc, c'.liveDoc? doc = c.liveDoc? doc
  /-- All other subjects have the same documents as before. -/
  others : ∀ s', s' ≠ s → c'.db.entryOf? s' = c.db.entryOf? s' ∧
    ∀ e, c.db.entryOf? s' = some e → ∀ doc ∈ e.held, c'.liveDoc? doc = c.liveDoc? doc
  /-- Editing the subject again gives the same document, and no copy is made. -/
  again : ∃ c'', c'.edit? s = some (c'', own) ∧ c''.db.docs = c'.db.docs

/-- Documents are there, and none is named twice. A subject that has a version can be edited, and whatever is written
to the document that is given for it concerns it alone. -/
structure Isolated (c : Catalog) : Prop where
  live : ∀ s e, c.db.entryOf? s = some e → ∀ doc ∈ e.held, c.db.docs.isLive doc = true
  once : ∀ s e, c.db.entryOf? s = some e → e.held.Nodup
  apart : ∀ s s' e e', s ≠ s' → c.db.entryOf? s = some e → c.db.entryOf? s' = some e' → e.held.Disjoint e'.held
  editable : ∀ s e, c.db.entryOf? s = some e → e.locality.hasSource = true → ∃ c' own, c.edit? s = some (c', own)
  edited : ∀ s c₁ own contents c₂, c.edit? s = some (c₁, own) → c₁.writeAll? own contents = some c₂ →
    EditedAlone c s c₂ own

theorem editedAlone {c c₁ c₂ : Catalog} {s : Subject} {own : Nat} {contents : List Document} (h : c.db.Owns [])
    (edited : c.edit? s = some (c₁, own)) (wrote : c₁.writeAll? own contents = some c₂) : EditedAlone c s c₂ own := by
  obtain ⟨e, e', edits⟩ := edits_of_edit? edited
  have h₁ : c₁.db.Owns [] := h.edit? edited
  obtain ⟨entries, docs⟩ := writeAll?_others wrote
  have owned : own ∈ e'.held := by simp [Entry.held, edits.ownDoc]
  -- a document that an entry names before and after, other than the one that is written to
  have kept {s' : Subject} {f f' : Entry} {doc : Nat} (found : c.db.entryOf? s' = some f) (member : doc ∈ f.held)
      (found' : c₁.db.entryOf? s' = some f') (member' : doc ∈ f'.held) (ne : doc ≠ own) :
      c₂.liveDoc? doc = c.liveDoc? doc := by
    rw [docs doc ne, liveDoc?, liveDoc?, h.isLive found member, h₁.isLive found' member', edits.get_eq h found member]
  refine ⟨⟨e, e', edits.found, (entries s).trans edits.found', edits.factoryDoc, edits.ownDoc, fun doc named => ?_⟩,
    fun s' ne => ⟨(entries s').trans (edits.others s' ne), fun f found doc member => ?_⟩, ?_⟩
  · have member : doc ∈ e.held := List.mem_append_left _ (Option.mem_toList.2 named)
    have member' : doc ∈ e'.factoryDoc.toList := Option.mem_toList.2 (edits.factoryDoc ▸ named)
    have different := (List.nodup_append.1 (h₁.nodup_held edits.found')).2.2 doc member' own (by simp [edits.ownDoc])
    exact kept edits.found member edits.found' (List.mem_append_left _ member') different
  · have found' := (edits.others s' ne).trans found
    have different : doc ≠ own := fun same => h₁.disjoint_held edits.found' ne found' owned (same ▸ member)
    exact kept found member found' member different
  · exact edit?_again ((entries s).trans edits.found') edits.editable edits.ownDoc

/-- In every catalog that is reached, subjects are edited in isolation. -/
theorem isolated_of_reachable {c : Catalog} (reached : Reachable (fun _ _ => True) c) : Isolated c := by
  have h := owns_of_reachable reached
  exact {
    live := fun _ _ found _ member => h.isLive found member
    once := fun _ _ found => h.nodup_held found
    apart := fun _ _ _ _ ne found found' => h.disjoint_held found ne.symm found'
    editable := fun _ _ found source => exists_edit? h found source
    edited := fun _ _ _ _ _ edited wrote => editedAlone h edited wrote }

/-- A snippet of a new bundle is edited and written to. The manifest of the bundle stays as it was. -/
theorem isolated_of_reachable_snippet : ∃ c c₁ c₂, Reachable (fun _ _ => True) c ∧
    c.edit? (.item .snippet 0 0) = some (c₁, 1) ∧ c₁.writeAll? 1 [Document.create "t" "B"] = some c₂ ∧
    (∃ e, c.db.entryOf? (.bundle 0) = some e ∧ e.held = [0]) ∧ c₂.liveDoc? 0 = c.liveDoc? 0 ∧
    ∃ c₃, c₂.edit? (.item .snippet 0 0) = some (c₃, 1) := by
  obtain ⟨empty, c, files, opens, bare⟩ := bare_openAt { nth := fun _ => "A" }
  have opened : Reachable (fun _ _ => True) c := .opened empty opens
  obtain ⟨config, db, files, identities, dirty, lastFlush, pending, complete⟩ := c
  obtain ⟨rfl, rfl⟩ := bare
  have withBundle := opened.next trivial (show Operation.run? _ (.newBundle "b") = some _ from rfl)
  have withSnippet := withBundle.next trivial (show Operation.run? _ (.newItem .snippet 0 "s") = some _ from rfl)
  obtain ⟨c, c₁, c₂, reached, edited, wrote, e, found, held⟩ : ∃ c c₁ c₂, Reachable (fun _ _ => True) c ∧
      c.edit? (.item .snippet 0 0) = some (c₁, 1) ∧ c₁.writeAll? 1 [Document.create "t" "B"] = some c₂ ∧
      ∃ e, c.db.entryOf? (.bundle 0) = some e ∧ e.held = [0] := ⟨_, _, _, withSnippet, rfl, rfl, _, rfl, rfl⟩
  have alone := (isolated_of_reachable reached).edited _ _ _ _ _ edited wrote
  have manifest := (alone.others (.bundle 0) (by decide)).2 e found 0 (held ▸ List.mem_cons_self)
  obtain ⟨c₃, again, -⟩ := alone.again
  exact ⟨c, c₁, c₂, reached, edited, wrote, ⟨e, found, held⟩, manifest, c₃, again⟩

end EditorBundles.Catalog
