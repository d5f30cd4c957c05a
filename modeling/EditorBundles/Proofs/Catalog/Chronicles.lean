import EditorBundles.Proofs.Catalog.Remaining

/-!
# Chronicles of a catalog

A chronicle tells, the last event first, which documents rows were given as their versions, and which documents were
edited. All else that is done to the tables of a catalog is not told: there entries remain as they are or are gone, and
the documents that they go on naming keep their names and identities. Whatever a catalog has been through has a
chronicle.
-/

namespace EditorBundles.PropertyList
set_option autoImplicit false

/-- What an entry shows of a document is the same in another one. -/
structure Document.SameIdentity (d d' : Document) : Prop where
  name : d'.rootString? "name" = d.rootString? "name"
  uuid : d'.rootString? "uuid" = d.rootString? "uuid"

theorem Document.SameIdentity.refl (d : Document) : d.SameIdentity d := ⟨rfl, rfl⟩

theorem Document.SameIdentity.trans {d d' d'' : Document} (first : d.SameIdentity d') (second : d'.SameIdentity d'') :
    d.SameIdentity d'' := ⟨second.name.trans first.name, second.uuid.trans first.uuid⟩

namespace DocumentTable

variable {docs docs' : DocumentTable} {held : List Nat} {d : Document}

/-- Documents that are there before and after have the names and the identities that they had. -/
def KeepsIdentities (docs docs' : DocumentTable) : Prop :=
  ∀ doc, docs.isLive doc = true → docs'.isLive doc = true → (docs.get doc).SameIdentity (docs'.get doc)

theorem KeepsIdentities.refl (docs : DocumentTable) : docs.KeepsIdentities docs := fun _ _ _ => .refl _

theorem Prunes.keepsIdentities (h : docs.Prunes docs') : docs.KeepsIdentities docs' := fun doc _ live =>
  h.kept doc live ▸ .refl _

theorem Holding.keepsIdentities_insert (h : docs.Holding held) (stored : d.isVacant = false) :
    docs.KeepsIdentities (docs.insert d).1 := fun doc live _ =>
  Catalog.EntryTable.get_insert_of_held h stored doc (h.mem_iff.2 live) ▸ .refl _

/-- A document is changed that keeps its identity. -/
theorem keepsIdentities_modify {change : Document → Document} (docs : DocumentTable) (index : Nat)
    (keeps : docs.isLive index = true → (docs.get index).SameIdentity (change (docs.get index))) :
    docs.KeepsIdentities (docs.modify index change) := by
  intro doc live _
  by_cases here : doc = index
  · subst here
    have bound : doc < docs.size := of_decide_eq_true (Bool.and_eq_true_iff.1 live).1
    rw [modify, docs.get_set_self bound]
    exact keeps live
  · rw [modify, docs.get_set_of_ne here]
    exact .refl _

end DocumentTable

end EditorBundles.PropertyList

namespace EditorBundles.Catalog
set_option autoImplicit false
open PropertyList
open Relation (ReflTransGen)

/-- What is told of a catalog. -/
inductive Event where
  /-- A document is recorded as a version of a subject. -/
  | registered (s : Subject) (doc : Nat) (d : Document)
  /-- A document is given out for editing or written to. -/
  | edited (doc : Nat)

/-! ## Tables -/

namespace EntryTable

/-- What is told of a table whose rows are of some subjects. A pristine version behind an installed one is only noted. -/
inductive Tells {ρ : Type} [Row ρ] (subject : Nat → Subject) (t : EntryTable ρ) (docs : DocumentTable) :
    Event → EntryTable ρ → DocumentTable → Prop where
  | insert {doc : Nat} {loc : Locality} (source : loc.IsSource) :
    Tells subject t docs (.registered (subject (t.insert doc loc docs).2) doc (docs.get doc)) (t.insert doc loc docs).1 docs
  | register {id doc : Nat} {loc : Locality} {e : Entry} (found : t.entryAt? id = some e)
    (shown : ¬(loc = { pristine := true } ∧ e.locality.installed = true)) :
    Tells subject t docs (.registered (subject id) doc (docs.get doc)) (t.register id doc loc docs).1
      (t.register id doc loc docs).2
  | edit {id own : Nat} {t' : EntryTable ρ} {docs' : DocumentTable} (edited : t.editable? id docs = some (t', docs', own)) :
    Tells subject t docs (.edited own) t' docs'

variable {ρ : Type} [Row ρ] [Indexed ρ] [Pruning ρ] {N : Prop} {t t' : EntryTable ρ} {docs docs' : DocumentTable}
  {spare spare' held : List Nat} {id doc : Nat} {loc : Locality} {e : Entry}

omit [Pruning ρ] in
/-- A pristine version behind an installed one changes nothing that is shown. -/
theorem remains_register_shadowed (found : t.entryAt? id = some e)
    (shadowed : loc = { pristine := true } ∧ e.locality.installed = true) (docs : DocumentTable) :
    Remains t (t.register id doc loc docs).1 := by
  obtain ⟨rfl, installed⟩ := shadowed
  refine alters_register fun row place => remainsRow_withEntry ?_
  obtain rfl : Row.entry row = e := Option.some.inj ((congrArg (Option.map Row.entry) place).symm.trans found)
  have noted : (Row.entry row).registered doc { pristine := true } (docs.get doc) = { Row.entry row with
      shadowedFile := some (docs.get doc).filename, locality := (Row.entry row).locality.union { pristine := true } } := by
    rw [Entry.registered, if_neg Bool.false_ne_true, if_pos ⟨rfl, installed⟩]
  rw [noted]
  refine Entry.remains_of_source ?_ rfl rfl fun _ member => member
  rw [Locality.hasSource, installed, Bool.or_true]

/-- Every move is told, or all entries and documents remain. -/
theorem Move.tells (subject : Nat → Subject) (holding : docs.Holding held)
    (move : Move N (spare, t, docs) (spare', t', docs')) :
    (∃ event, Tells subject t docs event t' docs') ∨ (Remains t t' ∧ docs.KeepsIdentities docs') := by
  cases move with
  | store fresh => exact .inr ⟨.refl t, holding.keepsIdentities_insert fresh⟩
  | insert source => exact .inl ⟨_, .insert source⟩
  | @register _ _ _ id doc loc source =>
    cases found : t.entryAt? id with
    | none =>
      have same : t.register id doc loc docs = (t, docs) := by
        rw [EntryTable.register, found]
      rw [same]
      exact .inr ⟨.refl t, .refl docs⟩
    | some e =>
      by_cases shadowed : loc = { pristine := true } ∧ e.locality.installed = true
      · exact .inr ⟨remains_register_shadowed found shadowed docs, (prunes_register t id doc loc docs).keepsIdentities⟩
      · exact .inl ⟨_, .register found shadowed⟩
  | edit edited => exact .inl ⟨_, .edit edited⟩
  | drop => exact .inr ⟨remains_drop t _ _ docs, (prunes_drop t _ _ docs).keepsIdentities⟩
  | delete deleted => exact .inr ⟨remains_delete deleted, (prunes_deleteRow deleted).keepsIdentities⟩
  | restore => exact .inr ⟨remains_restore t _, .refl docs⟩
  | mark => exact .inr ⟨remains_mark t _ _, .refl docs⟩

end EntryTable

/-! ## Catalogs -/

namespace Database

variable {db db' : Database} {spare spare' : List Nat} {docs : DocumentTable} {kind : ItemKind} {owner : Nat}

/-- Entries remain or are gone, and the documents that they name keep their identities. -/
def Keeps (db db' : Database) : Prop :=
  ∀ s e', db'.entryOf? s = some e' → e'.Blank ∨ ∃ e, db.entryOf? s = some e ∧ e.Remains e' ∧
    ∀ doc ∈ e'.held, (db.docs.get doc).SameIdentity (db'.docs.get doc)

theorem entryOf?_item (db : Database) (kind : ItemKind) (owner id : Nat) : db.entryOf? (.item kind owner id) =
    (db.bundles.row? owner).bind (EntryTable.entryIn? · (some (kind, id))) := rfl

theorem keeps_of_remains (owns : db.Owns spare) (owns' : db'.Owns spare') (themes : EntryTable.Remains db.themes db'.themes)
    (bundles : EntryTable.Remains db.bundles db'.bundles) (docs : db.docs.KeepsIdentities db'.docs) : db.Keeps db' := by
  intro s e' found'
  have remains : e'.Blank ∨ ∃ e, db.entryOf? s = some e ∧ e.Remains e' := by
    cases s with
    | theme id =>
      rw [entryOf?, ← EntryTable.bind_entryIn?_none] at found' ⊢
      exact themes.found found'
    | bundle id =>
      rw [entryOf?, ← EntryTable.bind_entryIn?_none] at found' ⊢
      exact bundles.found found'
    | item kind owner id =>
      rw [entryOf?_item] at found' ⊢
      exact bundles.found found'
  rcases remains with blank | ⟨e, found, kept⟩
  · exact .inl blank
  refine .inr ⟨e, found, kept, fun doc member => ?_⟩
  exact docs doc (owns.isLive found (kept.held doc member)) (owns'.isLive found' member)

/-- What is told of something that is done to the tables of a catalog. -/
inductive Told : Database → List Event → Database → Prop where
  | quiet {db db' : Database} (keeps : db.Keeps db') : Told db [] db'
  | themes {db : Database} {event : Event} {themes : EntryTable Entry} {docs : DocumentTable}
    (tells : EntryTable.Tells .theme db.themes db.docs event themes docs) : Told db [event] { db with themes, docs }
  | bundles {db : Database} {event : Event} {bundles : EntryTable Bundle} {docs : DocumentTable}
    (tells : EntryTable.Tells .bundle db.bundles db.docs event bundles docs) : Told db [event] { db with bundles, docs }
  | items {db : Database} {owner : Nat} {b : Bundle} {kind : ItemKind} {event : Event} {table : EntryTable Entry}
    {docs : DocumentTable} (found : db.bundles.row? owner = some b)
    (tells : EntryTable.Tells (.item kind owner) (b.items.get kind) db.docs event table docs) :
    Told db [event] { db with bundles := db.bundles.setRow owner { b with items := b.items.set kind table }, docs }
  | written {db : Database} {doc : Nat} {content : Document} :
    Told db [.edited doc] { db with docs := db.docs.set doc content }

/-- What the tables of a catalog and the spare documents have been through, with all that is told of it, the last event
first. -/
inductive Chronicle : List Event → List Nat × Database → Prop where
  | start : Chronicle [] ([], {})
  | next {log events : List Event} {s s' : List Nat × Database} (before : Chronicle log s)
    (move : Move (fun _ => True) True s s') (told : Told s.2 events s'.2) : Chronicle (events ++ log) s'

theorem Chronicle.owns {log : List Event} {s : List Nat × Database} (h : Chronicle log s) : s.2.Owns s.1 := by
  induction h with
  | start => exact owns_empty
  | next _ move _ ih => exact ih.move move

/-- Something that is not told is done. -/
theorem Chronicle.quiet {log : List Event} {s s' : List Nat × Database} (h : Chronicle log s)
    (move : Move (fun _ => True) True s s') (themes : EntryTable.Remains s.2.themes s'.2.themes)
    (bundles : EntryTable.Remains s.2.bundles s'.2.bundles) (docs : s.2.docs.KeepsIdentities s'.2.docs) :
    Chronicle log s' :=
  .next h move (.quiet (keeps_of_remains h.owns (h.owns.move move) themes bundles docs))

/-- Moves of one table are told one after the other. -/
theorem Chronicle.table {ρ : Type} [Row ρ] [Indexed ρ] [Pruning ρ] (subject : Nat → Subject)
    (put : EntryTable ρ → DocumentTable → Database) (read : ∀ t docs, (put t docs).docs = docs)
    (move : ∀ {spare t docs spare' t' docs'}, EntryTable.Move True (spare, t, docs) (spare', t', docs') →
      Move (fun _ => True) True (spare, put t docs) (spare', put t' docs'))
    (told : ∀ {t docs event t' docs'}, EntryTable.Tells subject t docs event t' docs' →
      Told (put t docs) [event] (put t' docs'))
    (remains : ∀ {t t'} docs docs', EntryTable.Remains t t' →
      EntryTable.Remains (put t docs).themes (put t' docs').themes ∧
        EntryTable.Remains (put t docs).bundles (put t' docs').bundles)
    {log : List Event} {s s' : List Nat × EntryTable ρ × DocumentTable} (h : Chronicle log (s.1, put s.2.1 s.2.2))
    (moves : EntryTable.Moves True s s') : ∃ log', Chronicle log' (s'.1, put s'.2.1 s'.2.2) := by
  induction moves with
  | refl => exact ⟨log, h⟩
  | @tail s₁ s₂ _ step ih =>
    obtain ⟨log₁, before⟩ := ih
    obtain ⟨left, holding⟩ := before.owns.holding
    rw [read] at holding
    rcases step.tells subject holding with ⟨event, tells⟩ | ⟨kept, docs⟩
    · exact ⟨_, before.next (move step) (told tells)⟩
    · obtain ⟨themes, bundles⟩ := remains s₁.2.2 s₂.2.2 kept
      refine ⟨log₁, before.quiet (move step) themes bundles ?_⟩
      rwa [read, read]

/-! ## Moves -/

/-- Items of a kind are put into a bundle, with other documents. -/
def putItems (db : Database) (owner : Nat) (b : Bundle) (kind : ItemKind) (table : EntryTable Entry) (docs : DocumentTable) :
    Database :=
  { db with bundles := db.bundles.setRow owner { b with items := b.items.set kind table }, docs }

theorem putItems_self {b : Bundle} (found : db.bundles.row? owner = some b) (kind : ItemKind) :
    db.putItems owner b kind (b.items.get kind) db.docs = db := by
  have put : db.bundles.setRow owner b = db.bundles := by
    obtain ⟨bound, there⟩ := List.getElem?_eq_some_iff.1 found
    rw [EntryTable.setRow, ← there, List.set_getElem_self]
  rw [putItems, PerKind.set_get, put]

theorem row?_putItems {b : Bundle} (found : db.bundles.row? owner = some b) (table : EntryTable Entry) (docs : DocumentTable) :
    (db.putItems owner b kind table docs).bundles.row? owner = some { b with items := b.items.set kind table } :=
  EntryTable.row?_setRow_self (EntryTable.lt_of_row? found) _

/-- Items are put in the place of others. -/
theorem putItems_putItems (db : Database) (owner : Nat) (b : Bundle) (kind : ItemKind) (table table' : EntryTable Entry)
    (docs docs' : DocumentTable) :
    (db.putItems owner b kind table docs).putItems owner { b with items := b.items.set kind table } kind table' docs' =
      db.putItems owner b kind table' docs' := by
  rw [putItems, putItems, putItems, PerKind.set_set, EntryTable.setRow, EntryTable.setRow, EntryTable.setRow, List.set_set]

section
variable {b : Bundle} {t t' : EntryTable Entry} {docs docs' : DocumentTable} (found : db.bundles.row? owner = some b)
include found

theorem move_putItems (move : EntryTable.Move True (spare, t, docs) (spare', t', docs')) :
    Move (fun _ => True) True (spare, db.putItems owner b kind t docs) (spare', db.putItems owner b kind t' docs') := by
  rw [← putItems_putItems db owner b kind t t' docs docs']
  exact .items (row?_putItems found t docs) (.moves (.single (by rwa [PerKind.get_set_self])))

theorem told_putItems {event : Event} (tells : EntryTable.Tells (.item kind owner) t docs event t' docs') :
    Told (db.putItems owner b kind t docs) [event] (db.putItems owner b kind t' docs') := by
  rw [← putItems_putItems db owner b kind t t' docs docs']
  exact .items (row?_putItems found t docs) (by rwa [PerKind.get_set_self])

theorem remains_putItems (docs docs' : DocumentTable) (remains : EntryTable.Remains t t') :
    EntryTable.Remains (db.putItems owner b kind t docs).bundles (db.putItems owner b kind t' docs').bundles := by
  rw [← putItems_putItems db owner b kind t t' docs docs']
  exact Bundle.remains_items (row?_putItems found t docs) (by rwa [PerKind.get_set_self])

end

/-- A spare document is none that an entry names. -/
theorem Owns.not_mem_spare {s : Subject} {e : Entry} {doc : Nat} (h : db.Owns spare) (found : db.entryOf? s = some e)
    (member : doc ∈ e.held) : doc ∉ spare := by
  intro kept
  obtain ⟨left, holding⟩ := h.holding
  obtain ⟨rest, split, -⟩ := entries_putEntry found
  have named : doc ∈ db.entries.flatMap Entry.held := List.mem_flatMap.2 ⟨e, split.mem_iff.2 List.mem_cons_self, member⟩
  exact (List.nodup_append.1 (List.nodup_append.1 holding.nodup).2.1).2.2 doc kept doc named rfl

/-- Only documents are changed that no entry names. -/
theorem keeps_docs (kept : ∀ s e, db.entryOf? s = some e → ∀ doc ∈ e.held, (db.docs.get doc).SameIdentity (docs.get doc)) :
    db.Keeps { db with docs } := by
  intro s e found
  rw [entryOf?_docs] at found
  exact .inr ⟨e, found, .refl e, kept s e found⟩

theorem remainsRow_placed (b : Bundle) (dirName : String) : EntryTable.RemainsRow b { b with dirName } := by
  intro place e found
  cases place <;> exact .inr ⟨e, found, .refl e⟩

theorem remains_modify {t : EntryTable Bundle} {id : Nat} {change : Bundle → Bundle}
    (remains : ∀ b, t.row? id = some b → EntryTable.RemainsRow b (change b)) :
    EntryTable.Remains t ⟨t.rows.modify id change⟩ := by
  cases found : t.row? id with
  | none =>
    have absent : t.rows[id]? = none := found
    rw [List.modify_eq_set_getElem?, absent]
    exact .refl t
  | some b =>
    rw [EntryTable.modify_eq found]
    exact EntryTable.alters_setRow found (remains b found)

section
variable {b released : Bundle} {docs docs' : DocumentTable} {loc : Locality}
  (release : Row.release loc b docs = (released, docs'))
include release

theorem remainsRow_released : EntryTable.RemainsRow b released := by
  have remains := EntryTable.remainsRow_release loc b docs
  rwa [release] at remains

theorem entry_released : Row.entry released = b.entry := by
  have entry := Row.entry_release loc b docs
  rwa [release] at entry

theorem prunes_released : docs.Prunes docs' := by
  have prunes := Pruning.prunes_release loc b docs
  rwa [release] at prunes

end

/-- Whatever move is made next, it can be told. -/
theorem Chronicle.move {log : List Event} {s s' : List Nat × Database} (h : Chronicle log s)
    (move : Move (fun _ => True) True s s') : ∃ log', Chronicle log' s' := by
  have owns := h.owns
  obtain ⟨left, holding⟩ := owns.holding
  have whole := move
  cases move with
  | @themes _ _ db _ _ change =>
    exact h.table .theme (fun themes docs => { db with themes, docs }) (fun _ _ => rfl)
      (fun move => .themes (.moves (.single move))) (fun tells => .themes tells) (fun _ _ kept => ⟨kept, .refl _⟩)
      change.anyMoves
  | @bundles _ _ db _ _ moves =>
    exact h.table .bundle (fun bundles docs => { db with bundles, docs }) (fun _ _ => rfl)
      (fun move => .bundles (.single move)) (fun tells => .bundles tells) (fun _ _ kept => ⟨.refl _, kept⟩) moves
  | @items spare _ db owner b kind _ _ found change =>
    have before : Chronicle log (spare, db.putItems owner b kind (b.items.get kind) db.docs) := by
      rwa [putItems_self found]
    exact before.table (.item kind owner) (db.putItems owner b kind) (fun _ _ => rfl) (move_putItems found)
      (told_putItems found) (fun docs docs' kept => ⟨.refl _, remains_putItems found docs docs' kept⟩) change.anyMoves
  | @copy spare db id e doc found named =>
    have live := owns.isLive (s := .bundle id) found (List.mem_append_left _ (Option.mem_toList.2 named))
    have stored : (db.docs.get doc).copy.isVacant = false := holding.stored doc (holding.mem_iff.2 live)
    exact ⟨log, h.quiet whole (.refl _) (.refl _) (holding.keepsIdentities_insert stored)⟩
  | write => exact ⟨_, .next h whole .written⟩
  | stamp => exact ⟨log, h.quiet whole (.refl _) (.refl _) (DocumentTable.keepsIdentities_modify _ _ fun _ => ⟨rfl, rfl⟩)⟩
  | name => exact ⟨log, h.quiet whole (.refl _) (.refl _) (DocumentTable.keepsIdentities_modify _ _ fun _ => ⟨rfl, rfl⟩)⟩
  | nameManifest =>
    exact ⟨log, h.quiet whole (.refl _) (.refl _) (DocumentTable.keepsIdentities_modify _ _ fun _ => ⟨rfl, rfl⟩)⟩
  | @fill spare db doc change member =>
    refine ⟨log, .next h whole (.quiet (keeps_docs fun s e found other named => ?_))⟩
    have apart : other ≠ doc := fun same => owns.not_mem_spare found named (same ▸ member)
    rw [DocumentTable.modify, DocumentTable.get_set_of_ne _ apart]
    exact .refl _
  | place => exact ⟨log, h.quiet whole (.refl _) (remains_modify fun b _ => remainsRow_placed b _) (.refl _)⟩
  | @hide _ db id b released docs found pristine release =>
    refine ⟨log, h.quiet whole (.refl _) (EntryTable.alters_setRow found ?_) ?_⟩
    · refine (remainsRow_released release).trans (EntryTable.remainsRow_withEntry ?_)
      rw [entry_released release]
      refine Entry.remains_of_source (Locality.hasSource_of_pristine pristine) rfl rfl fun doc member => ?_
      exact List.mem_append_left _ (by simpa [Entry.held] using member)
    · exact ((prunes_released release).trans (prunes_dropDoc docs _)).keepsIdentities
  | @uninstall _ db id b released docs found pristine release =>
    refine ⟨log, h.quiet whole (.refl _) (EntryTable.alters_setRow found ?_) ?_⟩
    · refine (remainsRow_released release).trans (EntryTable.remainsRow_withEntry ?_)
      rw [entry_released release]
      exact b.entry.remains_uninstalled
    · have pruned := prunes_released release
      dsimp only
      split
      · exact (pruned.trans (prunes_dropDoc docs _)).keepsIdentities
      · exact pruned.keepsIdentities
  | @reveal _ db id b found pristine =>
    refine ⟨log, h.quiet whole (.refl _) (remains_modify fun b' place => EntryTable.remainsRow_withEntry ?_) (.refl _)⟩
    obtain rfl := Option.some.inj (found.symm.trans place)
    exact Entry.remains_of_source (Locality.hasSource_of_pristine pristine) rfl rfl fun _ member => member
  | associate => exact ⟨log, h.quiet whole (.refl _) (.refl _) (.refl _)⟩

/-- Whatever a catalog goes through can be told. -/
theorem Chronicle.moves {log : List Event} {s s' : List Nat × Database} (h : Chronicle log s)
    (moves : Moves (fun _ => True) True s s') : ∃ log', Chronicle log' s' := by
  induction moves with
  | refl => exact ⟨log, h⟩
  | tail _ move ih =>
    obtain ⟨log₁, before⟩ := ih
    exact before.move move

end Database

/-- Every catalog that is reached has a chronicle. -/
theorem exists_chronicle {allowed : Catalog → Operation → Prop} {c : Catalog} (reached : Reachable allowed c) :
    ∃ log, Database.Chronicle log ([], c.db) := by
  refine reached.induct (P := fun db => ∃ log, Database.Chronicle log ([], db)) ⟨[], .start⟩ ?_ ?_
  · rintro c ⟨log, told⟩
    exact told.moves (moves_resume [] c (.inl trivial))
  · rintro c c' op ⟨log, told⟩ - runs
    exact told.moves (Operation.moves [] (fun _ _ _ => trivial) (.inl trivial) runs)

end EditorBundles.Catalog
