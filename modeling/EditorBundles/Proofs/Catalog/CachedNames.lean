import EditorBundles.Proofs.Catalog.CatalogViewKeeping
import EditorBundles.Proofs.Catalog.Chronicles
import EditorBundles.Proofs.Catalog.Passes
import Mathlib.Data.List.Permutation

/-!
# Names that entries show

An entry shows the name and the identity of the document that was recorded last as one of its versions, as they were then.
Nothing else brings them up to date: not editing or saving a version, nor deleting the one that is in effect. So they are
those of the version in effect whenever that is the one that was recorded last and it was not edited since.
-/

namespace EditorBundles.Catalog
set_option autoImplicit false
open PropertyList

/-! ## Entries and logs -/

/-- The entry has the name and the identity of a document, as far as the document has them. -/
structure Entry.Shows (e : Entry) (d : Document) : Prop where
  name : ∀ name, d.rootString? "name" = some name → e.name = name
  uuid : ∀ uuid, d.rootString? "uuid" = some uuid → e.uuid = uuid

/-- What an entry becomes when a document is given out for editing: it names no other one that it did not name. -/
structure Entry.Lends (doc : Nat) (e e' : Entry) : Prop where
  name : e'.name = e.name
  uuid : e'.uuid = e.uuid
  held : ∀ other ∈ e'.held, other ≠ doc → other ∈ e.held
  blank : e.Blank → e'.Blank

namespace Entry

variable {e e' : Entry} {d d' : Document} {loc : Locality} {doc : Nat}

theorem Shows.congr (h : e.Shows d) (name : e'.name = e.name) (uuid : e'.uuid = e.uuid) : e'.Shows d where
  name n has := name.trans (h.name n has)
  uuid u has := uuid.trans (h.uuid u has)

theorem Shows.sameIdentity (h : e.Shows d) (same : d.SameIdentity d') : e.Shows d' where
  name n has := h.name n (same.name ▸ has)
  uuid u has := h.uuid u (same.uuid ▸ has)

theorem shows_identify (e : Entry) (d : Document) : (e.identify d).Shows d where
  name n has := by rw [identify, has]; rfl
  uuid u has := by rw [identify, has]; rfl

theorem shows_registered (shown : ¬(loc = { pristine := true } ∧ e.locality.installed = true)) (doc : Nat) (d : Document) :
    (e.registered doc loc d).Shows d := by
  unfold registered
  split
  · exact shows_identify _ d
  · exact shows_identify _ d

theorem mem_held_of_resolve (effective : e.resolve = some doc) : doc ∈ e.held := by
  unfold resolve at effective
  split at effective
  · cases effective
  · split at effective
    · exact List.mem_append_right _ (Option.mem_toList.2 effective)
    · split at effective
      · exact List.mem_append_left _ (Option.mem_toList.2 effective)
      · cases effective

theorem Lends.refl (doc : Nat) (e : Entry) : e.Lends doc e := ⟨rfl, rfl, fun _ member _ => member, id⟩

end Entry

/-- The document that was recorded last as a version of a subject, with what is told since. -/
structure Latest (log : List Event) (s : Subject) (doc : Nat) (d : Document) (since : List Event) : Prop where
  split : ∃ before, log = since ++ .registered s doc d :: before
  last : ∀ doc' d', .registered s doc' d' ∉ since

theorem latest_self (log : List Event) (s : Subject) (doc : Nat) (d : Document) :
    Latest (.registered s doc d :: log) s doc d [] := ⟨⟨log, rfl⟩, fun _ _ member => nomatch member⟩

theorem Latest.cons {log since : List Event} {s : Subject} {doc : Nat} {d : Document} (h : Latest log s doc d since)
    {event : Event} (other : ∀ doc' d', event ≠ .registered s doc' d') : Latest (event :: log) s doc d (event :: since) := by
  obtain ⟨⟨before, split⟩, last⟩ := h
  refine ⟨⟨before, congrArg _ split⟩, fun doc' d' member => ?_⟩
  rcases List.mem_cons.1 member with same | member
  · exact other doc' d' same.symm
  · exact last doc' d' member

/-! ## Tables -/

namespace EntryTable

variable {ρ : Type} [Row ρ] [Indexed ρ] {t t' : EntryTable ρ} {docs docs' : DocumentTable} {subject : Nat → Subject}
  {s : Subject} {doc own : Nat} {d : Document} {held : List Nat}

/-- A document is recorded in one row, which shows it from then on. -/
theorem Tells.registered (tells : Tells subject t docs (.registered s doc d) t' docs') : ∃ id, s = subject id ∧
    d = docs.get doc ∧ docs.Prunes docs' ∧ (∀ e', t'.entryAt? id = some e' → e'.Shows d) ∧
    ∀ other place e', (other, place) ≠ (id, none) → (t'.row? other).bind (entryIn? · place) = some e' →
      (t.row? other).bind (entryIn? · place) = some e' := by
  cases tells with
  | @insert _ loc source =>
    refine ⟨_, rfl, rfl, .refl docs, fun e' found => ?_, fun other place e' ne found => ?_⟩
    · rw [entryAt?_insert, if_pos rfl] at found
      obtain rfl := Option.some.inj found
      exact Entry.shows_identify _ _
    · rw [row?_insert] at found
      split at found
      · next same =>
        cases place with
        | none => exact absurd (congrArg (·, none) same) ne
        | some place =>
          rw [Option.bind_some, entryIn?, Indexed.inner?_ofEntry] at found
          cases found
      · exact found
  | @register id _ loc e found shown =>
    obtain ⟨row, there, rfl⟩ := row?_of_entryAt? found
    refine ⟨id, rfl, rfl, prunes_register t id doc loc docs, fun e' found' => ?_, fun other place e' ne found' => ?_⟩
    · rw [fst_register there, entryAt?, row?_setRow_self (lt_of_row? there), Option.map_some, Row.entry_withEntry] at found'
      obtain rfl := Option.some.inj found'
      exact Entry.shows_registered shown doc _
    · rw [fst_register there] at found'
      by_cases same : other = id
      · subst same
        rw [row?_setRow_self (lt_of_row? there)] at found'
        cases place with
        | none => exact absurd rfl ne
        | some place =>
          rw [Option.bind_some, entryIn?, Indexed.inner?_withEntry] at found'
          rw [there]
          exact found'
      · rwa [row?_setRow_of_ne t same] at found'

/-- A document is given out for editing, a copy perhaps, and the others are as they were. -/
theorem Tells.edited (tells : Tells subject t docs (.edited own) t' docs') (holding : docs.Holding held)
    (live : ∀ id e, t.entryAt? id = some e → ∀ doc ∈ e.held, docs.isLive doc = true) :
    (∀ other, docs.isLive other = true → docs'.get other = docs.get other) ∧
    ∀ id place e', (t'.row? id).bind (entryIn? · place) = some e' →
      ∃ e, (t.row? id).bind (entryIn? · place) = some e ∧ e.Lends own e' := by
  cases tells with
  | @edit id _ _ _ edited =>
    obtain ⟨e, found, ⟨-, -, rfl, rfl⟩ | ⟨source, named, copied, rfl⟩⟩ := editable?_cases edited
    · exact ⟨fun _ _ => rfl, fun id place e' found => ⟨e', found, .refl own e'⟩⟩
    · have there := live id e found source (List.mem_append_left _ (Option.mem_toList.2 named))
      have stored : (docs.get source).copy.isVacant = false := holding.stored source (holding.mem_iff.2 there)
      refine ⟨fun other there => ?_, fun other place e' found' => ?_⟩
      · obtain rfl := (congrArg Prod.fst copied).symm
        exact get_insert_of_held holding stored other (holding.mem_iff.2 there)
      · obtain ⟨row, at_id, rfl⟩ := row?_of_entryAt? found
        rw [modifyEntry_eq at_id] at found'
        by_cases same : other = id
        · subst same
          rw [row?_setRow_self (lt_of_row? at_id)] at found'
          rw [at_id]
          cases place with
          | none =>
            rw [Option.bind_some, entryIn?, Row.entry_withEntry] at found'
            obtain rfl := Option.some.inj found'
            refine ⟨_, rfl, rfl, rfl, fun doc member ne => ?_, fun blank => ?_⟩
            · simp only [Entry.held, List.mem_append, Option.mem_toList] at member ⊢
              exact .inl (member.resolve_right fun same => ne (Option.some.inj same).symm)
            · have none_ := blank.1
              rw [Entry.held, named] at none_
              cases none_
          | some place =>
            rw [Option.bind_some, entryIn?, Indexed.inner?_withEntry] at found'
            exact ⟨e', found', .refl own e'⟩
        · rw [row?_setRow_of_ne t same] at found'
          exact ⟨e', found', .refl own e'⟩

end EntryTable

/-! ## Catalogs -/

namespace Database

variable {db db' : Database} {spare : List Nat} {event : Event} {docs : DocumentTable} {owner : Nat} {b : Bundle}
  {kind : ItemKind} {table : EntryTable Entry}

theorem entryOf?_theme (db : Database) (id : Nat) :
    db.entryOf? (.theme id) = (db.themes.row? id).bind (EntryTable.entryIn? · none) :=
  (EntryTable.bind_entryIn?_none db.themes id).symm

theorem entryOf?_bundle (db : Database) (id : Nat) :
    db.entryOf? (.bundle id) = (db.bundles.row? id).bind (EntryTable.entryIn? · none) :=
  (EntryTable.bind_entryIn?_none db.bundles id).symm

theorem entryOf?_putItems_self (found : db.bundles.row? owner = some b) (id : Nat) :
    (db.putItems owner b kind table docs).entryOf? (.item kind owner id) = table.entryAt? id := by
  rw [entryOf?, row?_putItems found, Option.bind_some, PerKind.get_set_self]

theorem entryOf?_putItems_of_ne (found : db.bundles.row? owner = some b) {s : Subject} (ne : ∀ id, s ≠ .item kind owner id) :
    (db.putItems owner b kind table docs).entryOf? s = db.entryOf? s := by
  cases s with
  | theme id => rfl
  | bundle id =>
    have unchanged : Row.entry { b with items := b.items.set kind table } = Row.entry b := rfl
    exact EntryTable.entryAt?_setRow found unchanged id
  | item kind' owner' id =>
    by_cases same : owner' = owner
    · subst same
      have other : kind' ≠ kind := fun same => ne id (same ▸ rfl)
      rw [entryOf?, entryOf?, row?_putItems found, found, Option.bind_some, Option.bind_some, PerKind.get_set_of_ne _ other]
    · rw [entryOf?, entryOf?, putItems, EntryTable.row?_setRow_of_ne _ same]

/-- What an event does. Recording a document changes one entry, and giving one out for editing changes none but for the
document. -/
def Effect (db db' : Database) : Event → Prop
  | .registered s doc d => d = db.docs.get doc ∧ db.docs.Prunes db'.docs ∧ (∀ e', db'.entryOf? s = some e' → e'.Shows d) ∧
    ∀ s' e', s' ≠ s → db'.entryOf? s' = some e' → db.entryOf? s' = some e'
  | .edited doc => (∀ other, other ≠ doc → db.docs.isLive other = true → db'.docs.get other = db.docs.get other) ∧
    ∀ s e', db'.entryOf? s = some e' → ∃ e, db.entryOf? s = some e ∧ e.Lends doc e'

section
variable (owns : db.Owns spare)
include owns

theorem effect_themes {themes : EntryTable Entry} (tells : EntryTable.Tells .theme db.themes db.docs event themes docs) :
    Effect db { db with themes, docs } event := by
  cases event with
  | registered s doc d =>
    obtain ⟨id, rfl, same, prunes, shows, others⟩ := tells.registered
    refine ⟨same, prunes, shows, fun s' e' ne found => ?_⟩
    cases s' with
    | theme other =>
      rw [entryOf?_theme] at found ⊢
      exact others other none e' (fun same => ne (congrArg (fun x => Subject.theme x.1) same)) found
    | bundle other => exact found
    | item kind owner other => exact found
  | edited doc =>
    obtain ⟨left, holding⟩ := owns.holding
    obtain ⟨kept, entries⟩ := tells.edited holding fun id e found _ => owns.isLive (s := .theme id) found
    refine ⟨fun other _ live => kept other live, fun s e' found => ?_⟩
    cases s with
    | theme other =>
      rw [entryOf?_theme] at found ⊢
      exact entries other none e' found
    | bundle other => exact ⟨e', found, .refl doc e'⟩
    | item kind owner other => exact ⟨e', found, .refl doc e'⟩

theorem effect_bundles {bundles : EntryTable Bundle} (tells : EntryTable.Tells .bundle db.bundles db.docs event bundles docs) :
    Effect db { db with bundles, docs } event := by
  cases event with
  | registered s doc d =>
    obtain ⟨id, rfl, same, prunes, shows, others⟩ := tells.registered
    refine ⟨same, prunes, shows, fun s' e' ne found => ?_⟩
    cases s' with
    | theme other => exact found
    | bundle other =>
      rw [entryOf?_bundle] at found ⊢
      exact others other none e' (fun same => ne (congrArg (fun x => Subject.bundle x.1) same)) found
    | item kind owner other =>
      rw [entryOf?_item] at found ⊢
      exact others owner _ e' (fun same => nomatch congrArg Prod.snd same) found
  | edited doc =>
    obtain ⟨left, holding⟩ := owns.holding
    obtain ⟨kept, entries⟩ := tells.edited holding fun id e found _ => owns.isLive (s := .bundle id) found
    refine ⟨fun other _ live => kept other live, fun s e' found => ?_⟩
    cases s with
    | theme other => exact ⟨e', found, .refl doc e'⟩
    | bundle other =>
      rw [entryOf?_bundle] at found ⊢
      exact entries other none e' found
    | item kind owner other =>
      rw [entryOf?_item] at found ⊢
      exact entries owner _ e' found

theorem effect_items (found : db.bundles.row? owner = some b)
    (tells : EntryTable.Tells (.item kind owner) (b.items.get kind) db.docs event table docs) :
    Effect db (db.putItems owner b kind table docs) event := by
  have before (id : Nat) : db.entryOf? (.item kind owner id) = (b.items.get kind).entryAt? id := by
    rw [entryOf?, found, Option.bind_some]
  cases event with
  | registered s doc d =>
    obtain ⟨id, rfl, same, prunes, shows, others⟩ := tells.registered
    refine ⟨same, prunes, fun e' found' => shows e' ?_, fun s' e' ne found' => ?_⟩
    · rwa [entryOf?_putItems_self found] at found'
    · by_cases inside : ∃ other, s' = .item kind owner other
      · obtain ⟨other, rfl⟩ := inside
        rw [entryOf?_putItems_self found, ← EntryTable.bind_entryIn?_none] at found'
        rw [before, ← EntryTable.bind_entryIn?_none]
        exact others other none e' (fun same => ne (congrArg (fun x => Subject.item kind owner x.1) same)) found'
      · rwa [entryOf?_putItems_of_ne found fun other same => inside ⟨other, same⟩] at found'
  | edited doc =>
    obtain ⟨left, holding⟩ := owns.holding
    obtain ⟨kept, entries⟩ := tells.edited holding fun id e there _ =>
      owns.isLive (s := .item kind owner id) ((before id).trans there)
    refine ⟨fun other _ live => kept other live, fun s' e' found' => ?_⟩
    by_cases inside : ∃ other, s' = .item kind owner other
    · obtain ⟨other, rfl⟩ := inside
      rw [entryOf?_putItems_self found, ← EntryTable.bind_entryIn?_none] at found'
      rw [before, ← EntryTable.bind_entryIn?_none]
      exact entries other none e' found'
    · rw [entryOf?_putItems_of_ne found fun other same => inside ⟨other, same⟩] at found'
      exact ⟨e', found', .refl doc e'⟩

/-- What is told is one event with its effect, or all remains. -/
theorem Told.effect {events : List Event} (told : Told db events db') :
    (events = [] ∧ db.Keeps db') ∨ ∃ event, events = [event] ∧ Effect db db' event := by
  cases told with
  | quiet keeps => exact .inl ⟨rfl, keeps⟩
  | themes tells => exact .inr ⟨_, rfl, effect_themes owns tells⟩
  | bundles tells => exact .inr ⟨_, rfl, effect_bundles owns tells⟩
  | items found tells => exact .inr ⟨_, rfl, effect_items owns found tells⟩
  | @written doc content =>
    refine .inr ⟨_, rfl, fun other ne _ => db.docs.get_set_of_ne ne content, fun s e' found => ?_⟩
    rw [entryOf?_docs] at found
    exact ⟨e', found, .refl doc e'⟩

end

/-! ## Chronicles -/

/-- Each entry that has anything shows what was recorded last, which the document still is that it names there unless
that was edited since. -/
def Follows (log : List Event) (db : Database) : Prop :=
  ∀ s e, db.entryOf? s = some e → e.Blank ∨ ∃ doc d since, Latest log s doc d since ∧ e.Shows d ∧
    (doc ∈ e.held → .edited doc ∉ since → d.SameIdentity (db.docs.get doc))

variable {log events : List Event} {spare' : List Nat}

theorem Follows.quiet (h : Follows log db) (keeps : db.Keeps db') : Follows log db' := by
  intro s e' found
  rcases keeps s e' found with blank | ⟨e, before, remains, same⟩
  · exact .inl blank
  rcases h s e before with blank | ⟨doc, d, since, latest, shows, current⟩
  · exact .inl (remains.blank blank)
  refine .inr ⟨doc, d, since, latest, shows.congr remains.name remains.uuid, fun member unedited => ?_⟩
  exact (current (remains.held doc member) unedited).trans (same doc member)

theorem Follows.registered (h : Follows log db) (owns' : db'.Owns spare') {s : Subject} {doc : Nat} {d : Document}
    (effect : Effect db db' (.registered s doc d)) : Follows (.registered s doc d :: log) db' := by
  obtain ⟨content, prunes, shows, others⟩ := effect
  intro s' e' found
  by_cases here : s' = s
  · subst here
    refine .inr ⟨doc, d, [], latest_self log s' doc d, shows e' found, fun member _ => ?_⟩
    rw [content, prunes.kept doc (owns'.isLive found member)]
    exact .refl _
  rcases h s' e' (others s' e' here found) with blank | ⟨doc', d', since, latest, shown, current⟩
  · exact .inl blank
  refine .inr ⟨doc', d', _, latest.cons fun _ _ same => here (Event.registered.inj same).1.symm, shown,
    fun member unedited => ?_⟩
  rw [prunes.kept doc' (owns'.isLive found member)]
  exact current member fun edited => unedited (List.mem_cons_of_mem _ edited)

theorem Follows.edited (h : Follows log db) (owns : db.Owns spare) {doc : Nat} (effect : Effect db db' (.edited doc)) :
    Follows (.edited doc :: log) db' := by
  obtain ⟨kept, entries⟩ := effect
  intro s e' found
  obtain ⟨e, before, lends⟩ := entries s e' found
  rcases h s e before with blank | ⟨doc', d, since, latest, shows, current⟩
  · exact .inl (lends.blank blank)
  refine .inr ⟨doc', d, _, latest.cons (fun _ _ same => nomatch same), shows.congr lends.name lends.uuid,
    fun member unedited => ?_⟩
  have other : doc' ≠ doc := fun same => unedited (same ▸ List.mem_cons_self)
  have named := lends.held doc' member other
  rw [kept doc' other (owns.isLive before named)]
  exact current named fun edited => unedited (List.mem_cons_of_mem _ edited)

/-- What a chronicle tells is what the entries show. -/
theorem Chronicle.follows {s : List Nat × Database} (h : Chronicle log s) : Follows log s.2 := by
  induction h with
  | start =>
    intro s e found
    cases s <;> cases found
  | @next _ _ _ _ before move told ih =>
    rcases told.effect before.owns with ⟨rfl, keeps⟩ | ⟨event, rfl, effect⟩
    · exact ih.quiet keeps
    · cases event with
      | registered s doc d => exact ih.registered (before.owns.move move) effect
      | edited doc => exact ih.edited before.owns effect

end Database

/-! ## Lists and lookups -/

namespace EntryTable

variable {ρ : Type} [Row ρ] {t : EntryTable ρ} {id : Nat} {e : Entry}

theorem mem_visible_iff (found : t.entryAt? id = some e) : id ∈ t.visible ↔ e.isVisible = true := by
  obtain ⟨row, there, -⟩ := row?_of_entryAt? found
  rw [visible, List.mem_filter, found, Option.any_some, and_iff_right (List.mem_range.2 (lt_of_row? there))]

/-- A lookup by the identity of an entry that is shown finds a row. -/
theorem exists_findUuid? (found : t.entryAt? id = some e) (visible : e.isVisible = true) :
    ∃ other, t.findUuid? e.uuid = some other := by
  obtain ⟨row, there, rfl⟩ := row?_of_entryAt? found
  refine Option.ne_none_iff_exists'.1 fun none_ => ?_
  have apart := List.findIdx?_eq_none_iff.1 none_ row (mem_of_row? there)
  simp only [Entry.isVisible, Locality.isHidden, Bool.and_eq_true, Bool.not_eq_true', Bool.or_eq_false_iff] at visible
  simp [Entry.isTombstone, visible.2.2] at apart

end EntryTable

/-- A subject is listed, with a name if it is a theme or a bundle. -/
def Lists (c : Catalog) (name : String) : Subject → Prop
  | .theme id => (id, name) ∈ c.themes
  | .bundle id => id ∈ c.bundles ∧ (c.db.bundles.entryAt? id).map (·.name) = some name
  | .item kind owner id => ∃ ids, c.listItems? kind owner = some ids ∧ id ∈ ids

/-- A lookup by identity finds a row like the one of a subject. -/
def Finds (c : Catalog) (uuid : String) : Subject → Prop
  | .theme _ => ∃ id, c.db.themes.findUuid? uuid = some id
  | .bundle _ => ∃ id, c.db.bundles.findUuid? uuid = some id
  | .item _ _ _ => ∃ place, c.findItem? uuid = some place

/-- Themes and bundles are listed by their names, whatever the case. -/
structure ByName (c : Catalog) : Prop where
  themes : c.themes.Pairwise fun a b => Text.lower a.2 ≤ Text.lower b.2
  bundles : c.bundles.Pairwise fun id id' => ∀ e e', c.db.bundles.entryAt? id = some e →
    c.db.bundles.entryAt? id' = some e' → Text.lower e.name ≤ Text.lower e'.name

variable {c : Catalog} {s : Subject} {e : Entry}

theorem lists_of_entryOf? (found : c.db.entryOf? s = some e) (visible : e.isVisible = true) : c.Lists e.name s := by
  cases s with
  | theme id =>
    refine List.mem_mergeSort.2 (List.mem_map.2 ⟨id, (EntryTable.mem_visible_iff found).2 visible, ?_⟩)
    rw [show c.db.themes.entryAt? id = some e from found]
    rfl
  | bundle id =>
    refine ⟨List.mem_mergeSort.2 ((EntryTable.mem_visible_iff found).2 visible), ?_⟩
    rw [show c.db.bundles.entryAt? id = some e from found]
    rfl
  | item kind owner id =>
    obtain ⟨b, there, found⟩ := Option.bind_eq_some_iff.1 found
    exact ⟨(b.items.get kind).visible, by rw [listItems?, itemTable?, there]; rfl, (EntryTable.mem_visible_iff found).2 visible⟩

theorem finds_of_entryOf? (found : c.db.entryOf? s = some e) (visible : e.isVisible = true) : c.Finds e.uuid s := by
  cases s with
  | theme id => exact EntryTable.exists_findUuid? (t := c.db.themes) found visible
  | bundle id => exact EntryTable.exists_findUuid? (t := c.db.bundles) found visible
  | item kind owner id =>
    obtain ⟨b, there, found⟩ := Option.bind_eq_some_iff.1 found
    obtain ⟨other, looked⟩ := EntryTable.exists_findUuid? found visible
    refine Option.isSome_iff_exists.1 (List.findSome?_isSome_iff.2
      ⟨owner, List.mem_range.2 (EntryTable.lt_of_row? there), List.findSome?_isSome_iff.2 ⟨kind, by cases kind <;> decide, ?_⟩⟩)
    rw [itemTable?, there, Option.map_some, Option.bind_some, looked]
    rfl

theorem pairwise_mergeSort_key {α : Type} (key : α → String) (xs : List α) :
    (xs.mergeSort fun a b => decide (key a ≤ key b)).Pairwise fun a b => key a ≤ key b := by
  have transitive (a b c : α) (first : decide (key a ≤ key b) = true) (second : decide (key b ≤ key c) = true) :
      decide (key a ≤ key c) = true :=
    decide_eq_true (String.le_trans (of_decide_eq_true first) (of_decide_eq_true second))
  have total (a b : α) : (decide (key a ≤ key b) || decide (key b ≤ key a)) = true := by
    simpa using String.le_total (key a) (key b)
  have sorted := List.pairwise_mergeSort transitive total xs
  exact sorted.imp of_decide_eq_true

theorem byName (c : Catalog) : c.ByName where
  themes := by
    rw [Catalog.themes]
    exact pairwise_mergeSort_key (fun named : Nat × String => Text.lower named.2) _
  bundles := by
    have sorted := pairwise_mergeSort_key
      (fun id => Text.lower (((c.db.bundles.entryAt? id).map (·.name)).getD "")) c.db.bundles.visible
    refine List.Pairwise.imp (fun le e e' found found' => ?_) sorted
    rw [found, found'] at le
    exact le

/-- Operations of any kind go on from a catalog that is reached. -/
theorem Reachable.step {c c' : Catalog} (reached : Reachable (fun _ _ => True) c) (op : Operation)
    (runs : op.run? c = some c') : Reachable (fun _ _ => True) c' := reached.next trivial runs

/-- Each theme, bundle and item that is shown has the name and the identity of what was recorded last for it. They are
those of the version in effect if that is the one that was recorded, and it was not edited since. -/
theorem shows_of_reachable {c : Catalog} (reached : Reachable (fun _ _ => True) c) :
    c.ByName ∧ (∃ log, Database.Chronicle log ([], c.db)) ∧ ∀ log, Database.Chronicle log ([], c.db) →
      ∀ s e, c.db.entryOf? s = some e → e.isVisible = true → ∃ doc d since, Latest log s doc d since ∧ e.Shows d ∧
        (e.resolve = some doc → .edited doc ∉ since → e.Shows (c.db.docs.get doc) ∧
          (∀ name, (c.db.docs.get doc).rootString? "name" = some name → c.Lists name s) ∧
          ∀ uuid, (c.db.docs.get doc).rootString? "uuid" = some uuid → c.Finds uuid s) := by
  refine ⟨c.byName, exists_chronicle reached, fun log told s e found visible => ?_⟩
  have source : e.locality.hasSource = true := (Bool.and_eq_true_iff.1 visible).1
  rcases told.follows s e found with blank | ⟨doc, d, since, latest, shows, current⟩
  · exact Bool.noConfusion (blank.2.symm.trans source)
  refine ⟨doc, d, since, latest, shows, fun effective unedited => ?_⟩
  have there : e.Shows (c.db.docs.get doc) := shows.sameIdentity (current (Entry.mem_held_of_resolve effective) unedited)
  exact ⟨there, fun name has => there.name name has ▸ lists_of_entryOf? found visible,
    fun uuid has => there.uuid uuid has ▸ finds_of_entryOf? found visible⟩

/-- In a new catalog there is a bundle, which nothing was done to since: it is listed and found by what its manifest has. -/
theorem shows_of_reachable_new : ∃ c e d, Reachable (fun _ _ => True) c ∧ c.db.entryOf? (.bundle 0) = some e ∧
    e.isVisible = true ∧ e.resolve = some 0 ∧ c.liveDoc? 0 = some d ∧ d.rootString? "name" = some "A" ∧
    e.Shows d ∧ c.Lists "A" (.bundle 0) := by
  obtain ⟨empty, c, files, opens, bare⟩ := bare_openAt { nth := fun _ => "U" }
  have reached : Reachable (fun _ _ => True) (c.newBundle "A").1 := (Reachable.opened empty opens).step (.newBundle "A") rfl
  obtain ⟨e, d, log, told, found, visible, effective, live, name, only⟩ : ∃ e d log,
      Database.Chronicle log ([], (c.newBundle "A").1.db) ∧ (c.newBundle "A").1.db.entryOf? (.bundle 0) = some e ∧
      e.isVisible = true ∧ e.resolve = some 0 ∧ (c.newBundle "A").1.liveDoc? 0 = some d ∧
      d.rootString? "name" = some "A" ∧ log = [.registered (.bundle 0) 0 d] := by
    obtain ⟨config, db, files, identities, dirty, lastFlush, pending, complete⟩ := c
    obtain ⟨rfl, rfl⟩ := bare
    have keyed : ({ Document.create "A" identities.draw.1 with filename := manifestName } : Document).Keyed :=
      Document.keyed_create "A" identities.draw.1
    have stored := Database.Chronicle.start.quiet (.themes (.moves (.single (.store rfl keyed)))) (.refl _) (.refl _)
      (DocumentTable.holding_empty.keepsIdentities_insert rfl)
    have added := stored.next (.bundles (.single (.insert .own fun _ => .inl trivial))) (.bundles (.insert .own))
    exact ⟨_, _, _, added, rfl, rfl, rfl, rfl, rfl, rfl⟩
  obtain ⟨doc, d', since, ⟨⟨before, split⟩, -⟩, -, current⟩ :=
    (shows_of_reachable reached).2.2 log told (.bundle 0) e found visible
  obtain ⟨rfl, same, -⟩ : since = [] ∧ Event.registered (.bundle 0) 0 d = .registered (.bundle 0) doc d' ∧ before = [] := by
    rw [only] at split
    cases since with
    | nil =>
      obtain ⟨same, none_⟩ := List.cons.inj split
      exact ⟨rfl, same, none_.symm⟩
    | cons _ _ => simp at split
  obtain ⟨-, rfl, rfl⟩ := Event.registered.inj same
  obtain ⟨shows, lists, -⟩ := current effective List.not_mem_nil
  rw [(liveDoc?_eq_some.1 live).2] at shows lists
  exact ⟨_, e, d, reached, found, visible, effective, live, name, shows, lists "A" name⟩

/-! ## A theme that is renamed -/

/-- A file system with the file of one theme of the user's own. -/
def themeFile (octets : ByteArray) : FileSystem := { nodes := [
  ([], .directory 0o755 0), (["Themes"], .directory 0o755 0), (["Themes", "A.tmTheme"], .file octets 0o644 1000000000)] }

/-- The configuration of an editor with its own directory. -/
def appConfig : Config := { bundledDir := "app", rebuild := true }

theorem isFileName_app : IsFileName "app" := ⟨by decide, by decide, by decide, by decide, by decide⟩

theorem isFileName_theme : IsFileName "A.tmTheme" := ⟨by decide, by decide, by decide, by decide, by decide⟩

theorem ownThemes_app : appConfig.ownThemes = "Themes" := isFileName_themes.join_empty

section
variable {fs : FileSystem} {place : Place} {name dir : String} {node child : FileNode}

theorem locate_name (h : IsFileName name) (top : fs.node? [] = some node) (directory : node.isDirectory = true)
    (found : fs.node? [name] = some child) (wants : child.isDirectory = true) : fs.locate name = .ok ([name], child) := by
  refine FileSystem.locate_eq_ok.2 ⟨FileSystem.resolve_eq_ok.2 ⟨⟨h.plain, h.present, h.relative⟩, ?_⟩, found, fun _ => wants⟩
  rw [h.parts]
  exact FileSystem.follow_name top directory h

theorem locate_join (located : fs.locate dir = .ok (place, node)) (directory : node.isDirectory = true) (h : IsFileName name)
    (found : fs.node? (place ++ [name]) = some child) : fs.locate (Path.join dir name) = .ok (place ++ [name], child) := by
  refine FileSystem.locate_eq_ok.2 ⟨FileSystem.resolve_join located directory h, found, fun wants => ?_⟩
  rw [h.wantsDirectory_join] at wants
  cases wants

/-- There is one theme in a directory. -/
theorem listDir_theme {octets : ByteArray} {mode : Nat} {modified : Int} (located : fs.locate dir = .ok (place, node))
    (directory : node.isDirectory = true) (only : fs.childrenAt place = [("A.tmTheme", .file octets mode modified)]) :
    listDir fs dir false (fun name => hasExtension name ".plist" || hasExtension name ".tmTheme") = ["A.tmTheme"] := by
  have kept : hasExtension "A.tmTheme" ".plist" = false ∧ hasExtension "A.tmTheme" ".tmTheme" = true := by
    constructor <;> decide +kernel
  rw [listDir, FileSystem.children_eq located directory, only]
  simp [FileNode.isDirectory, kept]

/-- A path leads to no directory that leads through a place where nothing is. -/
theorem not_isDirectory_of_follow {path : String} {front rest : List String}
    (parts : Path.parts path = front ++ rest) (followed : fs.follow [] front = .ok place) (missing : fs.node? place = none) :
    fs.isDirectory path = false := by
  rw [Bool.eq_false_iff]
  intro directory
  obtain ⟨place', mode, modified, located⟩ := FileSystem.isDirectory_iff.1 directory
  obtain ⟨resolved, found, -⟩ := FileSystem.locate_eq_ok.1 located
  have whole := (FileSystem.resolve_eq_ok.1 resolved).2
  rw [parts, FileSystem.follow_append, followed] at whole
  obtain ⟨mode, modified, there⟩ := FileSystem.isDirectory_of_follow whole found rfl
  cases missing.symm.trans there

/-- There is no directory of a name where there is nothing of that name. -/
theorem not_isDirectory_join (located : fs.locate dir = .ok (place, node)) (directory : node.isDirectory = true)
    (h : IsFileName name) (missing : fs.node? (place ++ [name]) = none) : fs.isDirectory (Path.join dir name) = false := by
  rw [FileSystem.isDirectory, FileSystem.locate, FileSystem.resolve_join located directory h]
  dsimp only
  rw [missing]

end

theorem locate_themes (octets : ByteArray) : (themeFile octets).locate "Themes" = .ok (["Themes"], .directory 0o755 0) :=
  locate_name isFileName_themes rfl rfl rfl rfl

theorem locate_theme (octets : ByteArray) : (themeFile octets).locate (Path.join "Themes" "A.tmTheme") =
    .ok (["Themes", "A.tmTheme"], .file octets 0o644 1000000000) :=
  locate_join (locate_themes octets) rfl isFileName_theme rfl

theorem not_isDirectory_app (octets : ByteArray) {name : String} (h : IsFileName name) :
    (themeFile octets).isDirectory (Path.join "app" name) = false := by
  have parts : Path.parts (Path.join "app" name) = ["app"] ++ [name] := by rw [h.parts_join, isFileName_app.parts]
  exact not_isDirectory_of_follow parts (FileSystem.follow_name rfl rfl isFileName_app) rfl

theorem not_isDirectory_own (octets : ByteArray) {name : String} (h : IsFileName name) (other : name ≠ "Themes") :
    (themeFile octets).isDirectory (Path.join "" name) = false := by
  have missing : (themeFile octets).node? [name] = none := by
    simp [FileSystem.node?, themeFile, Entries.get?, other.symm]
  have parts : Path.parts (Path.join "" name) = [name] ++ [] := by
    rw [h.parts_join, Path.parts_empty]
    rfl
  exact not_isDirectory_of_follow parts (FileSystem.follow_name rfl rfl h) missing

theorem updateThemes_same {dir : String} {loc : Locality}
    (same : c.db.themes.sync c.db.docs c.files dir loc ".tmTheme" = (c.db.themes, c.db.docs)) :
    c.updateThemes dir loc = c := by
  rw [updateThemes, same]
  rfl

theorem updateBundles_missing {root : String} {loc : Locality} (missing : c.files.isDirectory root = false)
    (none_ : c.db.bundles = {}) (mode : ScanMode) : c.updateBundles root loc mode = c := by
  obtain ⟨config, ⟨themes, bundles, docs, syntaxes⟩, files, identities, dirty, lastFlush, pending, complete⟩ := c
  obtain rfl : bundles = {} := none_
  rw [updateBundles, if_neg (Bool.eq_false_iff.1 missing)]
  rfl

/-- A scan goes no further than the themes where there are no bundles and no directories for them. -/
theorem update_of_missing {c₁ : Catalog} {mode : ScanMode} (themes : (if mode = .rest then c else
      (c.updateThemes c.config.pristineThemes { pristine := true }).updateThemes c.config.ownThemes { own := true }) = c₁)
    (none_ : c₁.db.bundles = {}) (installed : c₁.files.isDirectory c₁.config.installedBundles = false)
    (pristine : c₁.files.isDirectory c₁.config.pristineBundles = false)
    (own : c₁.files.isDirectory c₁.config.ownBundles = false) :
    c.update mode = (if mode = .languages then c₁ else { c₁ with complete := true, pending := none }).markDirty := by
  rw [Catalog.update, themes, updateBundles_missing installed none_, updateBundles_missing pristine none_,
    updateBundles_missing own none_]

theorem config_update {spare : List Nat} (h : c.db.Keeping spare) (mode : ScanMode) :
    (c.update mode).config = c.config := by
  have same := (CatalogView.update_eq c.view mode).1
  rwa [← view_update h.holds] at same

/-- A version is not among those that vanish with a directory of others. -/
theorem sync_missing {loc : Locality} {fs : FileSystem} {dir : String} (apart : e.locality.meets loc = false)
    (missing : fs.isDirectory dir = false) (docs : DocumentTable) :
    EntryTable.sync (⟨[e]⟩ : EntryTable Entry) docs fs dir loc ".tmTheme" = (⟨[e]⟩, docs) := by
  have size : (⟨[e]⟩ : EntryTable Entry).size = 1 := rfl
  rw [EntryTable.sync, if_neg (Bool.eq_false_iff.1 missing), EntryTable.dropVanished, size, List.range_one,
    EntryTable.dropWhere]
  simp [EntryTable.entryAt?, EntryTable.row?, Row.entry, apart, EntryTable.dropWhere]

/-- A version stays whose file is as it was saved. -/
theorem sync_settled {docs : DocumentTable} (own : e.locality = { own := true }) (named : e.ownDoc = some 0)
    (filename : (docs.get 0).filename = "A.tmTheme") (modTime : (docs.get 0).modTime = 1) (octets : ByteArray) :
    EntryTable.sync (⟨[e]⟩ : EntryTable Entry) docs (themeFile octets) "Themes" { own := true } ".tmTheme" =
      (⟨[e]⟩, docs) := by
  have directory : (themeFile octets).isDirectory "Themes" = true :=
    FileSystem.isDirectory_iff.2 ⟨_, _, _, locate_themes octets⟩
  have settled : e.hasUnsavedOwn docs = false := by
    rw [Entry.hasUnsavedOwn, named]
    simp [modTime]
  have tracked : EntryTable.tracked? (⟨[e]⟩ : EntryTable Entry) docs { own := true } 0 =
      some { doc := 0, filename := "A.tmTheme", fixed := false } := by
    simp [EntryTable.tracked?, EntryTable.entryAt?, EntryTable.row?, Row.entry, own, Locality.contains, Entry.docFor,
      named, filename, settled]
  have same : EntryTable.hasChanged (themeFile octets) (Path.join "Themes" "A.tmTheme") (docs.get 0) = false := by
    rw [EntryTable.hasChanged, FileSystem.modTime, locate_theme]
    simp [Except.map, FileNode.modified, modTime]
  have kept : EntryTable.dropMissing { own := true } ["A.tmTheme"] (⟨[e]⟩ : EntryTable Entry) docs [0] = (⟨[e]⟩, docs) := by
    rw [EntryTable.dropMissing, tracked]
    rfl
  have read : EntryTable.reloadChanged (themeFile octets) "Themes" { own := true } ["A.tmTheme"]
      (⟨[e]⟩ : EntryTable Entry) docs [0] = (⟨[e]⟩, docs, []) := by
    have listed : (some { doc := 0, filename := "A.tmTheme", fixed := false } : Option Tracked).filter
        (fun v => ["A.tmTheme"].contains v.filename) = some { doc := 0, filename := "A.tmTheme", fixed := false } := rfl
    rw [EntryTable.reloadChanged, tracked, listed]
    dsimp only
    rw [same]
    rfl
  have size : (⟨[e]⟩ : EntryTable Entry).size = 1 := rfl
  rw [EntryTable.sync, if_pos directory, listDir_theme (locate_themes octets) rfl rfl]
  simp only [size, List.range_one, kept, read]
  rfl

/-- A catalog with one theme of the user's own and nothing else. -/
structure Single (c : Catalog) (e : Entry) (d : Document) : Prop where
  config : c.config = appConfig
  themes : c.db.themes = ⟨[e]⟩
  bundles : c.db.bundles = {}
  live : c.liveDoc? 0 = some d
  own : e.locality = { own := true }
  named : e.ownDoc = some 0
  filename : d.filename = "A.tmTheme"

namespace Single

variable {d : Document} (h : Single c e d)
include h

theorem get : c.db.docs.get 0 = d := (liveDoc?_eq_some.1 h.live).2

theorem bound : 0 < c.db.docs.size := of_decide_eq_true (Bool.and_eq_true_iff.1 (liveDoc?_eq_some.1 h.live).1).1

theorem stored : d.isVacant = false := by
  have live := (Bool.and_eq_true_iff.1 (liveDoc?_eq_some.1 h.live).1).2
  rwa [h.get, Bool.not_eq_true'] at live

theorem entryAt? : c.db.themes.entryAt? 0 = some e := by
  rw [h.themes]
  rfl

theorem listed : c.themes = [(0, e.name)] := by
  have visible : e.isVisible = true := by
    rw [Entry.isVisible, h.own]
    rfl
  have shown : c.db.themes.visible = [0] := by
    have size : c.db.themes.size = 1 := congrArg EntryTable.size h.themes
    rw [EntryTable.visible, size, List.range_one]
    simp [h.entryAt?, visible]
  rw [Catalog.themes, shown]
  simp [h.entryAt?]

theorem shown : c.theme? 0 = some (some d) := by
  have effective : e.resolve = some 0 := by
    rw [Entry.resolve, h.own, h.named]
    rfl
  rw [theme?, h.entryAt?, Option.bind_eq_bind, Option.bind_some, effectiveDoc?, effective]
  simp [h.live]

theorem write {content : Document} (stored : content.isVacant = false) : ∃ c' d', c.write? 0 content = some c' ∧
    Single c' e d' ∧ d'.rootString? "name" = content.rootString? "name" := by
  have wrote : c.write? 0 content =
      some (c.withDocs (c.db.docs.set 0 { content with filename := d.filename, modTime := d.modTime })) := by
    rw [write?, h.live]
    exact if_neg (Bool.eq_false_iff.1 stored)
  refine ⟨_, { content with filename := d.filename, modTime := d.modTime }, wrote,
    ⟨h.config, h.themes, h.bundles, liveDoc?_eq_some.2 ⟨?_, c.db.docs.get_set_self h.bound _⟩, h.own, h.named, h.filename⟩, rfl⟩
  rw [DocumentTable.isLive, withDocs, c.db.docs.get_set_self h.bound, DocumentTable.size_set, decide_eq_true h.bound]
  exact congrArg not stored

theorem changeFiles (files : FileSystem) : Single { c with files } e d :=
  ⟨h.config, h.themes, h.bundles, h.live, h.own, h.named, h.filename⟩

/-- The file is already as it would be saved, so that only its time is noted. -/
theorem save (files : c.files = themeFile d.print.toUTF8) : ∃ c' e' d', c.saveTheme? 0 = some (c', .ok ()) ∧
    Single c' e' d' ∧ c'.files = c.files ∧ e'.name = e.name ∧ d'.modTime = 1 ∧
    d'.rootString? "name" = d.rootString? "name" := by
  have place : Path.join c.config.ownThemes d.filename = Path.join "Themes" "A.tmTheme" := by
    rw [h.config, h.filename, ownThemes_app]
  have located := locate_theme d.print.toUTF8
  have held : (themeFile d.print.toUTF8).holds (Path.join "Themes" "A.tmTheme") d.print.toUTF8 = true := by
    rw [FileSystem.holds, FileSystem.read, located]
    exact decide_eq_true rfl
  have time : (themeFile d.print.toUTF8).modTime (Path.join "Themes" "A.tmTheme") = .ok 1 := by
    rw [FileSystem.modTime, located]
    rfl
  have present : ¬d.filename.isEmpty = true := by
    rw [h.filename]
    decide
  have saved : d.save c.files c.config.ownThemes =
      (c.files, .ok ({ d with modTime := 1 }, Path.join "Themes" "A.tmTheme")) := by
    rw [Document.save, place, files]
    dsimp only
    rw [if_neg present, held, if_pos rfl, time]
  obtain ⟨c₁, stored, config, themes, bundles, docs, kept⟩ : ∃ c₁, c.saveDoc 0 c.config.ownThemes = (c₁, .ok ()) ∧
      c₁.config = c.config ∧ c₁.db.themes = c.db.themes ∧ c₁.db.bundles = c.db.bundles ∧
      c₁.db.docs = c.db.docs.set 0 { d with modTime := 1 } ∧ c₁.files = c.files := by
    refine ⟨{ c.withDocs (c.db.docs.set 0 { d with modTime := 1 }) with files := c.files }, ?_, rfl, rfl, rfl, rfl, rfl⟩
    rw [saveDoc, DocumentTable.save, h.get, saved]
  have savable : savable? e = some 0 := by
    rw [savable?, h.own, h.named]
    rfl
  have ran : c.saveTheme? 0 = some ((c₁.withThemes
      (c₁.db.themes.modifyEntry 0 fun e => { e with modified := false })).markDirty, .ok ()) := by
    rw [saveTheme?, h.entryAt?]
    simp [savable, stored]
  refine ⟨_, { e with modified := false }, { d with modTime := 1 }, ran,
    ⟨config.trans h.config, ?_, bundles.trans h.bundles, liveDoc?_eq_some.2 ⟨?_, ?_⟩, h.own, h.named, h.filename⟩, kept, rfl,
    rfl, rfl⟩
  · rw [markDirty, withThemes, withDb, themes, h.themes]
    rfl
  · change c₁.db.docs.isLive 0 = true
    rw [docs, DocumentTable.isLive, c.db.docs.get_set_self h.bound, DocumentTable.size_set, decide_eq_true h.bound]
    exact congrArg not h.stored
  · change c₁.db.docs.get 0 = _
    rw [docs, c.db.docs.get_set_self h.bound]

theorem update {octets : ByteArray} (files : c.files = themeFile octets) (saved : d.modTime = 1) (mode : ScanMode) :
    Single (c.update mode) e d := by
  have settled : c.updateThemes c.config.ownThemes { own := true } = c := by
    refine updateThemes_same ?_
    rw [files, h.themes, h.config, ownThemes_app]
    exact sync_settled h.own h.named (h.get ▸ h.filename) (h.get ▸ saved) octets
  have factory : c.updateThemes c.config.pristineThemes { pristine := true } = c := by
    refine updateThemes_same ?_
    rw [files, h.themes, h.config]
    have apart : e.locality.meets { pristine := true } = false := by
      rw [h.own]
      rfl
    exact sync_missing apart (not_isDirectory_app octets isFileName_themes) _
  have themes : (if mode = .rest then c else
      (c.updateThemes c.config.pristineThemes { pristine := true }).updateThemes c.config.ownThemes { own := true }) = c := by
    rw [factory, settled, ite_self]
  have scanned := update_of_missing themes h.bundles
    (by
      rw [h.config, files]
      exact not_isDirectory_own octets isFileName_installedBundles (by decide))
    (by
      rw [h.config, files]
      exact not_isDirectory_app octets isFileName_bundles)
    (by
      rw [h.config, files]
      exact not_isDirectory_own octets isFileName_bundles (by decide))
  rw [scanned]
  split
  · exact ⟨h.config, h.themes, h.bundles, h.live, h.own, h.named, h.filename⟩
  · exact ⟨h.config, h.themes, h.bundles, h.live, h.own, h.named, h.filename⟩

end Single

theorem addColors_create (uuid : String) : ∃ d, d = addColors { Document.create "A" uuid with filename := "A.tmTheme" } ∧
    d.isVacant = false ∧ d.filename = "A.tmTheme" ∧ d.rootString? "name" = some "A" := by
  refine ⟨_, rfl, isVacant_addColors rfl, (sameFile_addColors _).1, ?_⟩
  cbv

theorem single_newTheme (bare : Bare c) (same : c.config = appConfig) :
    ∃ e d, Single (c.newTheme "A").1 e d ∧ e.name = "A" := by
  have chosen : freeName c.files c.config.ownThemes "A" ".tmTheme" = "A.tmTheme" := by
    rw [bare.files, freeName_bare _ _ isExtension_theme]
    rfl
  obtain ⟨d, made, stored, filename, named⟩ := addColors_create c.identities.draw.1
  obtain ⟨config, tables⟩ : (c.newTheme "A").1.config = c.config ∧ (c.newTheme "A").1.db =
      { themes := ⟨[{ (Entry.new { own := true } 0).identify d with modified := true }]⟩, docs := { documents := #[d] } } := by
    rw [newTheme, chosen, made]
    -- What the colours are does not matter here, and they are not to be worked out.
    generalize addColors = colored
    obtain ⟨config, db, files, identities, dirty, lastFlush, pending, complete⟩ := c
    obtain ⟨rfl, rfl⟩ := bare
    exact ⟨rfl, rfl⟩
  refine ⟨_, d, ⟨config.trans same, congrArg Database.themes tables, congrArg Database.bundles tables, ?_, rfl, rfl, filename⟩,
    ?_⟩
  · rw [liveDoc?, tables]
    simp [DocumentTable.isLive, DocumentTable.get, DocumentTable.size, stored]
  · rw [Entry.identify, named]
    rfl

/-- A theme that is renamed and saved is still listed by the name that it had when it was recorded, even after a scan. -/
theorem themes_stale : ∃ before saved : Catalog, Reachable (fun _ _ => True) before ∧
    before.saveTheme? 0 = some (saved, .ok ()) ∧ saved.db.themes.size = 1 ∧ saved.db.bundles.size = 0 ∧
    Reachable (fun _ _ => True) (saved.update .full) ∧ (saved.update .full).themes = [(0, "A")] ∧
    ∃ d, (saved.update .full).theme? 0 = some (some d) ∧ d.modTime ≠ 0 ∧ d.rootString? "name" = some "B" := by
  obtain ⟨empty, start, config, bare, opens⟩ := @openAt_bare appConfig rfl rfl { nth := fun _ => "U" }
  have opened : Reachable (fun _ _ => True) { start.update .languages with pending := some .rest } := .opened empty opens
  have kept : (start.update .languages).config = appConfig :=
    (config_update (bare.tables ▸ Database.keeping_empty) .languages).trans config
  have none_ : Bare { start.update .languages with pending := some .rest } :=
    ⟨(bare.update .languages).tables, (bare.update .languages).files⟩
  obtain ⟨e, d, single, name⟩ := single_newTheme none_ kept
  have added := opened.step (.newTheme "A") rfl
  have stored : (Document.create "B" "V").isVacant = false := rfl
  obtain ⟨c₁, d₁, wrote, written, renamed⟩ := single.write stored
  have edited := added.step (.write 0 (Document.create "B" "V")) wrote
  obtain ⟨octets, printed⟩ : ∃ octets, octets = d₁.print.toUTF8 := ⟨_, rfl⟩
  have placed : Reachable (fun _ _ => True) { c₁ with files := themeFile octets } :=
    edited.step (.changeFiles (themeFile octets)) rfl
  obtain ⟨c₂, e₂, d₂, saves, kept, files, same, time, content⟩ :=
    (written.changeFiles (themeFile octets)).save (congrArg themeFile printed)
  have saved := placed.step (.saveTheme 0) (congrArg (Option.map Prod.fst) saves)
  have settled := kept.update files time .full
  refine ⟨_, c₂, placed, saves, congrArg EntryTable.size kept.themes, congrArg EntryTable.size kept.bundles,
    saved.step (.update .full) rfl, ?_, d₂, settled.shown, ?_, ?_⟩
  · rw [settled.listed, same, name]
  · rw [time]
    decide
  · rw [content, renamed]
    decide

end EditorBundles.Catalog
