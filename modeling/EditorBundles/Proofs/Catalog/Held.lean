import EditorBundles.Catalog.EntryTable
import EditorBundles.Proofs.PropertyList.Holding

/-!
# Documents held by rows

An entry holds the documents that it names. An entry that is not gone names a document of its own just
where its flags say so, and a factory document where they say that there is a factory version, and it has
one of the two; what stands in the place of an entry that is gone names none. Rows with tables of their own
hold the documents of these tables as well: `Keeper` says what is asked of them.
-/

namespace EditorBundles.Catalog
set_option autoImplicit false
open PropertyList

namespace Entry

/-- The documents that an entry names. -/
def held (e : Entry) : List Nat := e.factoryDoc.toList ++ e.ownDoc.toList

/-- The flags of an entry say which documents it names. -/
structure Agrees (e : Entry) : Prop where
  own : e.locality.own = e.ownDoc.isSome
  factory : e.locality.isFactory = e.factoryDoc.isSome

/-- An entry that is not gone, with a version at least. -/
structure Live (e : Entry) : Prop extends Agrees e where
  here : e.locality.deleted = false
  source : e.locality.hasSource = true

variable {e : Entry}

theorem held_tombstone : tombstone.held = [] := rfl

@[simp] theorem held_identify (e : Entry) (d : Document) : (e.identify d).held = e.held := rfl

@[simp] theorem locality_identify (e : Entry) (d : Document) : (e.identify d).locality = e.locality := rfl

theorem Live.identify (h : e.Live) (d : Document) : (e.identify d).Live := ⟨⟨h.own, h.factory⟩, h.here, h.source⟩

/-- Only its versions and whether it is gone count for whether an entry is live. -/
theorem Live.congr (h : e.Live) {f : Entry} (own : f.locality.own = e.locality.own)
    (factory : f.locality.isFactory = e.locality.isFactory) (here : f.locality.deleted = e.locality.deleted)
    (ownDoc : f.ownDoc = e.ownDoc) (factoryDoc : f.factoryDoc = e.factoryDoc) : f.Live where
  own := by rw [own, ownDoc, h.own]
  factory := by rw [factory, factoryDoc, h.factory]
  here := here.trans h.here
  source := by
    have source := h.source
    simp only [Locality.hasSource, Locality.isFactory] at source factory ⊢
    grind

end Entry

theorem Locality.hasSource_of_isFactory {s : Locality} (h : s.isFactory = true) : s.hasSource = true := by
  simp only [isFactory, Bool.or_eq_true] at h
  simp only [hasSource, Bool.or_eq_true]
  exact h.imp_left .inl

/-- One of the three localities that versions come from. -/
inductive Locality.IsSource : Locality → Prop where
  | pristine : IsSource { pristine := true }
  | installed : IsSource { installed := true }
  | own : IsSource { own := true }

/-- Where there is a version at one of these localities there is a version. -/
theorem Locality.IsSource.hasSource_of_contains {loc s : Locality} (source : loc.IsSource) (h : s.contains loc = true) :
    s.hasSource = true := by
  cases source <;> simp [Locality.contains] at h <;> simp [Locality.hasSource, h]

theorem Entry.held_new (loc : Locality) (doc : Nat) : (Entry.new loc doc).held = [doc] := by
  unfold Entry.new
  split <;> rfl

theorem Entry.live_new {loc : Locality} (source : loc.IsSource) (doc : Nat) : (Entry.new loc doc).Live := by
  cases source <;> exact ⟨⟨rfl, rfl⟩, rfl, rfl⟩

/-- An entry without its own version. -/
def Entry.disowned (e : Entry) : Entry :=
  if e.locality.own then { e with ownDoc := none, locality := { e.locality with own := false }, modified := false }
  else e

/-- Taking its own version from an entry takes the document that it names as its own. -/
theorem Entry.disowned_eq {e : Entry} (h : e.Agrees) :
    (if e.locality.own then e.ownDoc else none) = e.ownDoc ∧ e.disowned.ownDoc = none ∧
      e.disowned.locality.own = false ∧ e.disowned.factoryDoc = e.factoryDoc ∧
      e.disowned.locality.isFactory = e.locality.isFactory ∧ e.disowned.locality.deleted = e.locality.deleted := by
  have agrees := h.own
  cases flag : e.locality.own with
  | true => simp [disowned, flag, Locality.isFactory]
  | false =>
    rw [flag, eq_comm, Option.isSome_eq_false_iff, Option.isNone_iff_eq_none] at agrees
    simp [disowned, flag, agrees]

namespace EntryTable

variable {e : Entry} {loc : Locality}

/-- What happens to the versions of an entry and to the documents behind them when some are dropped. -/
theorem dropVersions_eq (e : Entry) (loc : Locality) :
    (dropVersions e loc).1.locality.own = (e.locality.own && !loc.own) ∧
    (dropVersions e loc).1.ownDoc = (if loc.own && e.locality.own then none else e.ownDoc) ∧
    (dropVersions e loc).1.locality.deleted = (e.locality.deleted && !loc.deleted) ∧
    ∃ gone : Bool, (gone = true → e.locality.isFactory = true) ∧
      (dropVersions e loc).1.locality.isFactory = (e.locality.isFactory && !gone) ∧
      (dropVersions e loc).1.factoryDoc = (if gone then none else e.factoryDoc) ∧
      (dropVersions e loc).2.2 = (if gone then e.factoryDoc.toList else []) ++
        (if loc.own && e.locality.own then e.ownDoc.toList else []) := by
  -- the factory document is that of the installed version if there is one, and else that of the pristine one
  let gone := if e.locality.installed then loc.installed else loc.pristine && e.locality.pristine
  refine ⟨?_, ?_, ?_, gone, ?_⟩
  all_goals
    cases installed : e.locality.installed <;> cases factory : loc.installed <;> cases pristine : loc.pristine <;>
      cases had : e.locality.pristine <;>
      simp [gone, dropVersions, Locality.without, Locality.isFactory, installed, factory, pristine, had]

/-- The documents of an entry are those that it names without the dropped versions and those that it no
longer names. -/
theorem held_dropVersions (e : Entry) (loc : Locality) :
    ((dropVersions e loc).2.2 ++ (dropVersions e loc).1.held).Perm e.held := by
  obtain ⟨-, ownDoc, -, gone, -, -, factoryDoc, docs⟩ := dropVersions_eq e loc
  rw [docs, Entry.held, ownDoc, factoryDoc, Entry.held]
  cases gone <;> cases (loc.own && e.locality.own)
  · exact .refl _
  · simpa using List.perm_append_comm
  · simp
  · simp

/-- Without some of its versions an entry names the documents of the others. -/
theorem agrees_dropVersions (h : e.Agrees) (loc : Locality) : (dropVersions e loc).1.Agrees := by
  obtain ⟨own, ownDoc, -, gone, -, factory, factoryDoc, -⟩ := dropVersions_eq e loc
  constructor
  · rw [own, ownDoc]
    have agrees := h.own
    cases loc.own <;> cases had : e.locality.own <;> simp_all
  · rw [factory, factoryDoc]
    have agrees := h.factory
    cases gone <;> simp_all

/-- Dropping versions adds none. -/
theorem hasSource_of_dropVersions (left : (dropVersions e loc).1.locality.hasSource = true) :
    e.locality.hasSource = true := by
  obtain ⟨own, -, -, gone, -, factory, -⟩ := dropVersions_eq e loc
  simp only [Locality.hasSource, Locality.isFactory] at left factory ⊢
  grind

/-- Nothing is left when the versions from everywhere are dropped. -/
theorem hasSource_dropVersions (e : Entry) {loc : Locality} (pristine : loc.pristine = true) (own : loc.own = true)
    (installed : loc.installed = true) : (dropVersions e loc).1.locality.hasSource = false := by
  cases had : e.locality.installed <;>
    simp [dropVersions, Locality.hasSource, Locality.without, had, pristine, own, installed]

/-- A live entry that has a version left is live. -/
theorem live_dropVersions (h : e.Live) {loc : Locality} (left : (dropVersions e loc).1.locality.hasSource = true) :
    (dropVersions e loc).1.Live := by
  obtain ⟨-, -, here, -⟩ := dropVersions_eq e loc
  exact ⟨agrees_dropVersions h.toAgrees loc, by simp [here, h.here], left⟩

end EntryTable

end EditorBundles.Catalog
