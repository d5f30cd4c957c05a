import EditorBundles.Proofs.Catalog.RowChanges

/-!
# Hidden rows

A hidden row is shown again with its factory version, and it needs one for that. There is one way to be left without: a
row is given a version of the user's own while it is hidden, and its factory version is taken away later, which leaves
the own version where nobody sees it. In runs that take no factory version from such a row every hidden row can be
restored.
-/

namespace EditorBundles.Catalog
set_option autoImplicit false
open PropertyList

/-! ## Entries -/

namespace Entry

/-- The entry is hidden and has no factory version. -/
def Stranded (e : Entry) : Prop := e.locality.disabled = true ∧ e.locality.isFactory = false

/-- The entry is hidden and has a version of the user's own. -/
def HidesOwn (e : Entry) : Prop := e.locality.disabled = true ∧ e.locality.own = true

variable {e : Entry} {loc : Locality}

instance : Decidable e.HidesOwn := inferInstanceAs (Decidable (_ ∧ _))

theorem disabled_new (source : loc.IsSource) (doc : Nat) (d : Document) :
    ((Entry.new loc doc).identify d).locality.disabled = false := by
  cases source <;> rfl

theorem disabled_registered (source : loc.IsSource) (e : Entry) (doc : Nat) (d : Document) :
    (e.registered doc loc d).locality.disabled = e.locality.disabled := by
  rw [locality_registered]
  cases source <;> simp [Locality.union]

/-- Recording a document takes no factory version away. -/
theorem Stranded.of_registered (source : loc.IsSource) {doc : Nat} {d : Document}
    (h : (e.registered doc loc d).Stranded) : e.Stranded := by
  obtain ⟨hidden, none_⟩ := h
  refine ⟨disabled_registered source e doc d ▸ hidden, ?_⟩
  rw [locality_registered] at none_
  cases source <;> simp_all [Locality.union, Locality.isFactory]

/-- Recording a factory document gives no version of the user's own. -/
theorem HidesOwn.of_registered (source : loc.IsSource) (factory : loc.own = false) {doc : Nat} {d : Document}
    (h : (e.registered doc loc d).HidesOwn) : e.HidesOwn := by
  obtain ⟨hidden, own⟩ := h
  refine ⟨disabled_registered source e doc d ▸ hidden, ?_⟩
  rwa [locality_registered, Locality.union, factory, Bool.or_false] at own

theorem disabled_dropVersions (h : (EntryTable.dropVersions e loc).1.locality.disabled = true) :
    e.locality.disabled = true := by
  simp only [EntryTable.dropVersions, Locality.without, Bool.and_eq_true] at h
  exact h.1

/-- Dropping versions gives none. -/
theorem HidesOwn.of_dropVersions (h : (EntryTable.dropVersions e loc).1.HidesOwn) : e.HidesOwn := by
  obtain ⟨hidden, own⟩ := h
  rw [(EntryTable.dropVersions_eq e loc).1, Bool.and_eq_true] at own
  exact ⟨disabled_dropVersions hidden, own.1⟩

/-- Dropping the own version leaves the factory version. -/
theorem Stranded.of_dropOwn (h : (EntryTable.dropVersions e { own := true }).1.Stranded) : e.Stranded := by
  obtain ⟨hidden, none_⟩ := h
  refine ⟨disabled_dropVersions hidden, ?_⟩
  cases installed : e.locality.installed <;>
    simp_all [EntryTable.dropVersions, Locality.without, Locality.isFactory]

/-- Where an entry names a document for a version there is one. -/
theorem Agrees.isSome_docFor (h : e.Agrees) (source : loc.IsSource) (named : e.Names loc) :
    (e.docFor loc).isSome = true := by
  cases source with
  | own => exact h.own.symm.trans (names_own.1 named)
  | installed => exact h.factory.symm.trans (by rw [Locality.isFactory, names_installed.1 named, Bool.or_true])
  | pristine => exact h.factory.symm.trans (by rw [Locality.isFactory, (names_pristine.1 named).1, Bool.true_or])

end Entry

/-! ## Tables -/

namespace EntryTable

variable {ρ : Type} [Row ρ] {t t' : EntryTable ρ} {docs docs' : DocumentTable} {id : Nat} {e e' : Entry} {P : Entry → Prop}

/-- What holds of an entry afterwards held of it before. -/
def Reflects (P : Entry → Prop) (t t' : EntryTable ρ) : Prop :=
  Alters (fun row => ¬P (Row.entry row)) (fun row row' => P (Row.entry row') → P (Row.entry row)) t t'

theorem Reflects.back (h : Reflects P t t') (found : t'.entryAt? id = some e') (holds : P e') :
    ∃ e, t.entryAt? id = some e ∧ P e := by
  obtain ⟨row', place', rfl⟩ := row?_of_entryAt? found
  rcases h id row' place' with new | ⟨row, place, rfl | back⟩
  · exact absurd holds new
  · exact ⟨_, congrArg (Option.map Row.entry) place, holds⟩
  · exact ⟨_, congrArg (Option.map Row.entry) place, back holds⟩

theorem evolves_reflects (mark : ¬P Entry.tombstone) :
    Evolves (fun row : ρ => ¬P (Row.entry row)) fun row row' => P (Row.entry row') → P (Row.entry row) where
  mark := by rwa [Row.entry_ofEntry]
  after new back holds := new (back holds)
  trans sooner later holds := sooner (later holds)

theorem not_stranded_tombstone : ¬Entry.tombstone.Stranded := fun h => Bool.noConfusion h.1

theorem not_hidesOwn_tombstone : ¬Entry.tombstone.HidesOwn := fun h => Bool.noConfusion h.1

/-- What an operation leaves stranded was stranded before or hid an own version: no operation gives a hidden row its own
version and takes its factory version at once. -/
theorem Step.reflects {s s' : State ρ} (step : Step s s') :
    Reflects Entry.Stranded s.1 s'.1 ∨ Reflects Entry.HidesOwn s.1 s'.1 := by
  have stranded := evolves_reflects (ρ := ρ) not_stranded_tombstone
  have hidesOwn := evolves_reflects (ρ := ρ) not_hidesOwn_tombstone
  have shown {loc : Locality} (source : loc.IsSource) (doc : Nat) (d : Document) :
      ¬(Row.entry (Row.ofEntry ((Entry.new loc doc).identify d) : ρ)).locality.disabled = true := by
    rw [Row.entry_ofEntry, Entry.disabled_new source doc d]
    exact Bool.false_ne_true
  have drops (row : ρ) (loc : Locality) (docs : DocumentTable) (h : (Row.entry (dropRow row loc docs)).HidesOwn) :
      (Row.entry row).HidesOwn := by
    rw [entry_dropRow] at h
    exact h.of_dropVersions
  cases step with
  | insert source stored =>
    exact .inl (alters_insert (fun h => shown source _ _ h.1) _)
  | register source found here stored =>
    refine .inl (alters_register fun row _ h => ?_)
    rw [Row.entry_withEntry] at h
    exact h.of_registered source
  | edit edited =>
    refine .inl (alters_editable? edited fun row _ _ _ _ h => ?_)
    rw [Row.entry_withEntry] at h
    exact h
  | drop id loc => exact .inr (alters_drop hidesOwn.mark fun row docs' _ _ => drops row loc docs')
  | dropAll loc => exact .inr (alters_dropWhere hidesOwn (fun row docs' _ => drops row loc docs') _ _ _ _)
  | dropVanished loc => exact .inr (alters_dropWhere hidesOwn (fun row docs' _ => drops row loc docs') _ _ _ _)
  | delete deleted =>
    refine .inl (alters_delete stranded.mark (fun row _ factory h => ?_) deleted)
    rw [Row.entry_withEntry] at h
    exact absurd factory (Bool.not_eq_true _ ▸ h.2)
  | restore id =>
    refine .inl (alters_restore fun row _ _ h => ?_)
    rw [Row.entry_withEntry] at h
    exact Bool.noConfusion h.1
  | @sync t docs loc source fs dir extension =>
    cases own : loc.own with
    | false =>
      refine .inr (alters_sync hidesOwn (fun doc d h => shown source doc d h.1) ?_
        (fun row docs' _ => drops row loc docs') t docs fs dir extension)
      intro row doc d h
      rw [Row.entry_withEntry] at h
      exact h.of_registered source own
    | true =>
      refine .inl (alters_sync stranded (fun doc d h => shown source doc d h.1) ?_ ?_
        t docs fs dir extension)
      · intro row doc d h
        rw [Row.entry_withEntry] at h
        exact h.of_registered source
      · intro row docs' _ h
        obtain rfl : loc = { own := true } := by cases source <;> first | rfl | cases own
        rw [entry_dropRow] at h
        exact h.of_dropOwn

/-- A row that hides a version of the user's own keeps its factory version for as long as it is hidden. -/
def Spares (s s' : State ρ) : Prop :=
  ∀ id e e', s.1.entryAt? id = some e → s'.1.entryAt? id = some e' → e.HidesOwn → e.locality.isFactory = true →
    e'.locality.disabled = true → e'.locality.isFactory = true

theorem spares_of_forall {s : State ρ} (shown : ∀ row ∈ s.1.rows, ¬(Row.entry row).HidesOwn) (s' : State ρ) : Spares s s' := by
  intro id e e' found _ hides
  obtain ⟨row, place, rfl⟩ := row?_of_entryAt? found
  exact absurd hides (shown row (mem_of_row? place))

variable [Keeper ρ]

/-- An entry of a sound table that has no version left is gone. -/
theorem Sound.live_of_disabled (h : t.Sound) (found : t.entryAt? id = some e) (hidden : e.locality.disabled = true) :
    e.Live := by
  obtain ⟨row, place, rfl⟩ := row?_of_entryAt? found
  have sound := h.rows row (mem_of_row? place)
  cases gone : (Row.entry row).locality.deleted with
  | false => exact sound.live gone
  | true =>
    rw [sound.eq_tombstone gone, Row.entry_ofEntry] at hidden
    cases hidden

/-- Over a run that takes no factory version from a row that hides a version of the user's own, no row is stranded. -/
theorem not_stranded_of_run {s : State ρ} (run : Run (fun s s' => Step s s' ∧ Spares s s') s)
    (found : s.1.entryAt? id = some e) :
    ¬e.Stranded := by
  have keeping {s : State ρ} (run : Run (fun s s' => Step s s' ∧ Spares s s') s) : s.1.Keeping s.2 :=
    run.keeping fun _ _ next sound => next.1.passes sound
  induction run generalizing id e with
  | empty =>
    simp [entryAt?, row?] at found
  | @step s s' before next ih =>
    intro stranded
    have live := ((keeping before).sound |> fun sound => (next.1.passes sound).sound).live_of_disabled found stranded.1
    have own : e.locality.own = true := by
      have source := live.source
      have none_ := stranded.2
      simp only [Locality.hasSource, Locality.isFactory] at source none_
      grind
    rcases next.1.reflects with reflects | reflects
    · obtain ⟨e₀, found₀, stranded₀⟩ := reflects.back found stranded
      exact ih found₀ stranded₀
    · obtain ⟨e₀, found₀, hides⟩ := reflects.back found ⟨stranded.1, own⟩
      cases factory : e₀.locality.isFactory with
      | false => exact ih found₀ ⟨hides.1, factory⟩
      | true => exact Bool.noConfusion (stranded.2.symm.trans (next.2 id e₀ e found₀ found hides factory stranded.1))
  | write before live stored ih => exact ih found

/-- Over a run that takes no factory version from a row that hides a version of the user's own, every hidden row has a
factory version and can be restored: it then resolves to a document that is there. -/
theorem restorable_of_run (run : Run (fun s s' => Step s s' ∧ Spares s s') (t, docs)) (found : t.entryAt? id = some e)
    (hidden : e.locality.disabled = true) : e.locality.isFactory = true ∧ (t.restore id).2 = true ∧
      ∃ doc, (t.restore id).1.resolve id = some doc ∧ docs.isLive doc = true := by
  have keeping : t.Keeping docs := run.keeping fun _ _ next sound => next.1.passes sound
  have factory : e.locality.isFactory = true := by
    by_contra none_
    exact not_stranded_of_run run found ⟨hidden, Bool.not_eq_true _ ▸ none_⟩
  have restored : t.restore id =
      (t.modifyEntry id fun e => { e with locality := { e.locality with disabled := false } }, true) := by
    rw [restore, found]
    dsimp only
    rw [if_pos (by rw [hidden, factory]; rfl)]
  have live := keeping.sound.live_of_disabled found hidden
  have shown : ({ e with locality := { e.locality with disabled := false } } : Entry).Live :=
    live.congr rfl rfl rfl rfl rfl
  obtain ⟨named, same⟩ := shown.resolve_eq rfl
  obtain ⟨doc, named⟩ := Option.isSome_iff_exists.1 (shown.isSome_docFor (Entry.isSource_effective _) named)
  refine ⟨factory, congrArg Prod.snd restored, doc, ?_, ?_⟩
  · rw [restored, resolve, entryAt?_modifyEntry_self, found]
    exact same.trans named
  · exact keeping.holding.mem_iff.1 (mem_held_of_entry found (mem_held_of_docFor (e := e) named))

/-- A theme that came with the editor is hidden and is given a version of the user's own, which comes into effect when it
is restored. -/
theorem restorable_of_run_own : ∃ (t : EntryTable Entry) (docs : DocumentTable) (e : Entry),
    Run (fun s s' => Step s s' ∧ Spares s s') (t, docs) ∧ t.entryAt? 0 = some e ∧ e.HidesOwn ∧ (t.restore 0).2 = true ∧
      (t.restore 0).1.resolve 0 = some 1 ∧ docs.isLive 1 = true := by
  have added : Run (fun s s' : State Entry => Step s s' ∧ Spares s s') (_, _) :=
    .step .empty ⟨.insert .pristine (d := .new) rfl, spares_of_forall (fun _ member => absurd member List.not_mem_nil) _⟩
  have hidden : Run (fun s s' : State Entry => Step s s' ∧ Spares s s') (_, _) :=
    .step added ⟨@Step.delete _ _ _ _ _ _ 0 "" {} {} rfl, spares_of_forall (by decide) _⟩
  have given : Run (fun s s' : State Entry => Step s s' ∧ Spares s s') (_, _) :=
    .step hidden ⟨@Step.register _ _ _ _ _ 0 _ .new .own rfl rfl rfl, spares_of_forall (by decide) _⟩
  obtain ⟨-, restored, doc, resolved, live⟩ := @restorable_of_run _ _ _ _ 0 _ _ given rfl rfl
  obtain rfl := Option.some.inj (resolved.symm.trans (rfl : _ = some 1))
  exact ⟨_, _, _, given, rfl, ⟨rfl, rfl⟩, restored, resolved, live⟩

end EntryTable

end EditorBundles.Catalog
