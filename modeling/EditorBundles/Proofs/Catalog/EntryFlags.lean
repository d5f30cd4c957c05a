import EditorBundles.Proofs.Catalog.ItemTables

/-!
# Flags of themes and items

The flags of a bundle do not always say which documents it names. Those of themes and items do: whatever is done to a
catalog, a document is given to such an entry together with its flag, and is taken from it together with its flag.
-/

namespace EditorBundles.Catalog
set_option autoImplicit false
open PropertyList

/-! ## Entries -/

namespace Entry

variable {e : Entry} {loc : Locality}

theorem agrees_tombstone : tombstone.Agrees := ⟨rfl, rfl⟩

/-- A document that is recorded sets the flag of its locality. -/
theorem Agrees.registered (h : e.Agrees) (source : loc.IsSource) (doc : Nat) (d : Document) :
    (e.registered doc loc d).Agrees := by
  cases source with
  | pristine =>
    have own : (e.locality.union { pristine := true }).own = e.ownDoc.isSome := (Bool.or_false _).trans h.own
    have factory : (e.locality.union { pristine := true }).isFactory = true := by
      simp [Locality.union, Locality.isFactory]
    rw [Entry.registered, if_neg Bool.false_ne_true]
    split
    · -- the document in effect is that of the installed version
      rename_i installed
      have before : e.locality.isFactory = true := by
        rw [Locality.isFactory, installed.2, Bool.or_true]
      exact ⟨own, factory.trans (before.symm.trans h.factory)⟩
    · exact ⟨own, factory⟩
  | installed =>
    rw [Entry.registered, if_neg Bool.false_ne_true, if_neg (by simp)]
    exact ⟨(Bool.or_false _).trans h.own, by simp [Entry.identify, Locality.union, Locality.isFactory]⟩
  | own =>
    rw [Entry.registered, if_pos rfl]
    refine ⟨Bool.or_true _, ?_⟩
    simpa [Entry.identify, Locality.union, Locality.isFactory] using h.factory

/-- An entry that is hidden without its own version. -/
theorem Agrees.concealed (h : e.Agrees) :
    Agrees { e.disowned with locality := { e.disowned.locality with disabled := true } } := by
  obtain ⟨-, ownDoc, own, factoryDoc, isFactory, -⟩ := Entry.disowned_eq h
  constructor
  · rw [ownDoc]
    exact own
  · rw [factoryDoc, ← h.factory]
    exact isFactory

end Entry

/-! ## Tables -/

namespace EntryTable

/-- Entries name the documents that their flags say if they did so before. -/
def KeepsFlags (t t' : EntryTable Entry) : Prop := Alters Entry.Agrees (fun e e' => e.Agrees → e'.Agrees) t t'

variable {t t' t'' : EntryTable Entry}

theorem mem_of_entryAt? {id : Nat} {e : Entry} (found : t.entryAt? id = some e) : e ∈ t.rows := by
  obtain ⟨row, there, rfl⟩ := row?_of_entryAt? found
  exact mem_of_row? there

theorem KeepsFlags.refl (t : EntryTable Entry) : KeepsFlags t t := Alters.refl t

theorem KeepsFlags.trans (first : KeepsFlags t t') (second : KeepsFlags t' t'') : KeepsFlags t t'' :=
  Alters.trans first (evolves_keeps Entry.agrees_tombstone) second

theorem keepsFlags_move {N : Prop} {s s' : List Nat × EntryTable Entry × DocumentTable} (move : Move N s s') :
    KeepsFlags s.2.1 s'.2.1 := by
  cases move with
  | store => exact .refl _
  | insert source => exact alters_insert ((Entry.live_new source _).identify _).toAgrees _
  | register source => exact alters_register fun _ _ agrees => agrees.registered source _ _
  | edit edited => exact alters_editable? edited fun _ _ _ _ _ agrees => ⟨rfl, agrees.factory⟩
  | drop => exact alters_drop Entry.agrees_tombstone fun _ _ _ _ agrees => agrees_dropVersions agrees _
  | delete deleted => exact alters_delete Entry.agrees_tombstone (fun _ _ _ agrees => agrees.concealed) deleted
  | restore => exact alters_restore fun _ _ _ agrees => ⟨agrees.own, agrees.factory⟩
  | mark => exact alters_modifyEntry fun _ _ agrees => ⟨agrees.own, agrees.factory⟩

theorem keepsFlags_moves {N : Prop} {s s' : List Nat × EntryTable Entry × DocumentTable} (moves : Moves N s s') :
    KeepsFlags s.2.1 s'.2.1 := by
  induction moves with
  | refl => exact .refl _
  | tail _ move ih => exact ih.trans (keepsFlags_move move)

end EntryTable

/-! ## Catalogs -/

namespace Database
open EntryTable (KeepsFlags)

variable {W : Document → Prop} {N : Prop} {s s' : List Nat × Database}

/-- Themes are given documents by what is done to their table alone. -/
theorem keepsFlags_themes_move (move : Move W N s s') : KeepsFlags s.2.themes s'.2.themes := by
  cases move with
  | themes change => exact EntryTable.keepsFlags_moves change.anyMoves
  | _ => exact .refl _

theorem keepsFlags_themes (moves : Moves W N s s') : KeepsFlags s.2.themes s'.2.themes := by
  induction moves with
  | refl => exact .refl _
  | tail _ move ih => exact ih.trans (keepsFlags_themes_move move)

end Database

variable {allowed : Catalog → Operation → Prop} {c : Catalog}

/-- Over every run the flags of all themes and of all items say which documents they name. -/
theorem flags_of_reachable (reached : Reachable allowed c) : (∀ e ∈ c.db.themes.rows, e.Agrees) ∧
    ∀ b ∈ c.db.bundles.rows, ∀ kind, ∀ e ∈ (b.items.get kind).rows, e.Agrees := by
  constructor
  · refine reached.induct (P := fun db => ∀ e ∈ db.themes.rows, e.Agrees) (fun _ member => absurd member List.not_mem_nil)
      (fun c h => ?_) fun _ _ _ h _ runs => ?_
    · exact (Database.keepsFlags_themes (moves_resume (W := fun _ => True) (N := True) [] c (.inl trivial))).all_rows h
    · have moves := Operation.moves (W := fun _ => True) (N := True) [] (fun _ _ _ => trivial) (.inl trivial) runs
      exact (Database.keepsFlags_themes moves).all_rows h
  · intro b member kind e item
    exact ((inOrder_of_reachable reached b member kind).rows e item).agrees

end EditorBundles.Catalog
