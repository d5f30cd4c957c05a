import EditorBundles.Catalog.Bundles
import EditorBundles.Proofs.Catalog.FreeNames
import EditorBundles.Proofs.Catalog.Precedence

/-!
# Names of own versions

The user's own version of a theme or of an item is written to the file that its document is named after, and it is
written to the directory of its table. Two of one table that have the same name would be written to the same file.
Most of what is done to a table gives no names to its rows: whatever name a row has it had before. Where a row is
given a name, no other row may have it.
-/

namespace EditorBundles.PropertyList
set_option autoImplicit false

namespace DocumentTable

variable {docs docs' : DocumentTable} {d : Document} {held : List Nat}

/-- Documents that are there before and after have the file names that they had. -/
def KeepsNames (docs docs' : DocumentTable) : Prop :=
  ∀ doc, docs.isLive doc = true → docs'.isLive doc = true → (docs'.get doc).filename = (docs.get doc).filename

theorem KeepsNames.refl (docs : DocumentTable) : docs.KeepsNames docs := fun _ _ _ => rfl

theorem Prunes.keepsNames (h : docs.Prunes docs') : docs.KeepsNames docs' := fun doc _ live =>
  congrArg Document.filename (h.kept doc live)

/-- A document is stored before others are deleted. -/
theorem Holding.keepsNames_insert (h : docs.Holding held) (stored : d.isVacant = false)
    (prunes : (docs.insert d).1.Prunes docs') : docs.KeepsNames docs' := by
  intro doc live live'
  rw [prunes.kept doc live', Catalog.EntryTable.get_insert_of_held h stored doc (h.mem_iff.2 live)]

/-- A document is put that has the name of the one that was there. -/
theorem filename_set {docs : DocumentTable} {index : Nat} (same : d.filename = (docs.get index).filename) (doc : Nat) :
    ((docs.set index d).get doc).filename = (docs.get doc).filename := by
  by_cases here : doc = index
  · subst here
    by_cases bound : doc < docs.size
    · rw [docs.get_set_self bound, same]
    · rw [size] at bound
      simp [get, set, bound]
  · rw [docs.get_set_of_ne here]

theorem filename_modify {change : Document → Document} (keeps : ∀ d : Document, (change d).filename = d.filename)
    (docs : DocumentTable) (index doc : Nat) : ((docs.modify index change).get doc).filename = (docs.get doc).filename :=
  filename_set (keeps _) doc

end DocumentTable

end EditorBundles.PropertyList

namespace EditorBundles.Catalog
set_option autoImplicit false
open PropertyList

namespace EntryTable

variable {ρ : Type} [Row ρ] {t t' t'' : EntryTable ρ} {docs docs' docs'' : DocumentTable} {id doc : Nat} {e : Entry}
  {name : String} {given : Option (Nat × String)}

/-! ## Names -/

/-- The document of the user's own version of a row. -/
def ownDoc? (t : EntryTable ρ) (id : Nat) : Option Nat := (t.entryAt? id).bind savable?

/-- The file name of the user's own version of a row, if it has one by now. -/
def ownName? (t : EntryTable ρ) (docs : DocumentTable) (id : Nat) : Option String :=
  ((t.ownDoc? id).map fun doc => (docs.get doc).filename).filter (· ≠ "")

/-- No own version has the name. -/
def Lacks (t : EntryTable ρ) (docs : DocumentTable) (name : String) : Prop := ∀ id, t.ownName? docs id ≠ some name

/-- No two own versions have the same name. -/
def NamesApart (t : EntryTable ρ) (docs : DocumentTable) : Prop :=
  ∀ id other name, t.ownName? docs id = some name → t.ownName? docs other = some name → id = other

/-- Where an own version has a name, there is a file that has it in a directory. -/
def Written (t : EntryTable ρ) (docs : DocumentTable) (fs : FileSystem) (dir name : String) : Prop :=
  ∀ id, t.ownName? docs id = some name → fs.pathExists (Path.join dir name) = true

/-- A copy of the factory version of a row, if one will be made, has a name that no own version has. -/
def Adoptable (t : EntryTable ρ) (docs : DocumentTable) (id : Nat) : Prop :=
  ∀ e doc, t.entryAt? id = some e → savable? e = none → e.factoryDoc = some doc → t.Lacks docs (docs.get doc).filename

theorem ownDoc?_eq_some : t.ownDoc? id = some doc ↔
    ∃ e, t.entryAt? id = some e ∧ e.locality.own = true ∧ e.ownDoc = some doc := by
  rw [ownDoc?, Option.bind_eq_some_iff]
  refine exists_congr fun e => and_congr_right fun _ => ?_
  rw [savable?]
  split <;> simp [*]

theorem ownName?_eq_some : t.ownName? docs id = some name ↔
    ∃ doc, t.ownDoc? id = some doc ∧ (docs.get doc).filename = name ∧ name ≠ "" := by
  rw [ownName?, Option.filter_eq_some_iff, Option.map_eq_some_iff, decide_eq_true_eq, exists_and_right.symm]
  exact exists_congr fun doc => and_assoc

/-- Having no name is no name. -/
theorem lacks_empty (t : EntryTable ρ) (docs : DocumentTable) : t.Lacks docs "" := by
  intro id named
  obtain ⟨doc, -, -, present⟩ := ownName?_eq_some.1 named
  exact present rfl

/-- No own version has the name that is chosen, but for those that no file holds yet. -/
theorem Written.lacks_freeName {fs : FileSystem} {dir base extension : String}
    (h : t.Written docs fs dir (freeName fs dir base extension)) (isExtension : IsExtension extension) :
    t.Lacks docs (freeName fs dir base extension) := by
  intro id named
  have taken := h id named
  rw [pathExists_freeName fs dir base isExtension] at taken
  exact Bool.noConfusion taken

/-! ## What becomes of the names -/

/-- Each own version has its document. -/
def Stored (t : EntryTable ρ) (docs : DocumentTable) : Prop := ∀ id doc, t.ownDoc? id = some doc → docs.isLive doc = true

/-- The name of a row is the one that it had, or the one that it is given. -/
def NamesFrom (given : Option (Nat × String)) (t : EntryTable ρ) (docs : DocumentTable) (t' : EntryTable ρ)
    (docs' : DocumentTable) : Prop :=
  ∀ id name, t'.ownName? docs' id = some name → (id, name) ∈ given ∨ t.ownName? docs id = some name

theorem NamesFrom.named (h : NamesFrom none t docs t' docs') (named : t'.ownName? docs' id = some name) :
    t.ownName? docs id = some name :=
  (h id name named).resolve_left fun nothing => nomatch nothing

theorem NamesFrom.or (h : NamesFrom none t docs t' docs') (given : Option (Nat × String)) :
    NamesFrom given t docs t' docs' :=
  fun _ _ named => .inr (h.named named)

theorem NamesFrom.refl (t : EntryTable ρ) (docs : DocumentTable) : NamesFrom none t docs t docs :=
  fun _ _ named => .inr named

theorem NamesFrom.trans (first : NamesFrom none t docs t' docs') (second : NamesFrom none t' docs' t'' docs'') :
    NamesFrom none t docs t'' docs'' := fun _ _ named => .inr (first.named (second.named named))

/-- Names are apart as they were, and the one that is given is free. -/
theorem NamesApart.of_namesFrom (h : t.NamesApart docs) (names : NamesFrom given t docs t' docs')
    (free : ∀ id name, (id, name) ∈ given → ∀ other, t.ownName? docs other = some name → other = id) :
    t'.NamesApart docs' := by
  intro id other name named named'
  rcases names id name named with new | old <;> rcases names other name named' with new' | old'
  · rw [new] at new'
    exact congrArg Prod.fst (Option.some.inj new')
  · exact (free id name new other old').symm
  · exact free other name new' id old
  · exact h id other name old old'

theorem NamesApart.quiet (h : t.NamesApart docs) (names : NamesFrom none t docs t' docs') : t'.NamesApart docs' :=
  h.of_namesFrom names fun _ _ nothing => nomatch nothing

/-- A row is given a name that no row has. -/
theorem NamesApart.give (h : t.NamesApart docs) (names : NamesFrom (some (id, name)) t docs t' docs')
    (free : t.Lacks docs name) : t'.NamesApart docs' := by
  refine h.of_namesFrom names ?_
  rintro id name ⟨⟩ other named
  exact absurd named (free other)

/-- The documents of a table alone are changed, and those of own versions keep their names. -/
theorem namesFrom_docs (kept : ∀ id doc, t.ownDoc? id = some doc → (docs'.get doc).filename = (docs.get doc).filename) :
    NamesFrom none t docs t docs' := by
  intro id name named
  obtain ⟨doc, own, rfl, present⟩ := ownName?_eq_some.1 named
  exact .inr (ownName?_eq_some.2 ⟨doc, own, (kept id doc own).symm, present⟩)

/-- An own version has the document that it had, or the one that arrived. -/
theorem Brings.ownDoc? {arrived : Option Arrival} (h : Brings arrived t t') (own : t'.ownDoc? id = some doc) :
    (∃ a ∈ arrived, a.row = id ∧ a.loc = { own := true } ∧ a.doc = doc) ∨ t.ownDoc? id = some doc := by
  obtain ⟨e', found, flag, named⟩ := ownDoc?_eq_some.1 own
  rcases h id e' found { own := true } .own (Entry.names_own.2 flag) with
    ⟨a, member, row, from_, there⟩ | ⟨-, e, before, names, same⟩
  · exact .inl ⟨a, member, row, from_, Option.some.inj (there.symm.trans named)⟩
  · exact .inr (ownDoc?_eq_some.2 ⟨e, before, Entry.names_own.1 names, same.symm.trans named⟩)

/-- What is named after an operation was named before, but for the document that arrived. -/
theorem Brings.namesFrom {arrived : Option Arrival} (h : Brings arrived t t') (kept : docs.KeepsNames docs')
    (stored : t.Stored docs) (stored' : t'.Stored docs')
    (gives : ∀ a ∈ arrived, a.loc = { own := true } → docs'.isLive a.doc = true →
      (a.row, (docs'.get a.doc).filename) ∈ given) : NamesFrom given t docs t' docs' := by
  intro id name named
  obtain ⟨doc, own, rfl, present⟩ := ownName?_eq_some.1 named
  rcases h.ownDoc? own with ⟨a, member, rfl, from_, rfl⟩ | before
  · exact .inl (gives a member from_ (stored' _ _ own))
  · exact .inr (ownName?_eq_some.2 ⟨doc, before, (kept doc (stored id doc before) (stored' id doc own)).symm, present⟩)

/-- Where nothing arrives, no name is given. -/
theorem Brings.namesFrom_none (h : Brings none t t') (kept : docs.KeepsNames docs') (stored : t.Stored docs)
    (stored' : t'.Stored docs') : NamesFrom none t docs t' docs' :=
  h.namesFrom kept stored stored' fun _ nothing => nomatch nothing

/-- What arrives gives its row the name of its document. -/
theorem Brings.namesFrom_some {a : Arrival} (h : Brings (some a) t t') (kept : docs.KeepsNames docs')
    (stored : t.Stored docs) (stored' : t'.Stored docs') :
    NamesFrom (some (a.row, (docs'.get a.doc).filename)) t docs t' docs' := by
  refine h.namesFrom kept stored stored' ?_
  rintro _ ⟨⟩ - -
  rfl

/-- A version that is not the user's own gives no name. -/
theorem Brings.namesFrom_factory {a : Arrival} (h : Brings (some a) t t') (factory : a.loc.own = false)
    (kept : docs.KeepsNames docs') (stored : t.Stored docs) (stored' : t'.Stored docs') : NamesFrom none t docs t' docs' := by
  refine h.namesFrom kept stored stored' ?_
  rintro _ ⟨⟩ own
  rw [own] at factory
  cases factory

end EntryTable

end EditorBundles.Catalog
