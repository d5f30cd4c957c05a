import EditorBundles.Proofs.Catalog.Families

/-!
# File names over runs of a catalog

A file name is chosen when a theme is made and when an item is written for the first time, and a copy of a factory
version has the name of that version. What is chosen is free among the files, but an own version that no file holds yet
may have it already. In runs where that does not happen no two own versions of a family have the same name.
-/

namespace EditorBundles.Catalog
set_option autoImplicit false
open PropertyList

/-! ## New themes -/

namespace EntryTable

variable {ρ : Type} [Row ρ] {t : EntryTable ρ} {docs : DocumentTable} {id doc : Nat} {e : Entry}

/-- A new row takes the place of none, or of one that is gone. -/
theorem snd_insert_ne {loc : Locality} (found : t.entryAt? id = some e) (here : e.isTombstone = false) :
    (t.insert doc loc docs).2 ≠ id := by
  rintro rfl
  obtain ⟨row, there, rfl⟩ := row?_of_entryAt? found
  rw [insert] at there
  cases place : t.findEntry? Entry.isTombstone with
  | some id =>
    obtain ⟨bound, gone, -⟩ := List.findIdx?_eq_some_iff_getElem.1 place
    rw [place, row?, List.getElem?_eq_getElem bound, Option.some.injEq] at there
    rw [there, here] at gone
    cases gone
  | none =>
    rw [place] at there
    exact absurd (lt_of_row? there) (Nat.lt_irrefl _)

theorem ownDoc?_insert (t : EntryTable ρ) (doc : Nat) (docs : DocumentTable) (other : Nat) :
    (t.insert doc { own := true } docs).1.ownDoc? other =
      if other = (t.insert doc { own := true } docs).2 then some doc else t.ownDoc? other := by
  rw [ownDoc?, entryAt?_insert]
  split <;> rfl

theorem ownDoc?_mark (t : EntryTable ρ) (id other : Nat) (b : Bool) :
    (t.modifyEntry id fun e => { e with modified := b }).ownDoc? other = t.ownDoc? other := by
  rw [ownDoc?, ownDoc?]
  by_cases same : other = id
  · subst same
    rw [entryAt?_modifyEntry_self]
    cases t.entryAt? other <;> rfl
  · rw [entryAt?, row?_modifyEntry_of_ne t same, entryAt?]

end EntryTable

variable {c : Catalog}

/-- A new theme is marked as changed in a new row. -/
theorem newTheme_eq (c : Catalog) (name : String) :
    let created := c.createDoc name (some (freeName c.files c.config.ownThemes name ".tmTheme"))
    let docs := created.1.db.docs.modify created.2 addColors
    (c.newTheme name).2 = (c.db.themes.insert created.2 { own := true } docs).2 ∧
      (c.newTheme name).1.db = { c.db with
        themes := (c.db.themes.insert created.2 { own := true } docs).1.modifyEntry (c.newTheme name).2
          fun e => { e with modified := true }
        docs } := ⟨rfl, rfl⟩

/-- A new theme has the name that is chosen, and the others keep theirs. -/
theorem ownName?_newTheme (owns : c.db.Owns []) (name : String) (other : Nat) :
    (c.newTheme name).1.db.themes.ownName? (c.newTheme name).1.db.docs other =
      if other = (c.newTheme name).2 then some (freeName c.files c.config.ownThemes name ".tmTheme")
      else c.db.themes.ownName? c.db.docs other := by
  obtain ⟨left, holding⟩ := owns.holding
  obtain ⟨chosen, kept⟩ := filename_newTheme holding name (freeName c.files c.config.ownThemes name ".tmTheme")
  obtain ⟨row, tables⟩ := newTheme_eq c name
  have present := freeName_ne_empty c.files c.config.ownThemes name isExtension_theme
  rw [tables]
  generalize (c.newTheme name).2 = id at row
  generalize freeName c.files c.config.ownThemes name ".tmTheme" = filename at *
  generalize c.createDoc name (some filename) = created at *
  generalize created.1.db.docs.modify created.2 addColors = docs at *
  subst row
  rw [EntryTable.ownName?, EntryTable.ownDoc?_mark, EntryTable.ownDoc?_insert]
  split
  · rw [Option.map_some, chosen, Option.filter_some, if_pos (decide_eq_true present)]
  · rw [EntryTable.ownName?]
    cases found : c.db.themes.ownDoc? other with
    | none => rfl
    | some doc =>
      rw [Option.map_some, Option.map_some, kept doc (holding.mem_iff.2 ((owns.owned .themes).stored other doc found))]

/-- Of two themes of one name the second is given the name of the first, as long as no file holds that one. -/
theorem ownName?_newTheme_newTheme (owns : c.db.Owns []) (name : String) :
    let first := c.newTheme name
    let second := first.1.newTheme name
    first.2 ≠ second.2 ∧ ∀ row, row = first.2 ∨ row = second.2 → second.1.db.themes.ownName? second.1.db.docs row =
      some (freeName c.files c.config.ownThemes name ".tmTheme") := by
  intro first second
  have owns₁ : (c.newTheme name).1.db.Owns [] :=
    owns.moves (moves_newTheme (W := fun _ => True) (N := True) [] c name (.inl trivial))
  have files : first.1.files = c.files := rfl
  have config : first.1.config = c.config := rfl
  obtain ⟨row, tables⟩ := newTheme_eq c name
  have here : ∃ e, first.1.db.themes.entryAt? first.2 = some e ∧ e.isTombstone = false := by
    rw [tables, EntryTable.entryAt?_modifyEntry_self, row, EntryTable.entryAt?_insert, if_pos rfl]
    exact ⟨_, rfl, rfl⟩
  obtain ⟨e, found, here⟩ := here
  have ne : second.2 ≠ first.2 := by
    rw [(newTheme_eq first.1 name).1]
    exact EntryTable.snd_insert_ne found here
  refine ⟨ne.symm, ?_⟩
  rintro _ (rfl | rfl)
  · rw [ownName?_newTheme owns₁, if_neg ne.symm, ownName?_newTheme owns, if_pos rfl]
  · rw [ownName?_newTheme owns₁, if_pos rfl, files, config]

/-! ## Runs -/

/-- The catalogs that are reached over regular file systems without giving an own version a name that another one of its
family has. -/
inductive Orderly : Catalog → Prop where
  | opened {config : Config} {files files' : FileSystem} {identities : Identities} {c : Catalog} (regular : files.Regular)
      (empty : openingTables config files = {}) (opens : openAt config files identities = (files', .ok c)) : Orderly c
  | reopened {config : Config} {files files' : FileSystem} {identities : Identities} {before c : Catalog}
      (regular : files.Regular) (reached : Orderly before) (same : openingTables config files = before.db)
      (opens : openAt config files identities = (files', .ok c)) : Orderly c
  | next {c c' : Catalog} {op : Operation} (reached : Orderly c) (unclaimed : c.Unclaimed op) (runs : op.run? c = some c') :
      Orderly c'

namespace Orderly

variable {c : Catalog}

theorem reachable (h : Orderly c) : Reachable (fun _ _ => True) c := by
  induction h with
  | opened _ empty opens => exact .opened empty opens
  | reopened _ _ same opens ih => exact .reopened ih same opens
  | next _ _ runs ih => exact .next ih trivial runs

/-- Over every such run names are apart. -/
theorem namesApart (h : Orderly c) : c.db.NamesApart := by
  have resumed {start : Catalog} (owns : start.db.Owns []) (apart : start.db.NamesApart) (regular : start.files.Regular) :
      start.resume.1.db.NamesApart :=
    apart.moves owns (moves_resume (W := fun _ => True) [] start (.inr regular))
  induction h with
  | @opened config files _ _ _ regular empty opens =>
    obtain ⟨start, tables, rfl, found⟩ := resume_of_openAt opens
    have none_ : start.db = {} := tables.trans empty
    refine resumed (none_ ▸ Database.owns_empty) (none_ ▸ Database.namesApart_empty) (found ▸ ?_)
    exact (regular.createDirectories config.dataDir).load config.snapshotPath config.rebuild
  | @reopened config files _ _ before _ regular reached same opens ih =>
    obtain ⟨start, tables, rfl, found⟩ := resume_of_openAt opens
    have known : start.db = before.db := tables.trans same
    refine resumed (known ▸ owns_of_reachable reached.reachable) (known ▸ ih) (found ▸ ?_)
    exact (regular.createDirectories config.dataDir).load config.snapshotPath config.rebuild
  | @next c c' op reached unclaimed runs ih =>
    have owns := owns_of_reachable reached.reachable
    obtain ⟨left, holding⟩ := owns.holding
    exact ih.moves owns (Operation.moves (W := fun _ => True) [] (fun _ _ _ => trivial)
      (.inr ⟨⟨_, holding⟩, (owns.owned .themes).stored, unclaimed⟩) runs)

end Orderly

/-- Two own versions of one family have different file names, if they have any. -/
theorem ownName?_ne_of_orderly {c : Catalog} (reached : Orderly c) {f : Family} {id other : Nat} {name : String}
    (ne : other ≠ id) (named : (c.db.family f).ownName? c.db.docs id = some name) :
    (c.db.family f).ownName? c.db.docs other ≠ some name :=
  fun same => ne (reached.namesApart f other id name same named)

/-- Two themes are made that have different names, in a catalog that was opened where there are no files. -/
theorem ownName?_ne_of_orderly_themes : ∃ c, Orderly c ∧ (c.db.family .themes).ownName? c.db.docs 0 = some "A.tmTheme" ∧
    (c.db.family .themes).ownName? c.db.docs 1 = some "B.tmTheme" ∧
    (c.db.family .themes).ownName? c.db.docs 1 ≠ some "A.tmTheme" := by
  obtain ⟨empty, c, files, opens, bare⟩ := bare_openAt { nth := fun _ => "A" }
  have opened : Orderly c := .opened ⟨by decide, by simp [Entries.keys]⟩ empty opens
  have chosen (dir name : String) : freeName c.files dir name ".tmTheme" = legalName name ++ ".tmTheme" :=
    bare.files ▸ freeName_bare dir name isExtension_theme
  have rows : (c.newTheme "A").2 = 0 ∧ ((c.newTheme "A").1.newTheme "B").2 = 1 := by
    obtain ⟨config, db, files, identities, dirty, lastFlush, pending, complete⟩ := c
    obtain ⟨rfl, rfl⟩ := bare
    exact ⟨rfl, rfl⟩
  have unnamed (id : Nat) : c.db.themes.ownName? c.db.docs id = none := by
    rw [bare.tables]
    rfl
  have names := ownName?_newTheme (owns_of_reachable opened.reachable) "A"
  have first : Orderly (c.newTheme "A").1 := by
    refine opened.next (show c.Unclaimed (.newTheme "A") from fun id named => ?_) rfl
    rw [unnamed] at named
    cases named
  have names' := ownName?_newTheme (owns_of_reachable first.reachable) "B"
  have second : Orderly ((c.newTheme "A").1.newTheme "B").1 := by
    refine first.next (show (c.newTheme "A").1.Unclaimed (.newTheme "B") from fun id named => ?_) rfl
    rw [names, unnamed] at named
    split at named
    · rw [chosen] at named
      exact absurd (named.trans (congrArg some (chosen _ "B"))) (by decide)
    · cases named
  have zero : (((c.newTheme "A").1.newTheme "B").1.db.family .themes).ownName? ((c.newTheme "A").1.newTheme "B").1.db.docs 0 =
      some "A.tmTheme" := by
    refine (names' 0).trans ?_
    rw [rows.2, if_neg Nat.zero_ne_one, names, rows.1, if_pos rfl, chosen]
    rfl
  have one : (((c.newTheme "A").1.newTheme "B").1.db.family .themes).ownName? ((c.newTheme "A").1.newTheme "B").1.db.docs 1 =
      some "B.tmTheme" := by
    refine (names' 1).trans ?_
    rw [rows.2, if_pos rfl]
    exact congrArg some (chosen _ "B")
  exact ⟨_, second, zero, one, ownName?_ne_of_orderly second Nat.one_ne_zero zero⟩

end EditorBundles.Catalog
