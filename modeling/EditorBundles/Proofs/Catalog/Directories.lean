import EditorBundles.Proofs.Catalog.OperationMoves
import EditorBundles.Proofs.Catalog.RowChanges

/-!
# Directories of bundles

A bundle gets its directory when a scan finds it, or when it is saved for the first time. All else that is done to a
catalog leaves every bundle in its directory. A scan adds a row only for a directory that none has, and so directories
stay apart as long as no bundle is saved under the name of another one.
-/

namespace EditorBundles.Catalog
set_option autoImplicit false
open PropertyList

/-- What an entry becomes that is not removed: if it is gone it was so before, and it has no version if it had none. -/
def Entry.Stays (e e' : Entry) : Prop :=
  e'.isTombstone = true → e.isTombstone = true ∧ (e.locality.hasSource = false → e'.locality.hasSource = false)

namespace Entry

variable {e e' : Entry} {loc : Locality}

theorem Stays.refl (e : Entry) : e.Stays e := fun gone => ⟨gone, id⟩

/-- An entry is recorded with a version if it is not gone, or if it has the version already. -/
theorem stays_registered (source : loc.IsSource) (there : e.isTombstone = false ∨ e.locality.hasSource = true) (doc : Nat)
    (d : Document) : e.Stays (e.registered doc loc d) := by
  intro gone
  rw [isTombstone, locality_registered] at gone
  have before : e.isTombstone = true := by
    cases source <;> simpa [Locality.union, isTombstone] using gone
  have source : e.locality.hasSource = true := there.resolve_left fun here => Bool.noConfusion (here.symm.trans before)
  exact ⟨before, fun none_ => Bool.noConfusion (none_.symm.trans source)⟩

theorem stays_dropVersions (e : Entry) (loc : Locality) : e.Stays (EntryTable.dropVersions e loc).1 := by
  intro gone
  simp only [isTombstone, EntryTable.dropVersions, Locality.without, Bool.and_eq_true] at gone
  refine ⟨gone.1, fun none_ => ?_⟩
  simp only [Locality.hasSource, Bool.or_eq_false_iff] at none_
  simp [Locality.hasSource, EntryTable.dropVersions, Locality.without, none_]

theorem stays_disowned (e : Entry) : e.Stays e.disowned := by
  rw [disowned]
  split
  · refine fun gone => ⟨gone, fun none_ => ?_⟩
    simp only [Locality.hasSource, Bool.or_eq_false_iff] at none_ ⊢
    simp [none_]
  · exact .refl e

theorem stays_uninstalled (e : Entry) : e.Stays e.uninstalled := by
  rw [uninstalled]
  split
  · refine fun gone => ⟨gone, fun none_ => ?_⟩
    simp only [Locality.hasSource, Bool.or_eq_false_iff] at none_ ⊢
    simp [none_]
  · exact .refl e

end Entry

/-! ## Tables of bundles -/

namespace EntryTable

variable {t t' t'' : EntryTable Bundle} {docs docs' : DocumentTable} {id : Nat} {b b' : Bundle} {dirName : String}
  {loc : Locality}

/-- The bundle is in no directory, and if it is gone it has no version. -/
def Nowhere (b : Bundle) : Prop := b.dirName = "" ∧ (b.entry.isTombstone = true → b.entry.locality.hasSource = false)

/-- The bundle stays in its directory. -/
def StaysIn (b b' : Bundle) : Prop := b'.dirName = b.dirName ∧ b.entry.Stays b'.entry

/-- Every bundle is where it was before or in no directory. -/
def KeepsDirs (t t' : EntryTable Bundle) : Prop := Alters Nowhere StaysIn t t'

theorem evolves_keepsDirs : Evolves Nowhere StaysIn where
  mark := ⟨rfl, fun _ => rfl⟩
  after bare stays := ⟨stays.1.trans bare.1, fun gone => (stays.2 gone).2 (bare.2 (stays.2 gone).1)⟩
  trans sooner later := by
    refine ⟨later.1.trans sooner.1, fun gone => ?_⟩
    obtain ⟨before, kept⟩ := later.2 gone
    obtain ⟨first, kept'⟩ := sooner.2 before
    exact ⟨first, kept ∘ kept'⟩

theorem KeepsDirs.refl (t : EntryTable Bundle) : KeepsDirs t t := Alters.refl t

theorem KeepsDirs.trans (first : KeepsDirs t t') (second : KeepsDirs t' t'') : KeepsDirs t t'' :=
  Alters.trans first evolves_keepsDirs second

theorem keepsDirs_setRow (found : t.row? id = some b) (stays : StaysIn b b') : KeepsDirs t (t.setRow id b') :=
  alters_setRow found stays

theorem keepsDirs_modify {change : Bundle → Bundle} (stays : ∀ b, StaysIn b (change b)) :
    KeepsDirs t ⟨t.rows.modify id change⟩ := by
  cases found : t.row? id with
  | none =>
    have absent : t.rows[id]? = none := found
    rw [List.modify_eq_set_getElem?, absent]
    exact .refl t
  | some b =>
    rw [modify_eq found]
    exact keepsDirs_setRow found (stays b)

theorem keepsDirs_insert (source : loc.IsSource) (t : EntryTable Bundle) (doc : Nat) (docs : DocumentTable) :
    KeepsDirs t (t.insert doc loc docs).1 := by
  have new : Nowhere (Row.ofEntry ((Entry.new loc doc).identify (docs.get doc))) :=
    ⟨rfl, fun gone => by cases source <;> cases gone⟩
  exact alters_insert new t

theorem keepsDirs_register (source : loc.IsSource)
    (there : ∀ b, t.row? id = some b → b.entry.isTombstone = false ∨ b.entry.locality.hasSource = true) (doc : Nat)
    (docs : DocumentTable) : KeepsDirs t (t.register id doc loc docs).1 :=
  alters_register fun b found => ⟨rfl, Entry.stays_registered source (there b found) doc _⟩

/-- Only an entry with a version can be edited. -/
theorem hasSource_of_editable? {e : Entry} {own : Nat} (found : t.entryAt? id = some e)
    (edited : t.editable? id docs = some (t', docs', own)) : e.locality.hasSource = true := by
  rw [editable?, found] at edited
  simp only [Locality.hasSource, Bool.or_eq_true]
  cases owned : e.locality.own with
  | true => exact .inl (.inr rfl)
  | false =>
    dsimp only [Option.bind_eq_bind, Option.bind_some] at edited
    rw [owned] at edited
    obtain ⟨source, -, edited⟩ := Option.bind_eq_some_iff.1 edited
    split at edited
    · next factory =>
      rw [Locality.isFactory, Bool.or_eq_true] at factory
      exact factory.imp_left .inl
    · cases edited

theorem keepsDirs_editable? {own : Nat} (edited : t.editable? id docs = some (t', docs', own)) : KeepsDirs t t' := by
  refine alters_editable? edited fun b _ found _ _ => ⟨rfl, fun gone => ⟨gone, fun none_ => ?_⟩⟩
  have source := hasSource_of_editable? (congrArg (Option.map Row.entry) found) edited
  exact Bool.noConfusion (none_.symm.trans source)

theorem keepsDirs_drop (t : EntryTable Bundle) (id : Nat) (loc : Locality) (docs : DocumentTable) :
    KeepsDirs t (t.drop id loc docs).1 := by
  refine alters_drop evolves_keepsDirs.mark fun b docs' _ _ => ⟨rfl, ?_⟩
  exact Entry.stays_dropVersions b.entry loc

theorem keepsDirs_dropVanished (t : EntryTable Bundle) (loc : Locality) (docs : DocumentTable) :
    KeepsDirs t (t.dropVanished loc docs).1 := by
  refine alters_dropWhere evolves_keepsDirs (fun b docs' _ => ⟨rfl, ?_⟩) _ _ _ _
  exact Entry.stays_dropVersions b.entry loc

theorem keepsDirs_delete {dir : String} {fs fs' : FileSystem} (deleted : t.delete id dir docs fs = .ok (t', docs', fs')) :
    KeepsDirs t t' :=
  alters_delete evolves_keepsDirs.mark (fun b _ _ => ⟨rfl, b.entry.stays_disowned⟩) deleted

/-- No two bundles are in the same directory. Those that are gone are in none and have no version. -/
structure Placed (t : EntryTable Bundle) : Prop where
  gone : ∀ id b, t.row? id = some b → b.entry.isTombstone = true → b.dirName = "" ∧ b.entry.locality.hasSource = false
  apart : ∀ id other b b', t.row? id = some b → t.row? other = some b' → b.dirName ≠ "" → b'.dirName = b.dirName →
    other = id

theorem placed_empty : Placed {} where
  gone id b found := by simp [row?] at found
  apart id _ b _ found := by simp [row?] at found

theorem Placed.keeps (h : Placed t) (keeps : KeepsDirs t t') : Placed t' where
  gone id b' found gone := by
    rcases keeps id b' found with new | ⟨b, before, rfl | ⟨same, stays⟩⟩
    · exact ⟨new.1, new.2 gone⟩
    · exact h.gone id b' before gone
    · obtain ⟨first, kept⟩ := stays gone
      obtain ⟨unplaced, none_⟩ := h.gone id b before first
      exact ⟨same.trans unplaced, kept none_⟩
  apart id other b b' found found' named same := by
    have before {id : Nat} {b : Bundle} (found : t'.row? id = some b) (named : b.dirName ≠ "") :
        ∃ b₀, t.row? id = some b₀ ∧ b.dirName = b₀.dirName := by
      rcases keeps id b found with new | ⟨b₀, there, rfl | stays⟩
      · exact absurd new.1 named
      · exact ⟨b, there, rfl⟩
      · exact ⟨b₀, there, stays.1⟩
    obtain ⟨b₀, there, eq⟩ := before found named
    obtain ⟨b₀', there', eq'⟩ := before found' (same ▸ named)
    exact h.apart id other b₀ b₀' there there' (eq ▸ named) (eq'.symm.trans (same.trans eq))

/-- A bundle that is not gone gets a directory that no other one is in. -/
theorem Placed.place (h : Placed t) (found : t.row? id = some b) (here : b.entry.isTombstone = false)
    (free : dirName ≠ "" → ∀ other b', t.row? other = some b' → b'.dirName = dirName → other = id) :
    Placed (t.setRow id { b with dirName }) := by
  have rows {other : Nat} {b' : Bundle} (found' : (t.setRow id { b with dirName }).row? other = some b') :
      (other = id ∧ b' = { b with dirName }) ∨ (other ≠ id ∧ t.row? other = some b') := by
    by_cases same : other = id
    · subst same
      rw [row?_setRow_self (lt_of_row? found)] at found'
      exact .inl ⟨rfl, (Option.some.inj found').symm⟩
    · rw [row?_setRow_of_ne t same] at found'
      exact .inr ⟨same, found'⟩
  constructor
  · intro other b' found' gone
    rcases rows found' with ⟨rfl, rfl⟩ | ⟨-, there⟩
    · exact absurd gone (Bool.not_eq_true _ ▸ here)
    · exact h.gone other b' there gone
  · intro one other b₁ b₂ found₁ found₂ named same
    rcases rows found₁ with ⟨rfl, rfl⟩ | ⟨ne₁, there₁⟩ <;> rcases rows found₂ with ⟨rfl, rfl⟩ | ⟨ne₂, there₂⟩
    · rfl
    · exact free named other b₂ there₂ same
    · have placed : dirName ≠ "" := fun none_ => named (same.symm.trans none_)
      exact (free placed one b₁ there₁ same.symm).symm
    · exact h.apart one other b₁ b₂ there₁ there₂ named same

end EntryTable

/-! ## Scans -/

section Scans
open EntryTable

variable {c c' : Catalog} {loc : Locality} {id doc owner : Nat} {kind : ItemKind} {dirName : String}

theorem bundles_makeManifest (c : Catalog) (bundleDir dirName : String) (factory : Option Nat) :
    (c.makeManifest bundleDir dirName factory).1.db.bundles = c.db.bundles := by
  cases factory with
  | none => exact bundles_saveDoc _ _ bundleDir
  | some factory => exact bundles_saveDoc _ _ bundleDir

theorem bundles_newManifest? {bundleDir : String} {existing : Option Nat} {manifest : Nat}
    (made : c.newManifest? bundleDir dirName loc existing = some (c', manifest)) : c'.db.bundles = c.db.bundles := by
  rw [newManifest?] at made
  split at made
  · split at made
    · obtain ⟨rfl, -⟩ := Prod.mk.inj (Option.some.inj made)
      rfl
    · cases made
  · split at made
    · obtain rfl := congrArg Prod.fst (Option.some.inj made)
      exact bundles_makeManifest c bundleDir dirName _
    · cases made

theorem hasSource_of_contains {s : Locality} (source : loc.IsSource) (contained : s.contains loc = true) :
    s.hasSource = true := by
  cases source <;> simp_all [Locality.contains, Locality.hasSource]

theorem keepsDirs_syncItems (c : Catalog) (bundleDir : String) (loc : Locality) (id : Nat) (kinds : List ItemKind) :
    KeepsDirs c.db.bundles (c.syncItems bundleDir loc id kinds).db.bundles := by
  induction kinds generalizing c with
  | nil => exact .refl _
  | cons kind kinds ih =>
    rw [syncItems]
    cases found : c.db.bundles.row? id with
    | none => exact .refl _
    | some b =>
      refine .trans ?_ (ih _)
      exact keepsDirs_setRow found ⟨rfl, .refl b.entry⟩

theorem keepsDirs_updateManifest (c : Catalog) (source : loc.IsSource)
    (there : ∀ b, c.db.bundles.row? id = some b → b.entry.isTombstone = false ∨ b.entry.locality.hasSource = true)
    (bundleDir dirName : String) :
    KeepsDirs c.db.bundles (c.updateManifest id bundleDir dirName loc).1.db.bundles := by
  rw [updateManifest]
  dsimp only
  split
  · cases (c.db.bundles.entryAt? id).bind (·.docFor loc) with
    | none => exact .refl _
    | some current =>
      dsimp only
      split
      · cases c.db.docs.load c.files (Path.join bundleDir manifestName) with
        | error fault => exact keepsDirs_drop c.db.bundles id loc _
        | ok result => exact keepsDirs_register source there _ _
      · exact .refl _
  · split
    · have same := bundles_makeManifest c bundleDir dirName (c.factoryManifest? id)
      generalize c.makeManifest bundleDir dirName (c.factoryManifest? id) = made at same
      rw [← same] at there ⊢
      exact keepsDirs_register source there _ _
    · exact keepsDirs_drop c.db.bundles id loc _

theorem keepsDirs_updateKnown (c : Catalog) (source : loc.IsSource) (root : String) (mode : ScanMode) (dirs : List String)
    (ids : List Nat) : KeepsDirs c.db.bundles (c.updateKnown root loc mode dirs ids).1.db.bundles := by
  induction ids generalizing c dirs with
  | nil => exact .refl _
  | cons id ids ih =>
    rw [updateKnown]
    cases found : (c.db.bundles.row? id).filter fun b => b.entry.locality.contains loc with
    | none => exact ih c dirs
    | some b =>
      obtain ⟨place, contained⟩ := Option.filter_eq_some_iff.1 found
      have there (b' : Bundle) (place' : c.db.bundles.row? id = some b') :
          b'.entry.isTombstone = false ∨ b'.entry.locality.hasSource = true := by
        obtain rfl := Option.some.inj (place.symm.trans place')
        exact .inr (hasSource_of_contains source contained)
      dsimp only
      split
      · split
        · exact ih c _
        · have read : KeepsDirs c.db.bundles (if mode = .rest then (c, true) else
              c.updateManifest id (Path.join root b.dirName) b.dirName loc).1.db.bundles := by
            split
            · exact .refl _
            · exact keepsDirs_updateManifest c source there _ _
          generalize (if mode = .rest then (c, true) else
            c.updateManifest id (Path.join root b.dirName) b.dirName loc) = result at read
          split
          · exact (read.trans (keepsDirs_syncItems result.1 _ loc id _)).trans (ih _ _)
          · exact read.trans (ih _ _)
      · split
        · exact ih c dirs
        · exact (keepsDirs_drop c.db.bundles id loc _).trans (ih (c.dropBundle id loc) dirs)

/-- Where no bundle has a directory, none that is not gone is in it. -/
theorem dirName_ne_of_findDir?_eq_none (none_ : c.findDir? dirName = none) {b : Bundle}
    (found : c.db.bundles.row? id = some b) (here : b.entry.isTombstone = false) : b.dirName ≠ dirName := by
  intro same
  have wrong := List.findIdx?_eq_none_iff.1 none_ b (mem_of_row? found)
  simp [here, same] at wrong

/-- A new bundle is put into a directory that no other one is in. -/
theorem placed_insertBundle (h : c.db.bundles.Placed) (source : loc.IsSource) (none_ : c.findDir? dirName = none)
    (doc : Nat) (docs : DocumentTable) :
    Placed ⟨(c.db.bundles.insert doc loc docs).1.rows.modify (c.db.bundles.insert doc loc docs).2
      fun b => { b with dirName }⟩ := by
  have inserted := row?_insert c.db.bundles doc loc docs
  have new := (inserted (c.db.bundles.insert doc loc docs).2).trans (if_pos rfl)
  rw [modify_eq new]
  have here : (Row.entry (Row.ofEntry ((Entry.new loc doc).identify (docs.get doc)) : Bundle)).isTombstone = false := by
    cases source <;> rfl
  refine (h.keeps (keepsDirs_insert source c.db.bundles doc docs)).place new here fun named other b' found same => ?_
  by_contra ne
  rw [inserted other, if_neg ne] at found
  cases gone : b'.entry.isTombstone with
  | false => exact dirName_ne_of_findDir?_eq_none none_ found gone same
  | true => exact named (same.symm.trans (h.gone other b' found gone).1)

theorem placed_addBundles (h : c.db.bundles.Placed) (source : loc.IsSource) (root : String) (mode : ScanMode)
    (dirs : List String) : (c.addBundles root loc mode dirs).db.bundles.Placed := by
  induction dirs generalizing c with
  | nil => exact h
  | cons dirName dirs ih =>
    rw [addBundles]
    dsimp only
    split
    · exact ih h
    · cases made : c.newManifest? (Path.join root dirName) dirName loc (c.findDir? dirName) with
      | none => exact ih h
      | some result =>
        have same := bundles_newManifest? made
        have placed : result.1.db.bundles.Placed := same ▸ h
        dsimp only
        cases known : c.findDir? dirName with
        | some id =>
          obtain ⟨e, found, here⟩ := here_of_findDir? known
          have there (b : Bundle) (place : result.1.db.bundles.row? id = some b) :
              b.entry.isTombstone = false ∨ b.entry.locality.hasSource = true := by
            rw [EntryTable.entryAt?, ← same, place] at found
            obtain rfl := Option.some.inj found
            exact .inl here
          refine ih (placed.keeps (.trans ?_ (keepsDirs_syncItems _ _ loc id _)))
          exact keepsDirs_register source there result.2 result.1.db.docs
        | none =>
          have none_ : result.1.findDir? dirName = none := by
            rw [findDir?, same]
            exact known
          refine ih (Placed.keeps ?_ (keepsDirs_syncItems _ _ loc _ _))
          exact placed_insertBundle placed source none_ result.2 result.1.db.docs

theorem placed_updateBundles (h : c.db.bundles.Placed) (source : loc.IsSource) (root : String) (mode : ScanMode) :
    (c.updateBundles root loc mode).db.bundles.Placed := by
  rw [updateBundles]
  split
  · exact placed_addBundles (h.keeps (keepsDirs_updateKnown c source root mode _ _)) source root mode _
  · exact h.keeps (keepsDirs_dropVanished _ loc _)

/-- A scan keeps directories apart. -/
theorem placed_update (h : c.db.bundles.Placed) (mode : ScanMode) : (c.update mode).db.bundles.Placed := by
  have themes : (if mode = .rest then c
      else (c.updateThemes c.config.pristineThemes { pristine := true }).updateThemes c.config.ownThemes
        { own := true }).db.bundles.Placed := by
    split <;> exact h
  rw [update]
  generalize (if mode = .rest then c
      else (c.updateThemes c.config.pristineThemes { pristine := true }).updateThemes c.config.ownThemes
        { own := true }) = c₁ at themes
  have installed := placed_updateBundles themes .installed c₁.config.installedBundles mode
  generalize c₁.updateBundles c₁.config.installedBundles { installed := true } mode = c₂ at installed
  have pristine := placed_updateBundles installed .pristine c₂.config.pristineBundles mode
  generalize c₂.updateBundles c₂.config.pristineBundles { pristine := true } mode = c₃ at pristine
  have own := placed_updateBundles pristine .own c₃.config.ownBundles mode
  split <;> exact own

theorem placed_resume (h : c.db.bundles.Placed) : c.resume.1.db.bundles.Placed := by
  rw [resume]
  split
  · exact h
  · exact placed_update (c := { c with pending := none }) h .languages
  · exact placed_update (c := { c with pending := none }) h _

end Scans

/-! ## Bundles -/

section Operations
open EntryTable

variable {c c' : Catalog} {loc : Locality} {id doc owner : Nat} {kind : ItemKind} {dirName : String}

/-- The directory that a bundle gets when it is saved for the first time is one that no other bundle is in. -/
def Placeable (c : Catalog) (id : Nat) : Prop :=
  ∀ b own d, c.db.bundles.row? id = some b → b.dirName = "" → savable? b.entry = some own → c.liveDoc? own = some d →
    ∀ other b', c.db.bundles.row? other = some b' →
      b'.dirName ≠ freeName c.files c.config.ownBundles ((d.rootString? "name").getD "") ".tmbundle"

theorem placed_saveBundle? {result : Except Fault Unit} (h : c.db.bundles.Placed) (free : c.Placeable id)
    (saved : c.saveBundle? id = some (c', result)) : c'.db.bundles.Placed := by
  obtain ⟨b, place, saved⟩ := Option.bind_eq_some_iff.1 saved
  cases named : savable? b.entry with
  | none =>
    rw [named] at saved
    obtain ⟨rfl, -⟩ := Prod.mk.inj (Option.some.inj saved)
    exact h
  | some own =>
    rw [named] at saved
    obtain ⟨d, live, saved⟩ := Option.bind_eq_some_iff.1 saved
    dsimp only at saved
    have placed : (c.modifyBundle id fun b' => { b' with dirName := (if b.dirName.isEmpty then
        freeName c.files c.config.ownBundles ((d.rootString? "name").getD "") ".tmbundle"
        else b.dirName) }).db.bundles.Placed := by
      rw [modifyBundle, withDb, modify_eq place]
      split
      · next unplaced =>
        -- only a bundle that is there has an own version
        have here : b.entry.isTombstone = false := by
          cases gone : b.entry.isTombstone with
          | false => rfl
          | true =>
            have none_ := (h.gone id b place gone).2
            simp only [Locality.hasSource, Bool.or_eq_false_iff] at none_
            rw [savable?, none_.1.2] at named
            cases named
        refine h.place place here fun _ other b' found same => ?_
        exact absurd same (free b own d place (String.isEmpty_iff.1 unplaced) named live other b' found)
      · exact h.keeps (keepsDirs_setRow place ⟨rfl, .refl b.entry⟩)
    generalize (if b.dirName.isEmpty then
      freeName c.files c.config.ownBundles ((d.rootString? "name").getD "") ".tmbundle" else b.dirName) = dirName
      at saved placed
    generalize c.modifyBundle id (fun b => { b with dirName }) = c₁ at saved placed
    cases made : c₁.files.createDirectories (c₁.ownDir dirName) with
    | mk files result =>
      rw [made] at saved
      cases result with
      | error fault =>
        obtain ⟨rfl, -⟩ := Prod.mk.inj (Option.some.inj saved)
        exact placed
      | ok _ =>
        dsimp only at saved
        have same := (bundles_saveDoc (nameDoc { c₁ with files } own fun _ => manifestName) own
          ((nameDoc { c₁ with files } own fun _ => manifestName).ownDir dirName)).trans
          (bundles_nameDoc { c₁ with files } own _)
        generalize nameDoc { c₁ with files } own (fun _ => manifestName) = c₂ at saved same
        generalize c₂.saveDoc own (c₂.ownDir dirName) = ending at saved same
        obtain ⟨c₃, result⟩ := ending
        have written : c₃.db.bundles.Placed := same ▸ placed
        cases result with
        | error fault =>
          obtain ⟨rfl, -⟩ := Prod.mk.inj (Option.some.inj saved)
          exact written
        | ok _ =>
          obtain ⟨rfl, -⟩ := Prod.mk.inj (Option.some.inj saved)
          refine written.keeps ?_
          exact keepsDirs_modify fun b => ⟨rfl, .refl b.entry⟩

theorem keepsDirs_editBundle? {own : Nat} (edited : c.editBundle? id = some (c', own)) :
    KeepsDirs c.db.bundles c'.db.bundles := by
  obtain ⟨⟨bundles, docs, doc⟩, made, edited⟩ := Option.bind_eq_some_iff.1 edited
  obtain ⟨rfl, -⟩ := Prod.mk.inj (Option.some.inj edited)
  exact keepsDirs_editable? made

theorem keepsDirs_deleteBundle? {result : Except Fault Bool} (deleted : c.deleteBundle? id = some (c', result)) :
    KeepsDirs c.db.bundles c'.db.bundles := by
  obtain ⟨b, found, deleted⟩ := Option.bind_eq_some_iff.1 deleted
  have kept : (Row.release { own := true, installed := true } b c.db.docs).1.entry = b.entry ∧
      (Row.release { own := true, installed := true } b c.db.docs).1.dirName = b.dirName := ⟨rfl, rfl⟩
  generalize Row.release { own := true, installed := true } b c.db.docs = released at deleted kept
  obtain ⟨released, docs⟩ := released
  obtain ⟨entry, dirName⟩ := kept
  dsimp only at deleted entry dirName
  rw [entry] at deleted
  split at deleted
  · obtain ⟨rfl, -⟩ := Prod.mk.inj (Option.some.inj deleted)
    exact keepsDirs_setRow found ⟨dirName, fun gone => Bool.noConfusion gone⟩
  · have uninstalled (docs : DocumentTable) : KeepsDirs c.db.bundles (c.withDb { c.db with
        bundles := c.db.bundles.setRow id { released with entry := b.entry.uninstalled }, docs }).db.bundles :=
      keepsDirs_setRow found ⟨dirName, b.entry.stays_uninstalled⟩
    split at deleted
    · obtain ⟨rfl, -⟩ := Prod.mk.inj (Option.some.inj deleted)
      exact (uninstalled _).trans (keepsDirs_drop _ id Locality.sources _)
    · split at deleted
      · obtain ⟨rfl, -⟩ := Prod.mk.inj (Option.some.inj deleted)
        exact uninstalled _
      · rename_i removed
        obtain ⟨rfl, -⟩ := Prod.mk.inj (Option.some.inj deleted)
        exact (uninstalled _).trans (keepsDirs_delete removed)

theorem keepsDirs_restoreBundle? {result : Except Fault Bool} (restored : c.restoreBundle? id = some (c', result)) :
    KeepsDirs c.db.bundles c'.db.bundles := by
  obtain ⟨b, found, restored⟩ := Option.bind_eq_some_iff.1 restored
  split at restored
  · dsimp only at restored
    split at restored
    · cases loaded : c.db.docs.load c.files (Path.join (Path.join c.config.pristineBundles b.dirName) manifestName) with
      | error fault =>
        rw [loaded] at restored
        obtain ⟨rfl, -⟩ := Prod.mk.inj (Option.some.inj restored)
        exact .refl _
      | ok stored =>
        rw [loaded] at restored
        obtain ⟨rfl, -⟩ := Prod.mk.inj (Option.some.inj restored)
        have shown : KeepsDirs c.db.bundles ((c.withDocs stored.1).modifyBundle id fun b =>
            { b with entry := { b.entry with locality := { pristine := true } } }).db.bundles :=
          keepsDirs_modify fun _ => ⟨rfl, fun gone => Bool.noConfusion gone⟩
        refine (shown.trans (keepsDirs_register .pristine ?_ stored.2 stored.1)).trans (keepsDirs_syncItems _ _ _ id _)
        intro b' place
        have put := modify_eq found fun b : Bundle => { b with entry := { b.entry with locality := { pristine := true } } }
        rw [modifyBundle, withDb, withDocs, put, row?_setRow_self (lt_of_row? found)] at place
        obtain rfl := Option.some.inj place
        exact .inl rfl
    · obtain ⟨rfl, -⟩ := Prod.mk.inj (Option.some.inj restored)
      exact .refl _
  · obtain ⟨rfl, -⟩ := Prod.mk.inj (Option.some.inj restored)
    exact .refl _

/-! ## Items -/

theorem keepsDirs_withItems (c : Catalog) (kind : ItemKind) (owner : Nat) (table : EntryTable Entry) :
    KeepsDirs c.db.bundles (c.withItems kind owner table).db.bundles :=
  keepsDirs_modify fun b => ⟨rfl, .refl b.entry⟩

theorem keepsDirs_newItem? {name : String} {i : Nat} (made : c.newItem? kind owner name = some (c', i)) :
    KeepsDirs c.db.bundles c'.db.bundles := by
  obtain ⟨items, -, made⟩ := Option.bind_eq_some_iff.1 made
  obtain ⟨rfl, -⟩ := Prod.mk.inj (Option.some.inj made)
  exact keepsDirs_withItems (c.createDoc name none).1 kind owner _

theorem keepsDirs_editItem? {own : Nat} (edited : c.editItem? kind owner id = some (c', own)) :
    KeepsDirs c.db.bundles c'.db.bundles := by
  obtain ⟨items, -, edited⟩ := Option.bind_eq_some_iff.1 edited
  obtain ⟨⟨table, docs, doc⟩, -, edited⟩ := Option.bind_eq_some_iff.1 edited
  obtain ⟨rfl, -⟩ := Prod.mk.inj (Option.some.inj edited)
  exact keepsDirs_withItems (c.withDocs docs) kind owner _

theorem placed_saveItem? {result : Except Fault Unit} (h : c.db.bundles.Placed) (free : c.Placeable owner)
    (saved : c.saveItem? kind owner id = some (c', result)) : c'.db.bundles.Placed := by
  obtain ⟨row, place, saved⟩ := Option.bind_eq_some_iff.1 saved
  obtain ⟨e, -, saved⟩ := Option.bind_eq_some_iff.1 saved
  cases named : savable? e with
  | none =>
    rw [named] at saved
    obtain ⟨rfl, -⟩ := Prod.mk.inj (Option.some.inj saved)
    exact h
  | some own =>
    rw [named] at saved
    dsimp -zeta only at saved
    extract_lets jp at saved
    -- what comes after the bundle was saved, if it never was before
    have rest (x : Catalog × Except Fault Unit) (ready : x.1.db.bundles.Placed) (saved : jp x = some (c', result)) :
        c'.db.bundles.Placed := by
      obtain ⟨c₁, bundleSaved⟩ := x
      cases bundleSaved with
      | error fault =>
        obtain ⟨rfl, -⟩ := Prod.mk.inj (Option.some.inj saved)
        exact ready
      | ok _ =>
        obtain ⟨dirName, -, saved⟩ := Option.bind_eq_some_iff.1 saved
        obtain ⟨d, -, saved⟩ := Option.bind_eq_some_iff.1 saved
        dsimp only at saved
        have same := (bundles_saveDoc (c₁.nameDoc own fun name =>
          freeName c₁.files (c₁.ownItemDir kind dirName) name kind.extension) own (c₁.ownItemDir kind dirName)).trans
            (bundles_nameDoc c₁ own _)
        generalize (c₁.nameDoc own fun name =>
          freeName c₁.files (c₁.ownItemDir kind dirName) name kind.extension).saveDoc own (c₁.ownItemDir kind dirName) = ending
          at saved same
        obtain ⟨c₃, result⟩ := ending
        have written : c₃.db.bundles.Placed := same ▸ ready
        cases result with
        | error fault =>
          obtain ⟨rfl, -⟩ := Prod.mk.inj (Option.some.inj saved)
          exact written
        | ok _ =>
          obtain ⟨rfl, -⟩ := Prod.mk.inj (Option.some.inj saved)
          refine written.keeps ?_
          exact keepsDirs_modify fun b => ⟨rfl, .refl b.entry⟩
    split at saved
    · obtain ⟨x, first, saved⟩ := Option.bind_eq_some_iff.1 saved
      exact rest x (placed_saveBundle? h free first) saved
    · exact rest (c, .ok ()) h saved

theorem keepsDirs_deleteItem? {result : Except Fault Reload} (deleted : c.deleteItem? kind owner id = some (c', result)) :
    KeepsDirs c.db.bundles c'.db.bundles := by
  obtain ⟨b, -, deleted⟩ := Option.bind_eq_some_iff.1 deleted
  obtain ⟨e, -, deleted⟩ := Option.bind_eq_some_iff.1 deleted
  split at deleted
  · obtain ⟨rfl, -⟩ := Prod.mk.inj (Option.some.inj deleted)
    exact .refl _
  · obtain ⟨rfl, -⟩ := Prod.mk.inj (Option.some.inj deleted)
    exact keepsDirs_withItems (c.withDocs _) kind owner _

theorem keepsDirs_restoreItem? {restored : Bool} (shown : c.restoreItem? kind owner id = some (c', restored)) :
    KeepsDirs c.db.bundles c'.db.bundles := by
  obtain ⟨e, -, shown⟩ := Option.bind_eq_some_iff.1 shown
  obtain ⟨items, -, shown⟩ := Option.bind_eq_some_iff.1 shown
  generalize items.restore id = ending at shown
  obtain ⟨table, done⟩ := ending
  cases done <;> obtain ⟨rfl, -⟩ := Prod.mk.inj (Option.some.inj shown)
  · exact .refl _
  · exact keepsDirs_withItems c kind owner table

/-! ## Themes and documents -/

theorem bundles_editTheme? {own : Nat} (edited : c.editTheme? id = some (c', own)) : c'.db.bundles = c.db.bundles := by
  obtain ⟨made, -, edited⟩ := Option.bind_eq_some_iff.1 edited
  obtain ⟨rfl, -⟩ := Prod.mk.inj (Option.some.inj edited)
  rfl

theorem bundles_saveTheme? {result : Except Fault Unit} (saved : c.saveTheme? id = some (c', result)) :
    c'.db.bundles = c.db.bundles := by
  obtain ⟨e, -, saved⟩ := Option.bind_eq_some_iff.1 saved
  split at saved
  · obtain ⟨rfl, -⟩ := Prod.mk.inj (Option.some.inj saved)
    rfl
  · rename_i own _
    have same := bundles_saveDoc c own c.config.ownThemes
    generalize c.saveDoc own c.config.ownThemes = ending at saved same
    obtain ⟨c₁, ended⟩ := ending
    cases ended <;> obtain ⟨rfl, -⟩ := Prod.mk.inj (Option.some.inj saved) <;> exact same

theorem bundles_deleteTheme? {result : Except Fault Unit} (deleted : c.deleteTheme? id = some (c', result)) :
    c'.db.bundles = c.db.bundles := by
  obtain ⟨e, -, deleted⟩ := Option.bind_eq_some_iff.1 deleted
  split at deleted <;> obtain ⟨rfl, -⟩ := Prod.mk.inj (Option.some.inj deleted) <;> rfl

theorem bundles_restoreTheme? {restored : Bool} (shown : c.restoreTheme? id = some (c', restored)) :
    c'.db.bundles = c.db.bundles := by
  obtain ⟨e, -, shown⟩ := Option.bind_eq_some_iff.1 shown
  generalize c.db.themes.restore id = ending at shown
  obtain ⟨themes, done⟩ := ending
  cases done <;> obtain ⟨rfl, -⟩ := Prod.mk.inj (Option.some.inj shown) <;> rfl

theorem bundles_write? {content : Document} (wrote : c.write? doc content = some c') : c'.db.bundles = c.db.bundles := by
  obtain ⟨d, -, wrote⟩ := Option.bind_eq_some_iff.1 wrote
  split at wrote
  · cases wrote
  · obtain rfl := Option.some.inj wrote
    rfl

theorem bundles_saveThemes (c : Catalog) (ids : List Nat) : (c.saveThemes ids).1.db.bundles = c.db.bundles := by
  induction ids generalizing c with
  | nil => rfl
  | cons id ids ih =>
    rw [saveThemes]
    split
    · exact ih c
    · rename_i own _
      have same := bundles_saveDoc c own c.config.ownThemes
      generalize c.saveDoc own c.config.ownThemes = ending at same
      obtain ⟨c₁, ended⟩ := ending
      cases ended with
      | error fault => exact same
      | ok _ => exact (ih _).trans same

theorem bundles_commit (c : Catalog) : c.commit.1.db.bundles = c.db.bundles := by
  have saved := bundles_saveThemes c (List.range c.db.themes.size)
  rw [commit]
  generalize c.saveThemes (List.range c.db.themes.size) = ending at saved
  obtain ⟨c₁, result⟩ := ending
  cases result with
  | error fault => exact saved
  | ok _ =>
    show c₁.markDirty.flush.1.db.bundles = c.db.bundles
    rw [flush_db]
    exact saved

/-! ## Operations -/

/-- No bundle is saved for the first time under the name of another one's directory. -/
def Unplaced (c : Catalog) : Operation → Prop
  | .saveBundle id => c.Placeable id
  | .saveItem _ owner _ => c.Placeable owner
  | _ => True

/-- An operation that gives a result next to the catalog. -/
theorem placed_of_map {α : Type} {run : Option (Catalog × α)}
    (placed : ∀ c' result, run = some (c', result) → c'.db.bundles.Placed) (runs : run.map Prod.fst = some c') :
    c'.db.bundles.Placed := by
  obtain ⟨⟨c', result⟩, ran, rfl⟩ := Option.map_eq_some_iff.1 runs
  exact placed c' result ran

/-- Every operation that gives no bundle the directory of another one keeps directories apart. -/
theorem Operation.placed {op : Operation} (h : c.db.bundles.Placed) (free : c.Unplaced op)
    (runs : op.run? c = some c') : c'.db.bundles.Placed := by
  cases op with
  | update mode =>
    obtain rfl := Option.some.inj runs
    exact placed_update h mode
  | resume =>
    obtain rfl := Option.some.inj runs
    exact placed_resume h
  | newBundle name =>
    obtain rfl := Option.some.inj runs
    exact h.keeps (keepsDirs_insert .own c.db.bundles _ _)
  | editBundle id => exact placed_of_map (fun _ _ ran => h.keeps (keepsDirs_editBundle? ran)) runs
  | saveBundle id => exact placed_of_map (fun _ _ ran => placed_saveBundle? h free ran) runs
  | deleteBundle id => exact placed_of_map (fun _ _ ran => h.keeps (keepsDirs_deleteBundle? ran)) runs
  | restoreBundle id => exact placed_of_map (fun _ _ ran => h.keeps (keepsDirs_restoreBundle? ran)) runs
  | newItem kind owner name => exact placed_of_map (fun _ _ ran => h.keeps (keepsDirs_newItem? ran)) runs
  | editItem kind owner id => exact placed_of_map (fun _ _ ran => h.keeps (keepsDirs_editItem? ran)) runs
  | saveItem kind owner id => exact placed_of_map (fun _ _ ran => placed_saveItem? h free ran) runs
  | deleteItem kind owner id => exact placed_of_map (fun _ _ ran => h.keeps (keepsDirs_deleteItem? ran)) runs
  | restoreItem kind owner id => exact placed_of_map (fun _ _ ran => h.keeps (keepsDirs_restoreItem? ran)) runs
  | newTheme name =>
    obtain rfl := Option.some.inj runs
    exact h
  | editTheme id => exact placed_of_map (fun _ _ ran => (bundles_editTheme? ran).symm ▸ h) runs
  | markTheme id =>
    obtain ⟨e, -, marked⟩ := Option.bind_eq_some_iff.1 runs
    obtain rfl := Option.some.inj marked
    exact h
  | saveTheme id => exact placed_of_map (fun _ _ ran => (bundles_saveTheme? ran).symm ▸ h) runs
  | deleteTheme id => exact placed_of_map (fun _ _ ran => (bundles_deleteTheme? ran).symm ▸ h) runs
  | restoreTheme id => exact placed_of_map (fun _ _ ran => (bundles_restoreTheme? ran).symm ▸ h) runs
  | write doc content => exact (bundles_write? runs).symm ▸ h
  | setSyntax ext name =>
    obtain rfl := Option.some.inj runs
    exact h
  | commit =>
    obtain rfl := Option.some.inj runs
    exact (bundles_commit c).symm ▸ h
  | flush =>
    obtain rfl := Option.some.inj runs
    exact (flush_db c).symm ▸ h
  | flushIfDue now =>
    obtain rfl := Option.some.inj runs
    exact (flushIfDue_db c now).symm ▸ h
  | exportBundle target id => exact placed_of_map (fun _ _ ran => (exportBundle?_db ran).symm ▸ h) runs
  | exportItem target kind owner id => exact placed_of_map (fun _ _ ran => (exportItem?_db ran).symm ▸ h) runs
  | changeFiles files =>
    obtain rfl := Option.some.inj runs
    exact h

end Operations

end EditorBundles.Catalog
