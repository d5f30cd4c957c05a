import EditorBundles.Proofs.Catalog.Carrying
import EditorBundles.Proofs.Catalog.ScanAlike

/-!
# The names of a table stay apart

Whatever is done to a table, own versions that had different file names have different ones afterwards. A move gives a
name that is free. A scan gives the names of files: changed files are read again into the rows that had their names,
and the files that are added are those that no row has the name of.
-/

namespace EditorBundles.Catalog
set_option autoImplicit false
open PropertyList

namespace EntryTable

/-- The documents are those that a table names, the spare ones and others, each of them once. -/
def Owned {ρ : Type} [Row ρ] [Nesting ρ] (spare : List Nat) (t : EntryTable ρ) (docs : DocumentTable) : Prop :=
  ∃ others, docs.Holding (others ++ (spare ++ t.entries.flatMap Entry.held))

section
variable {ρ : Type} [Row ρ] [Nesting ρ] {t t' : EntryTable ρ} {docs docs' : DocumentTable} {spare spare' : List Nat}
  {id doc : Nat} {e : Entry} {N : Prop}

/-! ## Documents of a table -/

theorem mem_entries (found : t.entryAt? id = some e) : e ∈ t.entries := by
  obtain ⟨row, place, rfl⟩ := row?_of_entryAt? found
  exact List.mem_flatMap.2 ⟨row, mem_of_row? place, List.mem_cons_self⟩

theorem mem_held_entries (found : t.entryAt? id = some e) (named : doc ∈ e.held) : doc ∈ t.entries.flatMap Entry.held :=
  List.mem_flatMap.2 ⟨e, mem_entries found, named⟩

namespace Owned

theorem carry (h : Owned spare t docs) (carries : Carries spare t.entries docs spare' t'.entries docs') :
    Owned spare' t' docs' := by
  obtain ⟨others, holding⟩ := h
  obtain ⟨left, trades⟩ := carries.trades
  refine ⟨left ++ others, (trades others (holding.perm List.perm_append_comm)).1.perm ?_⟩
  simp only [List.perm_iff_count, List.count_append]
  intro index
  omega

theorem move (h : Owned spare t docs) (move : Move N (spare, t, docs) (spare', t', docs')) : Owned spare' t' docs' :=
  h.carry (carries_move move)

theorem moves (h : Owned spare t docs) (moves : Moves N (spare, t, docs) (spare', t', docs')) : Owned spare' t' docs' :=
  h.carry (carries_moves moves)

/-- A document that an entry names is there. -/
theorem isLive (h : Owned spare t docs) (found : t.entryAt? id = some e) (named : doc ∈ e.held) :
    docs.isLive doc = true := by
  obtain ⟨others, holding⟩ := h
  exact holding.mem_iff.1 (List.mem_append_right _ (List.mem_append_right _ (mem_held_entries found named)))

/-- The documents of own versions are there. -/
theorem stored (h : Owned spare t docs) : t.Stored docs := by
  intro id doc own
  obtain ⟨e, found, -, named⟩ := ownDoc?_eq_some.1 own
  exact h.isLive found (List.mem_append_right _ (Option.mem_toList.2 named))

theorem notMem_spare (h : Owned spare t docs) (own : t.ownDoc? id = some doc) : doc ∉ spare := by
  obtain ⟨others, holding⟩ := h
  obtain ⟨e, found, -, named⟩ := ownDoc?_eq_some.1 own
  have apart := (List.nodup_append.1 (List.nodup_append.1 holding.nodup).2.1).2.2
  have held := mem_held_entries found (List.mem_append_right _ (Option.mem_toList.2 named))
  exact fun other => apart doc other doc held rfl

/-- A document that is stored keeps the names of the others. -/
theorem keepsNames_insert (h : Owned spare t docs) {d : Document} (fresh : d.isVacant = false)
    (prunes : (docs.insert d).1.Prunes docs') : docs.KeepsNames docs' := by
  obtain ⟨others, holding⟩ := h
  exact holding.keepsNames_insert fresh prunes

theorem keepsNames_editable? (h : Owned spare t docs) {own : Nat} (edited : t.editable? id docs = some (t', docs', own)) :
    docs.KeepsNames docs' := by
  obtain ⟨e, found, ⟨-, -, -, rfl⟩ | ⟨source, factory, copied, -⟩⟩ := editable?_cases edited
  · exact .refl _
  · have live := h.isLive found (List.mem_append_left _ (Option.mem_toList.2 factory))
    have there : (docs.get source).copy.isVacant = false := (Bool.not_eq_true' _).mp (Bool.and_eq_true_iff.1 live).2
    have same : docs' = (docs.insert (docs.get source).copy).1 := (congrArg Prod.fst copied).symm
    rw [same]
    exact h.keepsNames_insert there (.refl _)

/-- Every move keeps the names of documents. -/
theorem keepsNames [Pruning ρ] (h : Owned spare t docs) (move : Move N (spare, t, docs) (spare', t', docs')) :
    docs.KeepsNames docs' := by
  cases move with
  | store fresh _ => exact h.keepsNames_insert fresh (.refl _)
  | insert => exact .refl docs
  | register => exact (prunes_register _ _ _ _ _).keepsNames
  | edit edited _ => exact h.keepsNames_editable? edited
  | drop => exact (prunes_drop _ _ _ _).keepsNames
  | delete deleted => exact (prunes_deleteRow deleted).keepsNames
  | restore => exact .refl docs
  | mark => exact .refl docs

end Owned

end

variable {t t' : EntryTable Entry} {docs docs' : DocumentTable} {spare spare' : List Nat} {id doc : Nat} {name : String}
  {loc : Locality} {fs : FileSystem} {dir filename : String} {files : List String} {N : Prop}

namespace Owned

/-- A document is read and deleted again, perhaps with others. -/
theorem keepsNames_load (h : Owned spare t docs) {docs₁ : DocumentTable} {path : String} {fresh : Nat}
    (loaded : docs.load fs path = .ok (docs₁, fresh)) (prunes : docs₁.Prunes docs') : docs.KeepsNames docs' := by
  obtain ⟨others, holding⟩ := h
  obtain ⟨d, read, inserted, -⟩ := DocumentTable.load_eq_ok loaded
  obtain ⟨rfl, rfl⟩ := Prod.mk.inj inserted
  exact holding.keepsNames_insert (Document.isVacant_of_load read) prunes

/-- A document that was read from a file has its name. -/
theorem filename_load (h : Owned spare t docs) (isName : IsFileName name) {docs₁ : DocumentTable} {fresh : Nat}
    (loaded : docs.load fs (Path.join dir name) = .ok (docs₁, fresh)) : (docs₁.get fresh).filename = name := by
  obtain ⟨others, holding⟩ := h
  obtain ⟨d, read, inserted, -⟩ := DocumentTable.load_eq_ok loaded
  have stored := DocumentTable.get_insert holding d
  rw [← inserted] at stored
  exact (congrArg Document.filename stored).trans (FileSystem.filename_of_load isName read)

end Owned

/-! ## Moves -/

theorem brings_mark (t : EntryTable Entry) (id : Nat) (b : Bool) :
    Brings none t (t.modifyEntry id fun e => { e with modified := b }) := by
  cases found : t.entryAt? id with
  | some e => exact brings_modifyEntry_none found fun _ _ named => ⟨named, rfl⟩
  | none =>
    refine brings_none fun other e' found' loc source named => ?_
    have different : other ≠ id := by
      rintro rfl
      rw [entryAt?_modifyEntry_self, found] at found'
      cases found'
    rw [entryAt?, row?_modifyEntry_of_ne t different] at found'
    exact ⟨e', found', named, rfl⟩

/-- Making the own version of a row gives it the name of the factory version. -/
theorem NamesApart.editable? (apart : t.NamesApart docs) (owned : Owned spare t docs) {own : Nat}
    (edited : t.editable? id docs = some (t', docs', own)) (adoptable : t.Adoptable docs id) : t'.NamesApart docs' := by
  have kept := owned.keepsNames_editable? edited
  have stored := owned.stored
  have stored' := (owned.move (.edit edited (.inl trivial) : Move True _ (spare, t', docs'))).stored
  obtain ⟨e, found, made⟩ := Option.bind_eq_some_iff.1 edited
  cases savable : savable? e with
  | some doc =>
    -- there is an own version, and nothing is made
    have same : (if e.locality.own then e.ownDoc else none) = some doc := savable
    rw [same] at made
    obtain ⟨rfl, rfl, -⟩ := Option.some.inj made
    exact apart
  | none =>
    have without : (if e.locality.own then e.ownDoc else none) = none := savable
    rw [without] at made
    obtain ⟨source, factory, made⟩ := Option.bind_eq_some_iff.1 made
    obtain ⟨others, holding⟩ := owned
    have copied : ((docs.copy source).1.get (docs.copy source).2).filename = (docs.get source).copy.filename :=
      congrArg Document.filename (DocumentTable.get_insert holding (docs.get source).copy)
    generalize docs.copy source = result at made copied
    obtain ⟨docs₁, own⟩ := result
    split at made
    · obtain ⟨rfl, rfl, -⟩ := Option.some.inj made
      refine apart.give ((brings_adopt found own Document.vacant).namesFrom_some kept stored stored') ?_
      have name : (docs'.get own).filename = (docs.get source).filename := copied
      exact name ▸ adoptable e source found savable factory
    · cases made

/-- Every move keeps names apart. -/
theorem NamesApart.move (apart : t.NamesApart docs) (owned : Owned spare t docs)
    (move : Move False (spare, t, docs) (spare', t', docs')) : t'.NamesApart docs' := by
  have kept := owned.keepsNames move
  have stored := owned.stored
  have stored' := (owned.move move).stored
  have quiet (brings : Brings none t t') := apart.quiet (brings.namesFrom_none kept stored stored')
  cases move with
  | store => exact quiet (.refl t)
  | @insert _ _ _ doc loc source named =>
    have brings := brings_insert t source doc docs Document.vacant
    cases own : loc.own with
    | false => exact apart.quiet (brings.namesFrom_factory own kept stored stored')
    | true => exact apart.give (brings.namesFrom_some kept stored stored') ((named own).resolve_left False.elim)
  | @register _ _ _ id doc loc source named =>
    have own : loc.own = false := Bool.eq_false_iff.2 named
    cases found : t.entryAt? id with
    | none =>
      rw [register, found]
      exact apart
    | some e =>
      have brings := brings_register source found doc docs Document.vacant
      exact apart.quiet (brings.namesFrom_factory own kept stored stored')
  | edit edited named => exact apart.editable? owned edited (named.resolve_left False.elim)
  | drop => exact quiet (brings_drop _ _ _ _)
  | delete deleted => exact quiet (brings_delete deleted)
  | restore => exact quiet (brings_restore _ _)
  | mark => exact quiet (brings_mark _ _ _)

theorem NamesApart.moves (apart : t.NamesApart docs) (owned : Owned spare t docs)
    (moves : Moves False (spare, t, docs) (spare', t', docs')) : t'.NamesApart docs' := by
  have all {s s' : List Nat × EntryTable Entry × DocumentTable} (owned : Owned s.1 s.2.1 s.2.2)
      (apart : s.2.1.NamesApart s.2.2) (moves : Moves False s s') : s'.2.1.NamesApart s'.2.2 := by
    induction moves with
    | refl => exact apart
    | tail before move ih => exact ih.move (owned.moves before) move
  exact all owned apart moves

/-! ## Scans -/

theorem ownDoc?_of_tracked? {v : Tracked} (tracked : t.tracked? docs { own := true } id = some v) :
    t.ownDoc? id = some v.doc ∧ v.filename = (docs.get v.doc).filename := by
  obtain ⟨e, found, tracked⟩ := Option.bind_eq_some_iff.1 tracked
  split at tracked
  · rename_i has
    obtain ⟨doc, named, tracked⟩ := Option.bind_eq_some_iff.1 tracked
    obtain rfl := Option.some.inj tracked
    have own : e.locality.own = true := by simpa [Locality.contains] using has
    exact ⟨ownDoc?_eq_some.2 ⟨e, found, own, named⟩, rfl⟩
  · cases tracked

/-- A scan looks at every own version that has a name. -/
theorem exists_tracked?_of_ownName? (named : t.ownName? docs id = some name) :
    ∃ v, t.tracked? docs { own := true } id = some v ∧ v.filename = name := by
  obtain ⟨doc, own, rfl, -⟩ := ownName?_eq_some.1 named
  obtain ⟨e, found, flag, there⟩ := ownDoc?_eq_some.1 own
  have has : e.locality.contains { own := true } = true := by simpa [Locality.contains] using flag
  have for_ : e.docFor { own := true } = some doc := there
  rw [tracked?, found]
  simp only [Option.bind_eq_bind, Option.bind_some, has, for_]
  exact ⟨_, rfl, rfl⟩

/-- A document is read for a row. -/
theorem Owned.register (owned : Owned spare t docs) (id : Nat) {docs₁ : DocumentTable} {path : String} {fresh : Nat}
    (loaded : docs.load fs path = .ok (docs₁, fresh)) :
    Owned spare (t.register id fresh { own := true } docs₁).1 (t.register id fresh { own := true } docs₁).2 := by
  have read : Owned (fresh :: spare) t docs₁ := owned.moves (moves_load (N := True) t loaded)
  exact read.carry ((carries_register t .own id fresh docs₁).give spare)

/-- A document is read for a new row. -/
theorem Owned.insert (owned : Owned spare t docs) {docs₁ : DocumentTable} {path : String} {fresh : Nat}
    (loaded : docs.load fs path = .ok (docs₁, fresh)) : Owned spare (t.insert fresh { own := true } docs₁).1 docs₁ :=
  owned.moves ((moves_load (N := True) t loaded).tail (.insert .own fun _ => .inl trivial))

/-- What is read from a file for a row gives the row the name of the file. -/
theorem namesFrom_register (owned : Owned spare t docs) (isName : IsFileName filename) (id : Nat) {docs₁ : DocumentTable}
    {fresh : Nat} (loaded : docs.load fs (Path.join dir filename) = .ok (docs₁, fresh)) :
    NamesFrom (some (id, filename)) t docs (t.register id fresh { own := true } docs₁).1
      (t.register id fresh { own := true } docs₁).2 := by
  have prunes := prunes_register t id fresh { own := true } docs₁
  have kept := owned.keepsNames_load loaded prunes
  have stored' := (owned.register id loaded).stored
  cases found : t.entryAt? id with
  | none =>
    rw [register, found] at kept stored' ⊢
    refine ((namesFrom_docs fun id doc own => ?_ : NamesFrom none t docs t docs₁).or _)
    exact kept doc (owned.stored id doc own) (stored' id doc own)
  | some e =>
    refine (brings_register .own found fresh docs₁ Document.vacant).namesFrom kept owned.stored stored' ?_
    rintro _ ⟨⟩ - live
    rw [prunes.kept fresh live, owned.filename_load isName loaded]
    rfl

/-- What is read from a new file gives a new row the name of the file. -/
theorem namesFrom_insert (owned : Owned spare t docs) (isName : IsFileName filename) {docs₁ : DocumentTable} {fresh : Nat}
    (loaded : docs.load fs (Path.join dir filename) = .ok (docs₁, fresh)) :
    NamesFrom (some ((t.insert fresh { own := true } docs₁).2, filename)) t docs
      (t.insert fresh { own := true } docs₁).1 docs₁ := by
  have stored' := (owned.insert loaded).stored
  have kept := owned.keepsNames_load loaded (.refl docs₁)
  have names := (brings_insert t .own fresh docs₁ Document.vacant).namesFrom_some kept owned.stored stored'
  rwa [owned.filename_load isName loaded] at names

/-- Reading changed files again gives no new names, and no row has the name of a file that is left. Those rows that have
the name of a file are yet to come. -/
theorem reloadChanged_names (fs : FileSystem) (dir : String) (ids : List Nat) (owned : Owned spare t docs)
    (isName : ∀ name ∈ files, IsFileName name) (once : files.Nodup)
    (toCome : ∀ id name, t.ownName? docs id = some name → name ∈ files → id ∈ ids) :
    let s := reloadChanged fs dir { own := true } files t docs ids
    NamesFrom none t docs s.1 s.2.1 ∧ s.2.2.Sublist files ∧ ∀ name ∈ s.2.2, s.1.Lacks s.2.1 name := by
  induction ids generalizing files t docs with
  | nil =>
    exact ⟨.refl t docs, .refl files, fun name member id named => absurd (toCome id name named member) List.not_mem_nil⟩
  | cons id ids ih =>
    rw [reloadChanged]
    cases visited : (t.tracked? docs { own := true } id).filter fun v => files.contains v.filename with
    | none =>
      refine ih owned isName once fun other name named member => ?_
      refine (List.mem_cons.1 (toCome other name named member)).resolve_left ?_
      rintro rfl
      obtain ⟨v, tracked, rfl⟩ := exists_tracked?_of_ownName? named
      rw [tracked, Option.filter_eq_none_iff] at visited
      exact visited v rfl (List.contains_iff_mem.2 member)
    | some v =>
      obtain ⟨tracked, listed⟩ := Option.filter_eq_some_iff.1 visited
      rw [List.contains_iff_mem] at listed
      obtain ⟨own, name⟩ := ownDoc?_of_tracked? tracked
      have named : t.ownName? docs id = some v.filename :=
        ownName?_eq_some.2 ⟨v.doc, own, name.symm, (isName _ listed).present⟩
      -- what comes after the row, if its name stays
      have rest {t' : EntryTable Entry} {docs' : DocumentTable} (names : NamesFrom none t docs t' docs')
          (owned : Owned spare t' docs') :
          let s := reloadChanged fs dir { own := true } (files.erase v.filename) t' docs' ids
          NamesFrom none t docs s.1 s.2.1 ∧ s.2.2.Sublist files ∧ ∀ name ∈ s.2.2, s.1.Lacks s.2.1 name := by
        have yetToCome : ∀ other name, t'.ownName? docs' other = some name → name ∈ files.erase v.filename → other ∈ ids := by
          intro other name named' member
          have before := names.named named'
          refine (List.mem_cons.1 (toCome other name before (List.mem_of_mem_erase member))).resolve_left ?_
          rintro rfl
          obtain rfl := Option.some.inj (named.symm.trans before)
          exact once.not_mem_erase member
        obtain ⟨later, sub, lacks⟩ :=
          ih owned (fun name member => isName name (List.mem_of_mem_erase member)) (once.erase _) yetToCome
        exact ⟨names.trans later, sub.trans List.erase_sublist, lacks⟩
      dsimp only
      split
      · cases loaded : docs.load fs (Path.join dir v.filename) with
        | ok result =>
          refine rest (fun other name named' => ?_) (owned.register id loaded)
          rcases namesFrom_register owned (isName _ listed) id loaded other name named' with same | before
          · obtain ⟨rfl, rfl⟩ := Prod.mk.inj (Option.some.inj same)
            exact .inr named
          · exact .inr before
        | error fault =>
          have dropped : Owned spare (t.drop id { own := true } docs).1 (t.drop id { own := true } docs).2.1 :=
            owned.move (.drop (N := True))
          have kept := (prunes_drop t id { own := true } docs).keepsNames
          exact rest ((brings_drop t id _ docs).namesFrom_none kept owned.stored dropped.stored) dropped
      · exact rest (.refl t docs) owned

/-- Files are added whose names no row has. -/
theorem NamesApart.addNew (apart : t.NamesApart docs) (owned : Owned spare t docs) (isName : ∀ name ∈ files, IsFileName name)
    (once : files.Nodup) (lacks : ∀ name ∈ files, t.Lacks docs name) :
    (addNew fs dir { own := true } t docs files).1.NamesApart (addNew fs dir { own := true } t docs files).2 := by
  induction files generalizing t docs with
  | nil => exact apart
  | cons filename files ih =>
    obtain ⟨new, once⟩ := List.nodup_cons.1 once
    rw [List.forall_mem_cons] at isName lacks
    -- what comes after the first file, which may have been given to a row
    have rest {t' : EntryTable Entry} {docs' : DocumentTable} {id : Nat}
        (names : NamesFrom (some (id, filename)) t docs t' docs') (owned : Owned spare t' docs') :
        (EntryTable.addNew fs dir { own := true } t' docs' files).1.NamesApart
          (EntryTable.addNew fs dir { own := true } t' docs' files).2 := by
      refine ih (apart.give names lacks.1) owned isName.2 once fun name member id named => ?_
      rcases names id name named with given | before
      · obtain ⟨rfl, rfl⟩ := Prod.mk.inj (Option.some.inj given)
        exact new member
      · exact lacks.2 name member id before
    rw [EntryTable.addNew]
    cases loaded : docs.load fs (Path.join dir filename) with
    | error fault => exact ih apart owned isName.2 once lacks.2
    | ok result =>
      dsimp only
      split
      · exact rest (namesFrom_register owned isName.1 _ loaded) (owned.register _ loaded)
      · exact rest (namesFrom_insert owned isName.1 loaded) (owned.insert loaded)

/-- A scan of a directory keeps names apart. -/
theorem NamesApart.sync (apart : t.NamesApart docs) (owned : Owned spare t docs) (regular : fs.Regular)
    (dir extension : String) :
    (t.sync docs fs dir { own := true } extension).1.NamesApart (t.sync docs fs dir { own := true } extension).2 := by
  rw [EntryTable.sync]
  split
  · dsimp only
    generalize listing : listDir fs dir false (fun name => hasExtension name ".plist" || hasExtension name extension) = files
    have isName : ∀ name ∈ files, IsFileName name := fun name member => regular.isFileName_of_mem_listDir (listing ▸ member)
    have once : files.Nodup := listing ▸ regular.nodup_listDir dir false _
    have dropped : Moves False (spare, t, docs) (spare, dropMissing { own := true } files t docs (List.range t.size)) :=
      moves_dropMissing _ files t docs _
    have apart₁ := apart.moves owned dropped
    have owned₁ := owned.moves dropped
    generalize dropMissing { own := true } files t docs (List.range t.size) = s₁ at apart₁ owned₁
    have toCome : ∀ id name, s₁.1.ownName? s₁.2 id = some name → name ∈ files → id ∈ List.range s₁.1.size := by
      intro id name named _
      obtain ⟨doc, own, -, -⟩ := ownName?_eq_some.1 named
      obtain ⟨e, found, -, -⟩ := ownDoc?_eq_some.1 own
      obtain ⟨row, place, -⟩ := row?_of_entryAt? found
      exact List.mem_range.2 (lt_of_row? place)
    obtain ⟨names, sub, lacks⟩ := reloadChanged_names fs dir (List.range s₁.1.size) owned₁ isName once toCome
    have owned₂ := owned₁.moves
      (moves_reloadChanged (N := True) .own (fun _ => trivial) fs dir files s₁.1 s₁.2 (List.range s₁.1.size))
    exact (apart₁.quiet names).addNew owned₂ (fun name member => isName name (sub.subset member)) (once.sublist sub) lacks
  · exact apart.moves owned (moves_dropWhere _ _ t docs _)

/-- Whatever is done to a table keeps names apart. -/
theorem NamesApart.change {s s' : List Nat × EntryTable Entry × DocumentTable} (apart : s.2.1.NamesApart s.2.2)
    (owned : Owned s.1 s.2.1 s.2.2) (change : Change False s s') : s'.2.1.NamesApart s'.2.2 := by
  cases change with
  | moves moves => exact apart.moves owned moves
  | scan regular => exact apart.sync owned regular _ _

end EntryTable

end EditorBundles.Catalog
