import EditorBundles.Proofs.Catalog.UnreadableFiles

/-!
# Repeated scans

A scan of a directory leaves rows whose versions are what their files hold, unless they stay as they are anyway. Repeated
at once, it leaves them alone, and reads again just the files that no row has its version from. So nothing changes if each
file that can be read has found a row; and if one has not, as another file with the same identity took its row, the second
scan takes it for new.
-/

namespace EditorBundles.Catalog
set_option autoImplicit false
open PropertyList FileSystem

variable {fs : FileSystem} {dir extension name : String} {loc : Locality} {files : List String} {d : Document}

/-- A file has not changed since a document was read from it. -/
theorem hasChanged_of_load {path : String} (read : Document.load fs path = .ok d) : EntryTable.hasChanged fs path d = false := by
  obtain ⟨octets, -, read⟩ := bind_eq_ok read
  obtain ⟨parsed, -, read⟩ := bind_eq_ok read
  obtain ⟨modTime, time, read⟩ := bind_eq_ok read
  obtain rfl := Except.ok.inj read
  rw [EntryTable.hasChanged, mapError_eq_ok time]
  exact decide_eq_false (not_not_intro rfl)

/-- A document is what the file of its name in a directory holds, and the file is in a list. -/
structure WrittenIn (fs : FileSystem) (dir : String) (files : List String) (d : Document) : Prop where
  listed : d.filename ∈ files
  read : Document.load fs (Path.join dir d.filename) = .ok d

theorem writtenIn_of_load (named : ∀ name ∈ files, IsFileName name) (listed : name ∈ files)
    (read : Document.load fs (Path.join dir name) = .ok d) : WrittenIn fs dir files d ∧ d.filename = name := by
  have same := FileSystem.filename_of_load (named name listed) read
  exact ⟨⟨same ▸ listed, same ▸ read⟩, same⟩

namespace EntryView

/-- What is recorded in an entry is its version there, unless it stays behind one. -/
theorem tracked?_register (source : loc.IsSource) (e : EntryView) (d : Document) : (e.register d loc).tracked? loc =
    if loc = { pristine := true } ∧ e.locality.installed = true then
      e.factory.map fun document => { document, filename := d.filename, fixed := true }
    else some { document := d, filename := d.filename, fixed := loc.own && decide (d.modTime = 0) } := by
  cases source with
  | pristine =>
    cases installed : e.locality.installed <;>
      simp [tracked?, register, identify, installed, Locality.union, Locality.contains, version]
  | installed => simp [tracked?, register, identify, Locality.union, Locality.contains, version]
  | own => simp [tracked?, register, identify, Locality.union, Locality.contains, version, hasUnsavedOwn]

/-- A new entry has the document as its version. -/
theorem tracked?_new (source : loc.IsSource) (d : Document) : ((new loc d).identify d).tracked? loc =
    some { document := d, filename := d.filename, fixed := loc.own && decide (d.modTime = 0) } := by
  cases source <;> simp [tracked?, new, identify, Locality.contains, version, hasUnsavedOwn]

theorem steady_register (source : loc.IsSource) (e : EntryView) (written : WrittenIn fs dir files d) :
    (e.register d loc).Steady fs dir loc files := by
  intro v tracked
  rw [tracked?_register source] at tracked
  split at tracked
  · obtain ⟨document, -, rfl⟩ := Option.map_eq_some_iff.1 tracked
    exact .inl rfl
  · obtain rfl := Option.some.inj tracked
    exact .inr ⟨written.listed, hasChanged_of_load written.read⟩

theorem steady_new (source : loc.IsSource) (written : WrittenIn fs dir files d) :
    ((new loc d).identify d).Steady fs dir loc files := by
  intro v tracked
  rw [tracked?_new source] at tracked
  obtain rfl := Option.some.inj tracked
  exact .inr ⟨written.listed, hasChanged_of_load written.read⟩

/-- Where there is an installed version there is a document for it. -/
def Backed (e : EntryView) : Prop := e.locality.installed = true → e.factory.isSome = true

theorem Backed.register {e : EntryView} (h : e.Backed) (source : loc.IsSource) (d : Document) : (e.register d loc).Backed := by
  cases source with
  | pristine => cases installed : e.locality.installed <;> simp_all [Backed, EntryView.register, identify, Locality.union]
  | installed => simp [Backed, EntryView.register, identify]
  | own => simpa [Backed, EntryView.register, identify, Locality.union] using h

theorem backed_new (source : loc.IsSource) (d : Document) : ((new loc d).identify d).Backed := by
  cases source <;> simp [Backed, new, identify]

end EntryView

namespace TableView

variable {ν : Type} [RowView ν] [LawfulRowView ν] {t : TableView ν} {id : Nat} {row row' : ν} {e : EntryView}

/-- What the first two rounds of a scan leave of a row is steady. -/
theorem steady_scanRow? (source : loc.IsSource) (named : ∀ name ∈ files, IsFileName name)
    (left : scanRow? fs dir loc files row = some row') : (RowView.entry row').Steady fs dir loc files := by
  have stays {row'' : ν} (same : some row = some row'')
      (steady : (RowView.entry row).Steady fs dir loc files) : (RowView.entry row'').Steady fs dir loc files :=
    Option.some.inj same ▸ steady
  have dropped {row'' : ν} (same : dropRow? row loc = some row'') : (RowView.entry row'').Steady fs dir loc files := by
    intro v tracked
    rw [tracked?_of_dropRow? source same] at tracked
    cases tracked
  rw [scanRow?] at left
  split at left
  · next none_ =>
    refine stays left fun v tracked => ?_
    rw [none_] at tracked
    cases tracked
  · next v there =>
    split at left
    · next fixed =>
      refine stays left fun w tracked => .inl ?_
      rw [there] at tracked
      exact Option.some.inj tracked ▸ fixed
    · split at left
      · next listed =>
        have listed := List.contains_iff_mem.1 listed
        dsimp only at left
        split at left
        · split at left
          · next fresh read =>
            obtain rfl := Option.some.inj left
            rw [entry_registerRow]
            exact EntryView.steady_register source _ (writtenIn_of_load named listed read).1
          · exact dropped left
        · next unchanged =>
          refine stays left fun w tracked => .inr ?_
          rw [there] at tracked
          exact Option.some.inj tracked ▸ ⟨listed, Bool.not_eq_true _ ▸ unchanged⟩
      · exact dropped left

/-- What holds of all entries holds of all when new files have been added, if it holds where a document from one of them is
recorded and of a new entry. -/
theorem entries_addNew {P : EntryView → Prop} {left : List String} (entries : ∀ id e, t.entryAt? id = some e → P e)
    (register : ∀ name ∈ left, ∀ d, Document.load fs (Path.join dir name) = .ok d → ∀ e, P e → P (e.register d loc))
    (new : ∀ name ∈ left, ∀ d, Document.load fs (Path.join dir name) = .ok d → P ((EntryView.new loc d).identify d)) :
    ∀ id e, (addNew fs dir loc t left).entryAt? id = some e → P e := by
  induction left generalizing t with
  | nil => exact entries
  | cons name left ih =>
    have ih {t' : TableView ν} (entries : ∀ id e, t'.entryAt? id = some e → P e) :=
      ih entries (fun other member => register other (List.mem_cons_of_mem name member))
        (fun other member => new other (List.mem_cons_of_mem name member))
    rw [addNew]
    split
    · exact ih entries
    · next fresh read =>
      split
      · next place found =>
        refine ih fun other e there => ?_
        rw [entryAt?, row?_register] at there
        split at there
        · obtain ⟨row', changed, rfl⟩ := Option.map_eq_some_iff.1 there
          obtain ⟨row, before, rfl⟩ := Option.map_eq_some_iff.1 changed
          rw [LawfulRowView.entry_withEntry]
          exact register name List.mem_cons_self fresh read _ (entries other _ (congrArg (Option.map RowView.entry) before))
        · exact entries other e there
      · refine ih fun other e there => ?_
        rw [entryAt?, (t.row?_insert fresh loc).1] at there
        split at there
        · obtain rfl := Option.some.inj there
          rw [LawfulRowView.entry_ofEntry]
          exact new name List.mem_cons_self fresh read
        · exact entries other e there

/-- A scan of a directory leaves steady versions. -/
theorem Compact.steady_sync (h : t.Compact) (source : loc.IsSource) (apart : t.Apart loc) (regular : fs.Regular)
    (isDir : fs.isDirectory dir = true) (found : (t.sync fs dir loc extension).entryAt? id = some e) :
    e.Steady fs dir loc (versionFiles fs dir extension) := by
  have named : ∀ name ∈ versionFiles fs dir extension, IsFileName name := fun _ => regular.isFileName_of_mem_listDir
  obtain ⟨compact, rows, left⟩ := h.rounds source apart
    (show (versionFiles fs dir extension).Nodup from regular.nodup_listDir _ _ _) fs dir
  rw [sync_eq_rounds isDir] at found
  have listed {name : String} (member : name ∈ (TableView.rounds fs dir loc (versionFiles fs dir extension) t).2) :
      name ∈ versionFiles fs dir extension := by
    rw [left] at member
    exact (List.mem_filter.1 member).1
  refine entries_addNew (fun other e there v tracked => ?_) (fun name member d read e _ => ?_) (fun name member d read => ?_)
    id e found
  · have versions : (TableView.rounds fs dir loc (versionFiles fs dir extension) t).1.tracked? loc other = some v := by
      rw [TableView.tracked?_eq, there, Option.bind_some, tracked]
    rw [compact.tracked?_eq source] at versions
    obtain ⟨row', present, tracks⟩ := Option.bind_eq_some_iff.1 versions
    rw [rows] at present
    obtain ⟨row, -, scanned⟩ := Option.bind_eq_some_iff.1 present
    exact steady_scanRow? source named scanned v tracks
  · exact EntryView.steady_register source e (writtenIn_of_load named (listed member) read).1
  · exact EntryView.steady_new source (writtenIn_of_load named (listed member) read).1

omit [LawfulRowView ν] in
theorem addNew_append (fs : FileSystem) (dir : String) (loc : Locality) (t : TableView ν) (front back : List String) :
    addNew fs dir loc t (front ++ back) = addNew fs dir loc (addNew fs dir loc t front) back := by
  induction front generalizing t with
  | nil => rfl
  | cons name front ih =>
    rw [List.cons_append, addNew, addNew]
    split
    · exact ih t
    · split
      · exact ih _
      · exact ih _

/-- A row has its version from a new file that can be read. -/
theorem exists_tracked?_addNew_singleton (source : loc.IsSource) (backed : ∀ id e, t.entryAt? id = some e → e.Backed)
    (isName : IsFileName name) (read : Document.load fs (Path.join dir name) = .ok d) :
    ∃ id v, (addNew fs dir loc t [name]).tracked? loc id = some v ∧ v.filename = name := by
  have named := FileSystem.filename_of_load isName read
  rw [addNew, read]
  dsimp only
  split
  · next id found =>
    obtain ⟨uuid, -, found⟩ := Option.bind_eq_some_iff.1 found
    obtain ⟨e, live, -⟩ := live?_of_findUuid? found
    obtain ⟨row, there, rfl, here⟩ := live?_eq_some.1 live
    have registered := row?_register t id id d loc
    rw [if_pos rfl, there, Option.map_some] at registered
    have tracked := tracked?_of_row? registered loc
    rw [LawfulRowView.entry_withEntry, EntryView.tracked?_register source] at tracked
    split at tracked
    · next behind =>
      obtain ⟨document, factory⟩ := Option.isSome_iff_exists.1
        (backed id _ (congrArg (Option.map RowView.entry) there) behind.2)
      rw [factory] at tracked
      exact ⟨id, _, tracked, named⟩
    · exact ⟨id, _, tracked, named⟩
  · have inserted := (t.row?_insert d loc).1 (t.insert d loc).2
    rw [if_pos rfl] at inserted
    have tracked := tracked?_of_row? inserted loc
    rw [LawfulRowView.entry_ofEntry, EntryView.tracked?_new source] at tracked
    exact ⟨_, _, tracked, named⟩

/-- Where a new file can be read, a row has its version from one of the new files in the end. -/
theorem exists_tracked?_addNew {left : List String} (source : loc.IsSource)
    (named : ∀ name ∈ left, IsFileName name) (backed : ∀ id e, t.entryAt? id = some e → e.Backed)
    (listed : name ∈ left) (read : Document.load fs (Path.join dir name) = .ok d) :
    ∃ other ∈ left, ∃ id v, (addNew fs dir loc t left).tracked? loc id = some v ∧ v.filename = other := by
  -- the last new file that can be read still has its row, so the induction is from the end
  induction left using List.reverseRecOn with
  | nil => cases listed
  | append_singleton front last ih =>
    rw [addNew_append]
    cases read' : Document.load fs (Path.join dir last) with
    | ok d' =>
      have kept : ∀ id e, (addNew fs dir loc t front).entryAt? id = some e → e.Backed := entries_addNew backed
        (fun _ _ d _ e whole => EntryView.Backed.register whole source d) fun _ _ d _ => EntryView.backed_new source d
      have isName := named last (List.mem_append_right front (List.mem_singleton_self last))
      exact ⟨last, List.mem_append_right front (List.mem_singleton_self last),
        exists_tracked?_addNew_singleton source kept isName read'⟩
    | error fault =>
      have member : name ∈ front := by
        rcases List.mem_append.1 listed with member | same
        · exact member
        · rw [List.mem_singleton.1 same, read'] at read
          cases read
      obtain ⟨other, member, tracked⟩ := ih (fun name member => named name (List.mem_append_left _ member)) member
      refine ⟨other, List.mem_append_left _ member, ?_⟩
      rw [addNew, read']
      exact tracked

end TableView

namespace EntryTable

variable {ρ : Type} [Row ρ] {t : EntryTable ρ} {docs : DocumentTable} {left : List String} {ids : List Nat}

/-! ## Rounds that change nothing -/

/-- Each version at a locality stays as it is, or it is in a file of a list that has not changed. -/
def Steady (fs : FileSystem) (dir : String) (loc : Locality) (files : List String) (t : EntryTable ρ) (docs : DocumentTable) :
    Prop :=
  ∀ id v, t.tracked? docs loc id = some v → v.fixed = true ∨
    v.filename ∈ files ∧ hasChanged fs (Path.join dir v.filename) (docs.get v.doc) = false

/-- A row has its version at a locality in the file with a name. -/
def Tracks (loc : Locality) (t : EntryTable ρ) (docs : DocumentTable) (name : String) : Prop :=
  ∃ id v, t.tracked? docs loc id = some v ∧ v.filename = name

theorem dropWhere_idle {p : Entry → DocumentTable → Bool} (spared : ∀ id e, t.entryAt? id = some e → p e docs = false)
    (ids : List Nat) : dropWhere p loc t docs ids = (t, docs) := by
  induction ids with
  | nil => rfl
  | cons id ids ih =>
    rw [dropWhere, if_neg, ih]
    intro chosen
    obtain ⟨e, found, chosen⟩ := (Option.any_eq_true _ _).1 chosen
    exact Bool.noConfusion ((spared id e found).symm.trans chosen)

theorem Steady.dropMissing (h : t.Steady fs dir loc files docs) (ids : List Nat) :
    dropMissing loc files t docs ids = (t, docs) := by
  induction ids with
  | nil => rfl
  | cons id ids ih =>
    rw [EntryTable.dropMissing, if_neg, ih]
    intro missing
    obtain ⟨v, tracked, gone⟩ := (Option.any_eq_true _ _).1 missing
    rw [Bool.and_eq_true, Bool.not_eq_true', Bool.not_eq_true', ← Bool.not_eq_true, List.contains_iff_mem] at gone
    rcases h id v tracked with fixed | ⟨listed, -⟩
    · exact Bool.noConfusion (fixed.symm.trans gone.2)
    · exact gone.1 listed

/-- No file is read again for steady rows, and the files of no row are left. -/
theorem Steady.reloadChanged (h : t.Steady fs dir loc files docs) (single : left.Nodup) (ids : List Nat) :
    ∃ rest, reloadChanged fs dir loc left t docs ids = (t, docs, rest) ∧
      ∀ name, name ∈ rest ↔ name ∈ left ∧ ∀ id ∈ ids, ∀ v, t.tracked? docs loc id = some v → v.filename ≠ name := by
  induction ids generalizing left with
  | nil => exact ⟨left, rfl, fun name => ⟨fun member => ⟨member, fun _ none_ => absurd none_ List.not_mem_nil⟩, And.left⟩⟩
  | cons id ids ih =>
    have step {left' : List String} (single' : left'.Nodup)
        (members' : ∀ name, name ∈ left' ↔ name ∈ left ∧ ∀ v, t.tracked? docs loc id = some v → v.filename ≠ name) :
        ∃ rest, EntryTable.reloadChanged fs dir loc left' t docs ids = (t, docs, rest) ∧ ∀ name, name ∈ rest ↔
          name ∈ left ∧ ∀ other ∈ id :: ids, ∀ v, t.tracked? docs loc other = some v → v.filename ≠ name := by
      obtain ⟨rest, idle, members⟩ := ih single'
      refine ⟨rest, idle, fun name => ?_⟩
      rw [members, members', List.forall_mem_cons, and_assoc]
    rw [EntryTable.reloadChanged]
    cases tracked : t.tracked? docs loc id with
    | none =>
      refine step single fun name => (and_iff_left fun v there => ?_).symm
      rw [tracked] at there
      cases there
    | some v =>
      have only (name : String) : (∀ w, t.tracked? docs loc id = some w → w.filename ≠ name) ↔ v.filename ≠ name := by
        rw [tracked]
        exact ⟨fun all => all v rfl, fun apart w same => Option.some.inj same ▸ apart⟩
      rw [Option.filter_some]
      cases there : left.contains v.filename with
      | false =>
        refine step single fun name => ?_
        rw [only]
        refine (and_iff_left_of_imp ?_).symm
        rintro member rfl
        rw [List.contains_iff_mem.2 member] at there
        cases there
      | true =>
        have same : (hasChanged fs (Path.join dir v.filename) (docs.get v.doc) && !v.fixed) = false := by
          rcases h id v tracked with fixed | ⟨-, unchanged⟩
          · rw [fixed, Bool.not_true, Bool.and_false]
          · rw [unchanged, Bool.false_and]
        rw [if_pos rfl]
        dsimp only
        rw [same, if_neg Bool.false_ne_true]
        refine step (single.erase _) fun name => ?_
        rw [only, single.mem_erase_iff, ne_comm, and_comm]

theorem addNew_idle (unreadable : ∀ name ∈ left, ∀ d, Document.load fs (Path.join dir name) ≠ .ok d) :
    addNew fs dir loc t docs left = (t, docs) := by
  induction left with
  | nil => rfl
  | cons name left ih =>
    rw [addNew]
    split
    · exact ih fun other member => unreadable other (List.mem_cons_of_mem name member)
    · next loaded =>
      obtain ⟨d, read, -⟩ := DocumentTable.load_eq_ok loaded
      exact absurd read (unreadable name List.mem_cons_self d)

/-- A scan of a directory, from steady rows, only adds new files: those that no row has its version from. -/
theorem Steady.sync (h : t.Steady fs dir loc (TableView.versionFiles fs dir extension) docs) (regular : fs.Regular)
    (isDir : fs.isDirectory dir = true) : ∃ rest, t.sync docs fs dir loc extension = addNew fs dir loc t docs rest ∧
      ∀ name, name ∈ rest ↔ name ∈ TableView.versionFiles fs dir extension ∧ ¬Tracks loc t docs name := by
  obtain ⟨rest, idle, members⟩ := h.reloadChanged
    (show (TableView.versionFiles fs dir extension).Nodup from regular.nodup_listDir _ _ _) (List.range t.size)
  refine ⟨rest, ?_, fun name => (members name).trans (and_congr_right fun _ => ?_)⟩
  · rw [EntryTable.sync, if_pos isDir, ← TableView.versionFiles]
    dsimp only
    rw [h.dropMissing]
    dsimp only
    rw [idle]
  · rw [Tracks]
    push Not
    refine ⟨fun within id v tracked => within id ?_ v tracked, fun all id _ => all id⟩
    obtain ⟨e, found, -⟩ := Option.bind_eq_some_iff.1 tracked
    obtain ⟨row, place, -⟩ := row?_of_entryAt? found
    exact List.mem_range.2 (lt_of_row? place)

/-! ## Two scans -/

variable [Keeper ρ] [Pruning ρ] {ν : Type} [RowView ν] [lawful : LawfulRowView ν] [viewed : Viewed ρ ν] {others : List Nat}

omit [Pruning ρ] lawful in
theorem Sound.backed_view (h : t.Sound) {id : Nat} {e : EntryView} (found : (t.view docs).entryAt? id = some e) : e.Backed := by
  rw [entryAt?_view] at found
  obtain ⟨e, found', rfl⟩ := Option.map_eq_some_iff.1 found
  obtain ⟨row, place, rfl⟩ := row?_of_entryAt? found'
  intro installed
  have factory := (h.rows row (mem_of_row? place)).agrees.factory
  rw [Entry.view, Option.isSome_map, ← factory, Locality.isFactory]
  exact Bool.or_eq_true_iff.2 (.inr installed)

include lawful viewed in
/-- A scan of a directory leaves steady rows. -/
theorem steady_sync (sound : t.Sound) (holding : docs.Holding (t.held ++ others)) (source : loc.IsSource)
    (apart : t.Apart docs loc) (regular : fs.Regular) (isDir : fs.isDirectory dir = true) :
    (t.sync docs fs dir loc extension).1.Steady fs dir loc (TableView.versionFiles fs dir extension)
      (t.sync docs fs dir loc extension).2 := by
  intro id v tracked
  have seen := tracked?_view (t.sync docs fs dir loc extension).1 (t.sync docs fs dir loc extension).2 loc id
  rw [tracked, Option.map_some, view_sync (lasting_sound source) ⟨sound, others, holding⟩, TableView.tracked?_eq] at seen
  obtain ⟨e, found, tracks⟩ := Option.bind_eq_some_iff.1 seen
  exact (sound.compact_view docs).steady_sync source apart.view regular isDir found _ tracks

include lawful viewed in
/-- Where there is no directory a second scan changes nothing. -/
theorem sync_sync_of_missing (sound : t.Sound) (holding : docs.Holding (t.held ++ others)) (source : loc.IsSource)
    (missing : fs.isDirectory dir = false) :
    (t.sync docs fs dir loc extension).1.sync (t.sync docs fs dir loc extension).2 fs dir loc extension =
      t.sync docs fs dir loc extension := by
  have eq (t : EntryTable ρ) (docs : DocumentTable) : t.sync docs fs dir loc extension = t.dropVanished loc docs := by
    rw [sync, missing, if_neg Bool.false_ne_true]
  rw [eq t docs, eq]
  refine dropWhere_idle (fun id e found => ?_) _
  have seen := entryAt?_view (t.dropVanished loc docs).1 (t.dropVanished loc docs).2 id
  rw [found, Option.map_some, view_dropVanished (lasting_sound source) ⟨sound, others, holding⟩] at seen
  obtain ⟨row, place, entry⟩ := Option.map_eq_some_iff.1 seen
  have spared := TableView.eq_false_of_dropWhere (fun e => by rw [e.meets_dropVersions]; rfl)
    (by cases source <;> rfl) place
  rwa [entry, Entry.view_locality, Entry.hasUnsavedOwn_view] at spared

/-- Each file of a directory that can be read is that of a version. -/
def TakesIn (fs : FileSystem) (dir extension : String) (loc : Locality) (s : EntryTable ρ × DocumentTable) : Prop :=
  ∀ name ∈ TableView.versionFiles fs dir extension, ∀ d, Document.load fs (Path.join dir name) = .ok d →
    Tracks loc s.1 s.2 name

/-- A second scan of a directory changes nothing if the first one has found a row for each file that can be read; and else
it changes a row or a document. -/
theorem sync_sync (sound : t.Sound) (holding : docs.Holding (t.held ++ others)) (source : loc.IsSource)
    (apart : t.Apart docs loc) (regular : fs.Regular) (dir extension : String) :
    let s := t.sync docs fs dir loc extension
    let again := s.1.sync s.2 fs dir loc extension
    (TakesIn fs dir extension loc s → again = s) ∧
      (again.1.view again.2 = s.1.view s.2 → TakesIn fs dir extension loc s) := by
  have passes := passes_sync sound source docs fs dir extension
  have held := (passes.trades others holding).1
  cases isDir : fs.isDirectory dir with
  | false =>
    refine ⟨fun _ => sync_sync_of_missing sound holding source isDir, fun _ name listed => ?_⟩
    rw [TableView.versionFiles, listDir_of_not_isDirectory isDir] at listed
    cases listed
  | true =>
    obtain ⟨rest, added, members⟩ := (steady_sync sound holding source apart regular isDir).sync regular isDir
    dsimp only
    rw [added]
    refine ⟨fun takesIn => addNew_idle fun name member d read => ?_, fun same name listed d read => ?_⟩
    · obtain ⟨listed, untracked⟩ := (members name).1 member
      exact untracked (takesIn name listed d read)
    · by_contra untracked
      rw [view_addNew (lasting_sound source) ⟨passes.sound, others, held⟩] at same
      obtain ⟨other, member, id, v, tracked, named⟩ := TableView.exists_tracked?_addNew source
        (fun name member => regular.isFileName_of_mem_listDir ((members name).1 member).1)
        (fun id e found => passes.sound.backed_view found) ((members name).2 ⟨listed, untracked⟩) read
      rw [same, tracked?_view] at tracked
      obtain ⟨v', tracked', rfl⟩ := Option.map_eq_some_iff.1 tracked
      exact ((members other).1 member).2 ⟨id, v', tracked', named⟩

end EntryTable

/-! ## A theme and its twin -/

/-- What the file of a theme says that has an identity. -/
def twinText : ByteArray := "<plist><dict><key>uuid</key><string>U</string></dict></plist>".toUTF8

/-- A file system with two themes of one identity. -/
def twinFiles : FileSystem := { nodes := [
  ([], .directory 0o755 0), (["Themes"], .directory 0o755 0), (["Themes", "A.tmTheme"], .file twinText 0o644 1000000000),
  (["Themes", "B.tmTheme"], .file twinText 0o644 1000000000)] }

theorem isFileName_twin : IsFileName "B.tmTheme" := ⟨by decide, by decide, by decide, by decide, by decide⟩

theorem regular_twinFiles : twinFiles.Regular where
  single := by decide
  named := by simp [twinFiles, Entries.keys, isFileName_themes, isFileName_theme, isFileName_twin]

theorem locate_twinThemes : twinFiles.locate "Themes" = .ok (["Themes"], .directory 0o755 0) :=
  locate_name isFileName_themes rfl rfl rfl rfl

theorem versionFiles_twinFiles : TableView.versionFiles twinFiles "Themes" ".tmTheme" = ["A.tmTheme", "B.tmTheme"] := by
  have kept : (hasExtension "A.tmTheme" ".plist" = false ∧ hasExtension "A.tmTheme" ".tmTheme" = true) ∧
      hasExtension "B.tmTheme" ".plist" = false ∧ hasExtension "B.tmTheme" ".tmTheme" = true := by
    refine ⟨⟨?_, ?_⟩, ?_, ?_⟩ <;> decide +kernel
  have found : (listDir twinFiles "Themes" false fun name => hasExtension name ".plist" || hasExtension name ".tmTheme") =
      ["A.tmTheme", "B.tmTheme"].mergeSort (fun a b => a ≤ b) := by
    rw [listDir, FileSystem.children_eq locate_twinThemes rfl, show twinFiles.childrenAt ["Themes"] = [
      ("A.tmTheme", .file twinText 0o644 1000000000), ("B.tmTheme", .file twinText 0o644 1000000000)] from rfl]
    simp [FileNode.isDirectory, kept]
  exact found.trans (List.mergeSort_of_pairwise (by decide))

/-- A file with that text can be read as a theme. -/
theorem load_twinText {fs : FileSystem} {name : String} {place : Place} (isName : IsFileName name)
    (located : fs.locate (Path.join "Themes" name) = .ok (place, .file twinText 0o644 1000000000)) :
    ∃ d, Document.load fs (Path.join "Themes" name) = .ok d ∧ d.filename = name ∧ d.rootString? "uuid" = some "U" := by
  obtain ⟨d, parsed, uuid⟩ : ∃ d, Document.parse twinText = .ok d ∧ d.rootString? "uuid" = some "U" :=
    Document.exists_parse (by decide +kernel)
  exact ⟨_, Document.load_of_locate located parsed (isName.fileName?_join _), rfl, uuid⟩

/-- The version of the only row of a table is in the file that its own document is named for. -/
theorem tracked?_single {e : Entry} {docs : DocumentTable} {doc : Nat} (flags : e.locality = { own := true })
    (held : e.ownDoc = some doc) (id : Nat) : EntryTable.tracked? ⟨[e]⟩ docs { own := true } id =
      if id = 0 then some ⟨doc, (docs.get doc).filename, decide ((docs.get doc).modTime = 0)⟩ else none := by
  cases id with
  | succ id => rfl
  | zero =>
    rw [EntryTable.tracked?, show EntryTable.entryAt? ⟨[e]⟩ 0 = some e from rfl]
    simp [Entry.docFor, Entry.hasUnsavedOwn, flags, held, Locality.contains]

/-- The first of the files gives a table its first row. -/
theorem addNew_first {fs : FileSystem} {a : Document} (read : Document.load fs (Path.join "Themes" "A.tmTheme") = .ok a)
    (files : List String) :
    EntryTable.addNew fs "Themes" { own := true } ({} : EntryTable Entry) {} ("A.tmTheme" :: files) =
      EntryTable.addNew fs "Themes" { own := true } ⟨[(Entry.new { own := true } 0).identify a]⟩ { documents := #[a] } files := by
  have loaded : DocumentTable.load {} fs (Path.join "Themes" "A.tmTheme") = .ok ({ documents := #[a] }, 0) := by
    rw [DocumentTable.load, read]
    rfl
  have unknown : (a.rootString? "uuid").bind (EntryTable.findUuid? ({} : EntryTable Entry)) = none := by
    cases a.rootString? "uuid" <;> rfl
  rw [EntryTable.addNew, loaded]
  dsimp only
  rw [show ({ documents := #[a] } : DocumentTable).get 0 = a from rfl, unknown]
  rfl

/-- The second one, with the same identity, takes the row over. -/
theorem exists_addNew_second {fs : FileSystem} {a b : Document} (identity : a.rootString? "uuid" = some "U")
    (same : b.rootString? "uuid" = some "U") (read : Document.load fs (Path.join "Themes" "B.tmTheme") = .ok b) :
    ∃ e docs, EntryTable.addNew fs "Themes" { own := true } ⟨[(Entry.new { own := true } 0).identify a]⟩
      { documents := #[a] } ["B.tmTheme"] = (⟨[e]⟩, docs) ∧ e.locality = { own := true } ∧ e.ownDoc = some 1 ∧
        docs.get 1 = b := by
  have loaded : DocumentTable.load { documents := #[a] } fs (Path.join "Themes" "B.tmTheme") =
      .ok ({ documents := #[a, b] }, 1) := by
    rw [DocumentTable.load, read]
    rfl
  have known : EntryTable.findUuid? ⟨[(Entry.new { own := true } 0).identify a]⟩ "U" = some 0 := by
    simp [EntryTable.findUuid?, EntryTable.findEntry?, Entry.identify, Entry.new, identity, Entry.isTombstone, Row.entry]
  rw [EntryTable.addNew, loaded]
  dsimp only
  rw [show ({ documents := #[a, b] } : DocumentTable).get 1 = b from rfl, same, Option.bind_some, known]
  exact ⟨_, _, rfl, (by decide : Locality.union { own := true } { own := true } = { own := true }), rfl, rfl⟩

/-- A theme that is scanned again stays as it is. Where two have one identity, a second scan changes what the first one
left. -/
theorem sync_sync_twins :
    (let s := ({} : EntryTable Entry).sync {} (themeFile twinText) "Themes" { own := true } ".tmTheme"
     s.1.size = 1 ∧ s.1.sync s.2 (themeFile twinText) "Themes" { own := true } ".tmTheme" = s) ∧
    (let s := ({} : EntryTable Entry).sync {} twinFiles "Themes" { own := true } ".tmTheme"
     let again := s.1.sync s.2 twinFiles "Themes" { own := true } ".tmTheme"
     again.1.view again.2 ≠ s.1.view s.2) := by
  have apart : ({} : EntryTable Entry).Apart {} { own := true } := fun _ _ _ _ first => by cases first
  have holding : DocumentTable.Holding {} (({} : EntryTable Entry).held ++ []) := DocumentTable.holding_empty
  constructor
  · obtain ⟨a, read, named, -⟩ := load_twinText isFileName_theme (locate_theme twinText)
    have scanned : ({} : EntryTable Entry).sync {} (themeFile twinText) "Themes" { own := true } ".tmTheme" =
        (⟨[(Entry.new { own := true } 0).identify a]⟩, { documents := #[a] }) := by
      rw [EntryTable.sync, if_pos (isDirectory_iff.2 ⟨_, _, _, locate_themes twinText⟩),
        show listDir _ _ false _ = _ from versionFiles_themeFile twinText]
      exact addNew_first read []
    have settled := (EntryTable.sync_sync EntryTable.sound_empty holding .own apart (regular_themeFile twinText) "Themes"
      ".tmTheme").1
    rw [scanned] at settled ⊢
    refine ⟨rfl, settled fun name listed d _ => ?_⟩
    rw [versionFiles_themeFile] at listed
    obtain rfl := List.mem_singleton.1 listed
    exact ⟨0, _, tracked?_single rfl (rfl : Entry.ownDoc _ = some 0) 0, named⟩
  · obtain ⟨a, readA, -, identity⟩ := load_twinText isFileName_theme (locate_join locate_twinThemes rfl isFileName_theme rfl)
    obtain ⟨b, readB, named, same⟩ := load_twinText isFileName_twin (locate_join locate_twinThemes rfl isFileName_twin rfl)
    obtain ⟨e, docs, added, flags, own, document⟩ := exists_addNew_second identity same readB
    have scanned : ({} : EntryTable Entry).sync {} twinFiles "Themes" { own := true } ".tmTheme" = (⟨[e]⟩, docs) := by
      rw [EntryTable.sync, if_pos (isDirectory_iff.2 ⟨_, _, _, locate_twinThemes⟩),
        show listDir _ _ false _ = _ from versionFiles_twinFiles]
      exact (addNew_first readA ["B.tmTheme"]).trans added
    have settled := (EntryTable.sync_sync EntryTable.sound_empty holding .own apart regular_twinFiles "Themes" ".tmTheme").2
    rw [scanned] at settled ⊢
    dsimp only at settled ⊢
    intro unchanged
    obtain ⟨id, v, tracked, first⟩ := settled unchanged "A.tmTheme" (by rw [versionFiles_twinFiles]; exact List.mem_cons_self)
      a readA
    rw [tracked?_single flags own] at tracked
    split at tracked
    · obtain rfl := Option.some.inj tracked
      rw [document, named] at first
      dsimp only at first
      exact absurd first (by decide)
    · cases tracked

end EditorBundles.Catalog
