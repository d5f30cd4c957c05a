import EditorBundles.Proofs.Catalog.CachedNames
import EditorBundles.Proofs.Catalog.ScanRows
import EditorBundles.Proofs.FileSystem.Contents

/-!
# Files that cannot be read

A scan of a directory with a file that cannot be read leaves what it leaves without that file: a row with an old version
from it loses the version while changed files are read again, and otherwise loses it before, as a version whose file is
missing. As each row is changed on its own, it makes no difference when.
-/

namespace EditorBundles.FileSystem
set_option autoImplicit false
open Catalog

variable {fs fs' : FileSystem} {here place : Place} {dir name other : String} {node : FileNode} {keep : String → Bool}

/-- Below a file in a tree there is nothing. -/
theorem Tree.node?_below_file (tree : fs.Tree) (found : fs.node? here = some node) (file : node.isDirectory = false)
    (below : here <+: place) (different : here ≠ place) : fs.node? place = none := by
  rw [← contentAt?_eq_none_iff]
  by_contra there
  obtain ⟨mode, modified, directory⟩ := contentAt?_eq_directory_iff.1 (tree.directory_of_prefix there below different)
  rw [found] at directory
  obtain rfl := Option.some.inj directory
  cases file

/-- Without a file a tree is as it was elsewhere. -/
theorem differAt_dropNodes (regular : fs.Regular) (tree : fs.Tree) (found : fs.node? here = some node)
    (file : node.isDirectory = false) (around : fs.HasDirectory here.dropLast) : DifferAt here fs (fs.dropNodes here) where
  elsewhere := by
    have stamped := elsewhere_stampParent fs here here fun parent there => by
      obtain ⟨mode, modified, directory⟩ := around
      rw [directory] at there
      exact Option.some.inj there ▸ rfl
    rw [← stamped, elsewhere, elsewhere, dropNodes]
    dsimp only
    rw [List.filter_filter]
    congr 1
    refine List.filter_congr fun entry member => ?_
    by_cases same : entry.1 = here
    · simp [same]
    · have outside : ¬here <+: entry.1 := fun below => by
        have nothing := Entries.get?_eq_none_iff.1 (tree.node?_below_file found file below (Ne.symm same))
        rw [← keys_stampParent fs here] at nothing
        exact nothing (List.mem_map_of_mem member)
      simp [same, outside]
  file node' member := by
    rw [regular.node?_of_mem member] at found
    exact Option.some.inj found ▸ file
  file' node' member := by
    have gone := node?_dropNodes fs here here
    rw [if_pos (List.prefix_refl here), (regular.dropNodes here).node?_of_mem member] at gone
    cases gone

/-- A file system is another one without a file of a directory. -/
structure Lacks (fs : FileSystem) (dir name : String) (fs' : FileSystem) : Prop where
  isDirectory : fs'.isDirectory dir = fs.isDirectory dir
  others : ∀ keep, ∀ other ∈ listDir fs dir false keep, other ≠ name →
    fs'.locate (Path.join dir other) = fs.locate (Path.join dir other)
  files : ∀ keep, listDir fs' dir false keep = (listDir fs dir false keep).filter (· ≠ name)

/-- A file that is listed can be removed. -/
theorem exists_lacks (regular : fs.Regular) (tree : fs.Tree) (listed : name ∈ listDir fs dir false keep) :
    ∃ fs', fs.removeFile (Path.join dir name) = .ok fs' ∧ Lacks fs dir name fs' := by
  have isDir : fs.isDirectory dir = true := by
    by_contra missing
    rw [listDir_of_not_isDirectory (Bool.not_eq_true _ ▸ missing)] at listed
    cases listed
  obtain ⟨place, mode, modified, located⟩ := isDirectory_iff.1 isDir
  obtain ⟨-, node, child, file⟩ := mem_listDir.1 listed
  obtain ⟨isName, there⟩ := regular.locate_child located rfl child
  obtain ⟨-, found, -⟩ := locate_eq_ok.1 there
  have differs : DifferAt (place ++ [name]) fs (fs.dropNodes (place ++ [name])) := by
    refine differAt_dropNodes regular tree found file ?_
    rw [List.dropLast_concat]
    exact ⟨mode, modified, (locate_eq_ok.1 located).2.1⟩
  obtain ⟨modified', located'⟩ := differs.locate_directory located
  have regular' := regular.dropNodes (place ++ [name])
  have stays {other : String} {node' : FileNode} (file' : node'.isDirectory = false) :
      (other, node') ∈ (fs.dropNodes (place ++ [name])).childrenAt place ↔
        (other, node') ∈ fs.childrenAt place ∧ other ≠ name := by
    rw [mem_childrenAt, mem_childrenAt]
    constructor
    · intro member
      have different : other ≠ name := by
        rintro rfl
        have gone := node?_dropNodes fs (place ++ [other]) (place ++ [other])
        rw [if_pos (List.prefix_refl _), regular'.node?_of_mem member] at gone
        cases gone
      exact ⟨mem_of_node? (differs.symm.file_eq (by simpa using different) (regular'.node?_of_mem member) file'), different⟩
    · rintro ⟨member, different⟩
      exact mem_of_node? (differs.file_eq (by simpa using different) (regular.node?_of_mem member) file')
  refine ⟨fs.dropNodes (place ++ [name]), ?_, (differs.isDirectory_eq dir).symm, fun keep other listed different => ?_,
    fun keep => ?_⟩
  · rw [removeFile, there]
    cases node with
    | file octets mode modified => rfl
    | directory mode modified => cases file
  · obtain ⟨-, node', child', file'⟩ := mem_listDir.1 listed
    have there' := (regular.locate_child located rfl child').2
    rw [there', differs.locate_file there' file' (by simpa using different)]
  · have single := regular.nodup_listDir dir false keep
    refine List.Perm.eq_of_pairwise (fun a b _ _ => String.le_antisymm) (pairwise_mergeSort_key id _)
      ((pairwise_mergeSort_key id _).filter _) ?_
    refine (List.perm_ext_iff_of_nodup (regular'.nodup_listDir dir false keep) (single.filter _)).2 fun other => ?_
    rw [List.mem_filter, mem_listDir, mem_listDir, children_eq located' rfl, children_eq located rfl, decide_eq_true_eq]
    constructor
    · rintro ⟨kept, node', member, file'⟩
      obtain ⟨member, different⟩ := (stays file').1 member
      exact ⟨⟨kept, node', member, file'⟩, different⟩
    · rintro ⟨⟨kept, node', member, file'⟩, different⟩
      exact ⟨kept, node', (stays file').2 ⟨member, different⟩, file'⟩

end EditorBundles.FileSystem

namespace EditorBundles.Catalog
set_option autoImplicit false
open PropertyList FileSystem

variable {fs fs' : FileSystem} {dir extension name : String} {loc : Locality} {files : List String}

namespace TableView

variable {ν : Type} [RowView ν] {t : TableView ν} {row : ν}

/-- A file that cannot be read adds nothing. -/
theorem addNew_filter {fault : PropertyList.Fault} (unreadable : Document.load fs (Path.join dir name) = .error fault)
    (t : TableView ν) : addNew fs dir loc t (files.filter (· ≠ name)) = addNew fs dir loc t files := by
  induction files generalizing t with
  | nil => rfl
  | cons other files ih =>
    by_cases same : other = name
    · rw [List.filter_cons_of_neg (by simpa using same), ih, addNew, same, unreadable]
    · rw [List.filter_cons_of_pos (by simpa using same), addNew, addNew]
      split
      · exact ih t
      · split
        · exact ih _
        · exact ih _

variable [LawfulRowView ν]

omit [LawfulRowView ν] in
/-- What a scan makes of a row is what it makes of it without a file that cannot be read. -/
theorem scanRow?_filter {fault : PropertyList.Fault} (unreadable : Document.load fs (Path.join dir name) = .error fault)
    (same : ∀ other ∈ files, other ≠ name → fs'.locate (Path.join dir other) = fs.locate (Path.join dir other))
    (changed : ∀ v, (RowView.entry row).tracked? loc = some v → v.filename = name →
      EntryTable.hasChanged fs (Path.join dir name) v.document = true) :
    scanRow? fs' dir loc (files.filter (· ≠ name)) row = scanRow? fs dir loc files row := by
  rw [scanRow?, scanRow?]
  cases tracked : (RowView.entry row).tracked? loc with
  | none => rfl
  | some v =>
    dsimp only
    by_cases gone : v.filename = name
    · have absent : (files.filter (· ≠ name)).contains v.filename = false := by simp [gone]
      rw [absent, gone, unreadable, changed v tracked gone]
      simp
    · have kept : (files.filter (· ≠ name)).contains v.filename = files.contains v.filename := by
        rw [Bool.eq_iff_iff, List.contains_iff_mem, List.contains_iff_mem, List.mem_filter]
        exact and_iff_left (decide_eq_true gone)
      rw [kept]
      split
      · rfl
      · split
        · next listed =>
          have there := same _ (List.contains_iff_mem.1 listed) gone
          rw [hasChanged_congr there, load_congr there]
        · rfl

/-- A scan of a directory with a file that cannot be read leaves what it leaves without that file. -/
theorem Compact.sync_lacks {fault : PropertyList.Fault} (h : t.Compact) (source : loc.IsSource) (apart : t.Apart loc)
    (regular : fs.Regular) (lacks : fs.Lacks dir name fs')
    (unreadable : Document.load fs (Path.join dir name) = .error fault)
    (changed : ∀ id v, t.tracked? loc id = some v → v.filename = name →
      EntryTable.hasChanged fs (Path.join dir name) v.document = true) :
    t.sync fs' dir loc extension = t.sync fs dir loc extension := by
  have files : versionFiles fs' dir extension = (versionFiles fs dir extension).filter (· ≠ name) := lacks.files _
  have others : ∀ other ∈ versionFiles fs dir extension, other ≠ name →
      fs'.locate (Path.join dir other) = fs.locate (Path.join dir other) := lacks.others _
  have single : (versionFiles fs dir extension).Nodup := regular.nodup_listDir _ _ _
  cases isDir : fs.isDirectory dir with
  | false =>
    have isDir' := lacks.isDirectory.trans isDir
    rw [sync, sync, isDir, isDir']
    rfl
  | true =>
    rw [sync_eq_rounds isDir, sync_eq_rounds (lacks.isDirectory.trans isDir), files]
    obtain ⟨compact, rows, left⟩ := h.rounds source apart single fs dir
    obtain ⟨compact', rows', left'⟩ := h.rounds source apart (single.filter (· ≠ name)) fs' dir
    have tables := compact'.ext compact fun id => by
      rw [rows, rows']
      cases found : t.present? id with
      | none => rfl
      | some row =>
        refine scanRow?_filter unreadable others fun v tracked => changed id v ?_
        rw [h.tracked?_eq source, found, Option.bind_some, tracked]
    rw [tables, left, left', ← addNew_filter unreadable, List.filter_filter, List.filter_filter]
    simp only [Bool.and_comm]
    refine addNew_congr (fun other member => ?_) _
    obtain ⟨listed, kept⟩ := List.mem_filter.1 member
    rw [Bool.and_eq_true, decide_eq_true_eq] at kept
    exact others other listed kept.1

end TableView

namespace EntryTable

variable {ρ : Type} [Row ρ] [Keeper ρ] [Pruning ρ] {ν : Type} [RowView ν] [LawfulRowView ν] [Viewed ρ ν] {t : EntryTable ρ}
  {docs : DocumentTable} {others : List Nat}

/-- Two tables with their documents look the same, beside documents that are held elsewhere: they differ in the numbers of
documents at most. -/
structure Alike (others : List Nat) (one two : EntryTable ρ × DocumentTable) : Prop where
  rows : one.1.view one.2 = two.1.view two.2
  first : one.2.Holding (one.1.held ++ others)
  second : two.2.Holding (two.1.held ++ others)
  others : ∀ index ∈ others, one.2.get index = two.2.get index

/-- A file that cannot be read, and that has another time than a version that a row has from it, counts as none: it can be
removed, and a scan without it leaves the same rows and the same documents, but for their numbers. -/
theorem alike_sync_removeFile (sound : t.Sound) (holding : docs.Holding (t.held ++ others)) (source : loc.IsSource)
    (apart : t.Apart docs loc) (regular : fs.Regular) (tree : fs.Tree)
    (listed : name ∈ TableView.versionFiles fs dir extension)
    (unreadable : ∀ d, Document.load fs (Path.join dir name) ≠ .ok d)
    (changed : ∀ id v, t.tracked? docs loc id = some v → v.filename = name →
      fs.modTime (Path.join dir name) ≠ .ok (docs.get v.doc).modTime) :
    ∃ fs', fs.removeFile (Path.join dir name) = .ok fs' ∧
      Alike others (t.sync docs fs' dir loc extension) (t.sync docs fs dir loc extension) := by
  obtain ⟨fs', removed, lacks⟩ := exists_lacks regular tree listed
  have passes (fs : FileSystem) := (passes_sync sound source docs fs dir extension).trades others holding
  refine ⟨fs', removed, ?_, (passes fs').1, (passes fs).1, fun index member => ?_⟩
  · have stocked : t.Stocked Sound docs := ⟨sound, others, holding⟩
    rw [view_sync (lasting_sound source) stocked, view_sync (lasting_sound source) stocked]
    cases read : Document.load fs (Path.join dir name) with
    | ok d => exact absurd read (unreadable d)
    | error fault =>
      refine (sound.compact_view docs).sync_lacks source apart.view regular lacks read fun id v tracked same => ?_
      rw [tracked?_view] at tracked
      obtain ⟨v', tracked', rfl⟩ := Option.map_eq_some_iff.1 tracked
      have changed := changed id v' tracked' same
      rw [hasChanged]
      split
      · next modTime time =>
        rw [time] at changed
        simpa using changed
      · rfl
  · rw [(passes fs').2 index member, (passes fs).2 index member]

end EntryTable

/-! ## A theme whose file is spoilt -/

theorem regular_themeFile (octets : ByteArray) : (themeFile octets).Regular where
  single := by simp [themeFile, Entries.keys]
  named place member name part := by
    simp only [themeFile, Entries.keys, List.map_cons, List.map_nil, List.mem_cons, List.not_mem_nil, or_false] at member
    rcases member with rfl | rfl | rfl
    · cases part
    · exact List.mem_singleton.1 part ▸ isFileName_themes
    · rcases List.mem_cons.1 part with rfl | part
      · exact isFileName_themes
      · exact List.mem_singleton.1 part ▸ isFileName_theme

theorem tree_themeFile (octets : ByteArray) : (themeFile octets).Tree where
  top := ⟨_, _, rfl⟩
  around here name there := by
    have known : here ++ [name] ∈ Entries.keys (themeFile octets).nodes := by
      by_contra missing
      rw [FileSystem.node?, Entries.get?_eq_none_iff.2 missing] at there
      cases there
    have among : here ∈ (Entries.keys (themeFile octets).nodes).map List.dropLast :=
      List.mem_map.2 ⟨_, known, List.dropLast_concat⟩
    simp only [themeFile, Entries.keys, List.map_cons, List.map_nil, List.mem_cons, List.not_mem_nil, or_false] at among
    rcases among with rfl | rfl | rfl <;> exact ⟨_, _, rfl⟩

/-- A theme of the user's own that was read from its file seven seconds after the epoch. -/
def readTheme : EntryTable Entry × DocumentTable :=
  (⟨[{ uuid := "UA", name := "A", locality := { own := true }, ownDoc := some 0 }]⟩,
    { documents := #[{ Document.create "A" "UA" with filename := "A.tmTheme", modTime := 7 }] })

theorem sound_readTheme : readTheme.1.Sound where
  rows row member := by
    obtain rfl := List.mem_singleton.1 member
    exact ⟨trivial, .inl ⟨⟨rfl, rfl⟩, rfl, rfl⟩⟩
  last row last := by
    obtain rfl := Option.some.inj last
    rfl

theorem holding_readTheme : readTheme.2.Holding (readTheme.1.held ++ []) where
  indices := .refl _
  vacant index member := by cases member
  stored index member := by
    obtain rfl := List.mem_singleton.1 member
    rfl

theorem tracked?_readTheme {id : Nat} {v : Tracked} (tracked : readTheme.1.tracked? readTheme.2 { own := true } id = some v) :
    id = 0 ∧ v = { doc := 0, filename := "A.tmTheme", fixed := false } := by
  cases id with
  | zero => exact ⟨rfl, (Option.some.inj tracked).symm⟩
  | succ id => cases tracked

theorem apart_readTheme : readTheme.1.Apart readTheme.2 { own := true } := by
  intro i j v w first second same
  rw [(tracked?_readTheme first).1, (tracked?_readTheme second).1]

theorem versionFiles_themeFile (octets : ByteArray) :
    TableView.versionFiles (themeFile octets) "Themes" ".tmTheme" = ["A.tmTheme"] :=
  listDir_theme (locate_themes octets) rfl rfl

/-- An octet that no text has cannot be read. -/
theorem isSome_read_spoilt : (PropertyList.read ⟨#[255]⟩).toOption.isSome = false := by decide +kernel

theorem load_spoilt (d : Document) : Document.load (themeFile ⟨#[255]⟩) (Path.join "Themes" "A.tmTheme") ≠ .ok d := by
  intro read
  obtain ⟨octets, there, read⟩ := bind_eq_ok read
  obtain ⟨parsed, here, -⟩ := bind_eq_ok read
  have there := mapError_eq_ok there
  rw [FileSystem.read, locate_theme] at there
  obtain rfl := Except.ok.inj there
  obtain ⟨entries, read, -⟩ := map_eq_ok (mapError_eq_ok here)
  have nothing := isSome_read_spoilt
  rw [read] at nothing
  cases nothing

/-- A theme file that was overwritten with something that cannot be read counts as none. -/
theorem alike_sync_removeFile_spoilt : ∃ fs', (themeFile ⟨#[255]⟩).removeFile (Path.join "Themes" "A.tmTheme") = .ok fs' ∧
    EntryTable.Alike [] (readTheme.1.sync readTheme.2 fs' "Themes" { own := true } ".tmTheme")
      (readTheme.1.sync readTheme.2 (themeFile ⟨#[255]⟩) "Themes" { own := true } ".tmTheme") := by
  refine EntryTable.alike_sync_removeFile sound_readTheme holding_readTheme .own apart_readTheme (regular_themeFile _)
    (tree_themeFile _) (versionFiles_themeFile _ ▸ List.mem_singleton_self _) load_spoilt fun id v tracked same => ?_
  obtain ⟨rfl, rfl⟩ := tracked?_readTheme tracked
  rw [Document.modTime_of_locate (locate_theme _)]
  intro equal
  exact absurd (Except.ok.inj equal) (by decide)

end EditorBundles.Catalog
