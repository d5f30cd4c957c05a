import EditorBundles.Proofs.Catalog.CatalogViews
import EditorBundles.Proofs.FileSystem.Writing
import EditorBundles.Proofs.PropertyList.Holding

/-!
# File systems that scans read alike

A scan that writes a manifest into the directory of a bundle goes on in another file system. Below the roots there
are the same directories in it, and the items of all bundles are read from it as before.
-/

namespace EditorBundles.FileSystem
set_option autoImplicit false
open Catalog

/-- What a child of a directory gives to a listing. -/
def listed? (place : Place) (directories : Bool) (keep : String → Bool) : Place × FileNode → Option String
  | (here, node) =>
    match here.getLast? with
    | some name =>
      if here.dropLast = place then if node.isDirectory = directories && keep name then some name else none else none
    | none => none

variable {fs fs' : FileSystem} {here place : Place} {dir : String} {directories : Bool} {keep : String → Bool}

/-- A listing of a directory that is there. -/
theorem listDir_eq {node : FileNode} (located : fs.locate dir = .ok (place, node)) (directory : node.isDirectory = true)
    (directories : Bool) (keep : String → Bool) :
    listDir fs dir directories keep = (fs.nodes.filterMap (listed? place directories keep)).mergeSort fun a b => a ≤ b := by
  rw [listDir, children_eq located directory, childrenAt, List.filterMap_filterMap]
  congr 2
  funext entry
  obtain ⟨here, node⟩ := entry
  unfold listed?
  dsimp only
  cases here.getLast? with
  | none => rfl
  | some name =>
    dsimp only
    split <;> rfl

/-- Nothing is listed where there is no directory. -/
theorem listDir_of_not_isDirectory (missing : fs.isDirectory dir = false) : listDir fs dir directories keep = [] := by
  have empty : fs.children dir = [] := by
    unfold children
    split
    · rename_i place mode modified located
      rw [isDirectory, located] at missing
      cases missing
    · rfl
  rw [listDir, empty]
  exact List.mergeSort_nil

theorem mem_listDir {name : String} : name ∈ listDir fs dir directories keep ↔
    keep name = true ∧ ∃ node, (name, node) ∈ fs.children dir ∧ node.isDirectory = directories := by
  unfold listDir
  rw [List.mem_mergeSort, List.mem_filterMap]
  constructor
  · rintro ⟨⟨name', node⟩, member, chosen⟩
    split at chosen
    · rename_i both
      cases chosen
      rw [Bool.and_eq_true, decide_eq_true_eq] at both
      exact ⟨both.2, node, member, both.1⟩
    · cases chosen
  · rintro ⟨kept, node, member, rfl⟩
    exact ⟨(name, node), member, by simp [kept]⟩

/-- What a directory lists are names. -/
theorem Regular.isFileName_of_mem_listDir (h : fs.Regular) {name : String} (listed : name ∈ listDir fs dir directories keep) :
    IsFileName name := by
  obtain ⟨-, node, child, -⟩ := mem_listDir.1 listed
  cases directory : fs.isDirectory dir with
  | false =>
    rw [listDir_of_not_isDirectory directory] at listed
    cases listed
  | true =>
    obtain ⟨place, mode, modified, located⟩ := isDirectory_iff.1 directory
    exact (h.locate_child located rfl child).1

/-- A document that was read is named after its file. -/
theorem filename_of_load {name : String} (isName : IsFileName name) {d : PropertyList.Document}
    (read : PropertyList.Document.load fs (Path.join dir name) = .ok d) : d.filename = name := by
  obtain ⟨octets, -, read⟩ := PropertyList.bind_eq_ok read
  obtain ⟨parsed, -, read⟩ := PropertyList.bind_eq_ok read
  obtain ⟨modTime, -, read⟩ := PropertyList.bind_eq_ok read
  obtain rfl := Except.ok.inj read
  rw [isName.fileName?_join]
  rfl

/-- A directory lists each name once. -/
theorem Regular.nodup_listDir (h : fs.Regular) (dir : String) (directories : Bool) (keep : String → Bool) :
    (listDir fs dir directories keep).Nodup := by
  cases directory : fs.isDirectory dir with
  | false =>
    rw [listDir_of_not_isDirectory directory]
    exact List.nodup_nil
  | true =>
    obtain ⟨place, mode, modified, located⟩ := isDirectory_iff.1 directory
    have place_of_listed {entry : Place × FileNode} {name : String} (chosen : listed? place directories keep entry = some name) :
        entry.1 = place ++ [name] := by
      obtain ⟨here, node⟩ := entry
      dsimp only [listed?] at chosen ⊢
      cases last : here.getLast? with
      | none =>
        rw [last] at chosen
        cases chosen
      | some ending =>
        rw [last] at chosen
        dsimp only at chosen
        split at chosen
        · rename_i front
          split at chosen <;> cases chosen
          rw [← front, List.dropLast_append_getLast? _ last]
        · cases chosen
    rw [FileSystem.listDir_eq located rfl, List.Perm.nodup_iff (List.mergeSort_perm _ _), List.Nodup, List.pairwise_filterMap]
    refine (List.pairwise_map.1 h.single).imp fun different name chosen name' chosen' same => different ?_
    rw [place_of_listed chosen, place_of_listed chosen', same]

/-- A listing that does not have what is at one place is the same in a file system that differs only there. -/
theorem DifferAt.listDir_eq (h : DifferAt here fs fs') (keep : String → Bool)
    (apart : directories = true ∨ ∀ place node, fs.locate dir = .ok (place, node) → place ≠ here.dropLast) :
    listDir fs dir directories keep = listDir fs' dir directories keep := by
  cases directory : fs.isDirectory dir with
  | false => rw [listDir_of_not_isDirectory directory, listDir_of_not_isDirectory ((h.isDirectory_eq dir).symm.trans directory)]
  | true =>
    obtain ⟨place, mode, modified, located⟩ := isDirectory_iff.1 directory
    obtain ⟨modified', located'⟩ := h.locate_directory located
    have timeless (there : Place) (node : FileNode) :
        listed? place directories keep (there, node.timeless) = listed? place directories keep (there, node) := by
      cases node <;> rfl
    have nothing (node : FileNode) (file : node.isDirectory = false) : listed? place directories keep (here, node) = none := by
      unfold listed?
      dsimp only
      split
      · split
        · rename_i inside
          rcases apart with rfl | apart
          · rw [file]
            rfl
          · exact absurd inside.symm (apart place _ located)
        · rfl
      · rfl
    rw [FileSystem.listDir_eq located rfl, FileSystem.listDir_eq located' rfl,
      ← filterMap_elsewhere timeless fun node member => nothing node (h.file node member),
      ← filterMap_elsewhere timeless fun node member => nothing node (h.file' node member), h.elsewhere]

end EditorBundles.FileSystem

namespace EditorBundles.Catalog
set_option autoImplicit false
open PropertyList FileSystem

/-! ## Reading files -/

section
variable {fs fs' : FileSystem} {path dir : String}

theorem hasChanged_congr (same : fs.locate path = fs'.locate path) (d : Document) :
    EntryTable.hasChanged fs path d = EntryTable.hasChanged fs' path d := by
  rw [EntryTable.hasChanged, EntryTable.hasChanged, modTime, modTime, same]

theorem load_congr (same : fs.locate path = fs'.locate path) : Document.load fs path = Document.load fs' path := by
  rw [Document.load, Document.load, FileSystem.read, FileSystem.read, modTime, modTime, same]

namespace TableView

variable {ν : Type} [RowView ν] {loc : Locality} {files : List String}

theorem reloadChanged_congr (same : ∀ name ∈ files, fs.locate (Path.join dir name) = fs'.locate (Path.join dir name))
    (t : TableView ν) (ids : List Nat) : reloadChanged fs dir loc files t ids = reloadChanged fs' dir loc files t ids := by
  induction ids generalizing t files with
  | nil => rfl
  | cons id ids ih =>
    rw [reloadChanged, reloadChanged]
    cases found : (t.tracked? loc id).filter fun v => files.contains v.filename with
    | none => exact ih same t
    | some v =>
      have listed : v.filename ∈ files := List.contains_iff_mem.1 (Option.filter_eq_some_iff.1 found).2
      have rest : ∀ name ∈ files.erase v.filename, fs.locate (Path.join dir name) = fs'.locate (Path.join dir name) :=
        fun name member => same name (List.mem_of_mem_erase member)
      dsimp only
      rw [hasChanged_congr (same _ listed), load_congr (same _ listed)]
      split
      · split
        · exact ih rest _
        · exact ih rest _
      · exact ih rest t

theorem addNew_congr (same : ∀ name ∈ files, fs.locate (Path.join dir name) = fs'.locate (Path.join dir name))
    (t : TableView ν) : addNew fs dir loc t files = addNew fs' dir loc t files := by
  induction files generalizing t with
  | nil => rfl
  | cons name files ih =>
    have rest := fun other member => same other (List.mem_cons_of_mem name member)
    rw [addNew, addNew, load_congr (same name List.mem_cons_self)]
    split
    · exact ih rest t
    · split
      · exact ih rest _
      · exact ih rest _

/-- A table is brought in line with the files that a directory lists, and with nothing else. -/
theorem sync_congr {extension : String} (directory : fs.isDirectory dir = fs'.isDirectory dir)
    (listed : ∀ keep, listDir fs dir false keep = listDir fs' dir false keep)
    (same : ∀ keep, ∀ name ∈ listDir fs dir false keep, fs.locate (Path.join dir name) = fs'.locate (Path.join dir name))
    (t : TableView ν) : t.sync fs dir loc extension = t.sync fs' dir loc extension := by
  rw [sync, sync, ← directory, ← listed]
  split
  · dsimp only
    rw [reloadChanged_congr (same _), addNew_congr fun name member => ?_]
    rw [← reloadChanged_congr (same _)] at member
    exact same _ name (reloadChanged_subset _ _ member)
  · rfl

end TableView

end

/-! ## Manifests and what is read besides them -/

/-- File systems that have the same directories of bundles and give the same items in them. -/
structure ScanAlike (fs fs' : FileSystem) : Prop where
  directories : ∀ dir, fs.isDirectory dir = fs'.isDirectory dir
  bundles : ∀ root, CatalogView.bundleDirs fs root = CatalogView.bundleDirs fs' root
  items : ∀ (t : TableView EntryView) bundleDir loc (kind : ItemKind),
    t.sync fs (Path.join bundleDir kind.dirName) loc kind.extension =
      t.sync fs' (Path.join bundleDir kind.dirName) loc kind.extension

theorem ScanAlike.refl (fs : FileSystem) : ScanAlike fs fs := ⟨fun _ => rfl, fun _ => rfl, fun _ _ _ _ => rfl⟩

theorem ScanAlike.trans {fs₁ fs₂ fs₃ : FileSystem} (first : ScanAlike fs₁ fs₂) (second : ScanAlike fs₂ fs₃) :
    ScanAlike fs₁ fs₃ where
  directories dir := (first.directories dir).trans (second.directories dir)
  bundles root := (first.bundles root).trans (second.bundles root)
  items t bundleDir loc kind := (first.items t bundleDir loc kind).trans (second.items t bundleDir loc kind)

/-- A place in which a bundle is, by its name. -/
def IsBundlePlace (place : Place) : Prop := ∃ name, place.getLast? = some name ∧ hasExtension name ".tmbundle" = true

/-- The directory of a kind of items is named. -/
theorem ItemKind.isFileName_dirName (kind : ItemKind) : IsFileName kind.dirName := by
  cases kind <;> exact ⟨by decide, by decide, by decide, by decide, by decide⟩

theorem isFileName_themes : IsFileName "Themes" := ⟨by decide, by decide, by decide, by decide, by decide⟩

theorem isFileName_bundles : IsFileName "Bundles" := ⟨by decide, by decide, by decide, by decide, by decide⟩

theorem isFileName_installedBundles : IsFileName "InstalledBundles" :=
  ⟨by decide, by decide, by decide, by decide, by decide⟩

/-- No directory of items is one of a bundle. -/
theorem ItemKind.hasExtension_dirName (kind : ItemKind) : hasExtension kind.dirName ".tmbundle" = false := by
  cases kind <;> decide +kernel

/-- The directory of a kind of items is never the directory of a bundle. -/
theorem not_isBundlePlace_items {fs : FileSystem} {bundleDir : String} {kind : ItemKind} {place : Place} {node : FileNode}
    (located : fs.locate (Path.join bundleDir kind.dirName) = .ok (place, node)) : ¬ IsBundlePlace place := by
  obtain ⟨resolved, -, -⟩ := locate_eq_ok.1 located
  obtain ⟨-, followed⟩ := resolve_eq_ok.1 resolved
  rw [kind.isFileName_dirName.parts_join] at followed
  have last := getLast?_follow kind.isFileName_dirName followed
  rintro ⟨name, named, extension⟩
  rw [last] at named
  obtain rfl := Option.some.inj named
  rw [kind.hasExtension_dirName] at extension
  cases extension

/-- A file in the directory of a bundle is not read by scans of items. -/
theorem scanAlike_of_differAt {fs fs' : FileSystem} {directory : Place} {name : String} (regular : fs.Regular)
    (bundle : IsBundlePlace directory) (h : DifferAt (directory ++ [name]) fs fs') : ScanAlike fs fs' where
  directories := h.isDirectory_eq
  bundles root := h.listDir_eq _ (.inl rfl)
  items t bundleDir loc kind := by
    have apart (place : Place) (node : FileNode) (located : fs.locate (Path.join bundleDir kind.dirName) = .ok (place, node)) :
        place ≠ (directory ++ [name]).dropLast := by
      rw [List.dropLast_concat]
      rintro rfl
      exact not_isBundlePlace_items located bundle
    apply TableView.sync_congr (h.isDirectory_eq _)
    · intro keep
      exact h.listDir_eq keep (.inr apart)
    · intro keep file member
      obtain ⟨-, node, child, isFile⟩ := mem_listDir.1 member
      cases isDirectory : fs.isDirectory (Path.join bundleDir kind.dirName) with
      | false =>
        rw [listDir_of_not_isDirectory isDirectory] at member
        cases member
      | true =>
        obtain ⟨place, mode, modified, located⟩ := isDirectory_iff.1 isDirectory
        obtain ⟨-, there⟩ := regular.locate_child located rfl child
        have elsewhere : place ++ [file] ≠ directory ++ [name] := by
          intro same
          apply apart place _ located
          rw [← same, List.dropLast_concat]
        rw [there, h.locate_file there isFile elsewhere]

/-! ## Writing a manifest -/

theorem isFileName_manifestName : IsFileName manifestName := ⟨by decide, by decide, by decide, by decide, by decide⟩

/-- The directory of a bundle that is listed below a root. -/
theorem locate_bundleDir {fs : FileSystem} (regular : fs.Regular) {root name : String}
    (listed : name ∈ CatalogView.bundleDirs fs root) :
    ∃ place mode modified, fs.locate (Path.join root name) = .ok (place ++ [name], .directory mode modified) ∧
      (∃ mode modified, fs.locate root = .ok (place, .directory mode modified)) ∧ IsFileName name ∧
      hasExtension name ".tmbundle" = true := by
  obtain ⟨extension, node, child, directory⟩ := mem_listDir.1 listed
  cases isDirectory : fs.isDirectory root with
  | false =>
    rw [CatalogView.bundleDirs, listDir_of_not_isDirectory isDirectory] at listed
    cases listed
  | true =>
    obtain ⟨place, mode, modified, located⟩ := isDirectory_iff.1 isDirectory
    obtain ⟨isName, there⟩ := regular.locate_child located rfl child
    cases node with
    | file octets mode modified => cases directory
    | directory mode' modified' => exact ⟨place, mode', modified', there, ⟨mode, modified, located⟩, isName, extension⟩

/-- Saving to a directory that is there replaces one file or changes nothing. -/
theorem save_keeps {fs : FileSystem} (regular : fs.Regular) {dir : String} {place : Place} {mode : Nat} {modified : Int}
    (located : fs.locate dir = .ok (place, .directory mode modified)) (d : Document) (isName : IsFileName d.filename) :
    (d.save fs dir).1 = fs ∨ DifferAt (place ++ [d.filename]) fs (d.save fs dir).1 ∧ (d.save fs dir).1.Regular := by
  rw [Document.save]
  dsimp only
  rw [String.isEmpty_eq_false_iff.2 isName.present, if_neg Bool.false_ne_true, createDirectories_of_locate located rfl]
  split
  · exact .inl rfl
  · dsimp only
    split
    · exact .inl rfl
    · rename_i replaced
      exact .inr (replaceFile_keeps regular located isName replaced)

/-- A bundle can be read if it has a manifest. -/
def Readable (fs : FileSystem) (bundleDir : String) : Prop :=
  fs.isFile (Path.join bundleDir manifestName) = true → ∃ d, Document.load fs (Path.join bundleDir manifestName) = .ok d

/-- A bundle has a manifest that a scan at a locality reads: it can be read if it is there, and a factory version has to
have one. -/
structure HasManifest (loc : Locality) (fs : FileSystem) (bundleDir : String) : Prop where
  isFile : loc.own = false → fs.isFile (Path.join bundleDir manifestName) = true
  readable : Readable fs bundleDir

theorem isFile_iff {fs : FileSystem} {path : String} : fs.isFile path = true ↔
    ∃ place node, fs.locate path = .ok (place, node) ∧ node.isDirectory = false := by
  unfold isFile
  constructor
  · intro file
    split at file
    · rename_i place node located
      exact ⟨place, node, located, by simpa using file⟩
    · cases file
  · rintro ⟨place, node, located, file⟩
    rw [located]
    simp [file]

/-- What a scan leaves of the files of bundles when it writes to one: they are scanned as before, and the manifests
of the others are read as before. -/
structure WroteManifest (root dirName : String) (fs fs' : FileSystem) : Prop where
  alike : ScanAlike fs fs'
  regular : fs'.Regular
  readable : ∀ other ∈ CatalogView.bundleDirs fs root, other ≠ dirName →
    Readable fs (Path.join root other) → Readable fs' (Path.join root other)

theorem wroteManifest_of_differAt {fs fs' : FileSystem} {root name : String} {place : Place} {mode : Nat} {modified : Int}
    (regular : fs.Regular) (regular' : fs'.Regular) (located : fs.locate root = .ok (place, .directory mode modified))
    (extension : hasExtension name ".tmbundle" = true) (h : DifferAt (place ++ [name] ++ [manifestName]) fs fs') :
    WroteManifest root name fs fs' where
  alike := scanAlike_of_differAt regular ⟨name, by simp, extension⟩ h
  regular := regular'
  readable other listed different readable isFile := by
    obtain ⟨place', mode', modified', there, ⟨mode, modified, located'⟩, -, -⟩ := locate_bundleDir regular listed
    rw [located] at located'
    obtain ⟨rfl, -⟩ := Prod.mk.inj (Except.ok.inj located')
    -- where the manifest of the other bundle is
    obtain ⟨modified'', there'⟩ := h.locate_directory there
    have resolved := resolve_join there' rfl isFileName_manifestName
    obtain ⟨place', node, found', file⟩ := isFile_iff.1 isFile
    obtain ⟨resolved', -, -⟩ := locate_eq_ok.1 found'
    rw [resolved] at resolved'
    obtain rfl := Except.ok.inj resolved'
    have elsewhere : place ++ [other] ++ [manifestName] ≠ place ++ [name] ++ [manifestName] := by
      intro same
      exact different (by simpa using same)
    have found := h.symm.locate_file found' file elsewhere
    obtain ⟨d, loaded⟩ := readable (isFile_iff.2 ⟨_, node, found, file⟩)
    exact ⟨d, (load_congr (found'.trans found.symm)).trans loaded⟩

theorem WroteManifest.refl {fs : FileSystem} (regular : fs.Regular) (root dirName : String) : WroteManifest root dirName fs fs :=
  ⟨.refl fs, regular, fun _ _ _ readable => readable⟩

namespace CatalogView

theorem writeManifest_files (v : CatalogView) (bundleDir : String) (manifest : Document) :
    (v.writeManifest bundleDir manifest).1 = { v with
      files := (({ manifest with filename := manifestName } : Document).save v.files bundleDir).1 } := by
  rw [writeManifest]
  generalize ({ manifest with filename := manifestName } : Document).save v.files bundleDir = result
  obtain ⟨files, result⟩ := result
  cases result <;> rfl

/-- Making a manifest for a bundle that is listed below a root. -/
theorem makeManifest_wrote (v : CatalogView) (regular : v.files.Regular) {root dirName : String}
    (listed : dirName ∈ bundleDirs v.files root) (factory : Option Document) :
    WroteManifest root dirName v.files (v.makeManifest (Path.join root dirName) dirName factory).1.files := by
  obtain ⟨place, mode, modified, located, ⟨mode', modified', above⟩, -, extension⟩ := locate_bundleDir regular listed
  have writes (v' : CatalogView) (same : v'.files = v.files) (manifest : Document) :
      WroteManifest root dirName v.files (v'.writeManifest (Path.join root dirName) manifest).1.files := by
    rw [writeManifest_files, same]
    rcases save_keeps regular located { manifest with filename := manifestName } isFileName_manifestName with unchanged | changed
    · dsimp only
      rw [unchanged]
      exact .refl regular root dirName
    · exact wroteManifest_of_differAt regular changed.2 above extension changed.1
  cases factory with
  | none => exact writes { v with identities := v.identities.draw.2 } rfl _
  | some factory => exact writes v rfl _

end CatalogView

/-! ## Reading a manifest -/

/-- What a scan makes of the manifest of a bundle that it knows. -/
inductive Reading where
  | kept
  | renewed (manifest : Document)
  | lost

/-- Is the version of the bundle still there? -/
def Reading.keeps : Reading → Bool
  | .lost => false
  | _ => true

namespace CatalogView

/-- Takes in what was made of a manifest. -/
def takeIn (v : CatalogView) (id : Nat) (loc : Locality) : Reading → CatalogView
  | .kept => v
  | .renewed manifest => v.registerManifest id manifest loc
  | .lost => v.dropBundle id loc

variable (v : CatalogView) (id : Nat) (bundleDir dirName : String) (loc : Locality)

/-- A manifest is made without a look at the bundles. -/
theorem makeManifest_withBundles (factory : Option Document) (bundles : TableView BundleView) :
    ({ v with bundles } : CatalogView).makeManifest bundleDir dirName factory =
      ({ (v.makeManifest bundleDir dirName factory).1 with bundles }, (v.makeManifest bundleDir dirName factory).2) := by
  have written (v : CatalogView) (manifest : Document) : ({ v with bundles } : CatalogView).writeManifest bundleDir manifest =
      ({ (v.writeManifest bundleDir manifest).1 with bundles }, (v.writeManifest bundleDir manifest).2) := by
    rw [writeManifest, writeManifest]
    dsimp only
    generalize ({ manifest with filename := manifestName } : Document).save v.files bundleDir = result
    obtain ⟨files, result⟩ := result
    cases result <;> rfl
  cases factory with
  | none => exact written { v with identities := v.identities.draw.2 } _
  | some factory => exact written v factory.copy

/-- Only files and identities change when a manifest is made. -/
theorem makeManifest_fst (factory : Option Document) : (v.makeManifest bundleDir dirName factory).1 =
    { v with
      files := (v.makeManifest bundleDir dirName factory).1.files
      identities := (v.makeManifest bundleDir dirName factory).1.identities } := by
  cases factory with
  | none =>
    rw [makeManifest, writeManifest_files]
  | some factory =>
    rw [makeManifest, writeManifest_files]

/-- Of the bundles, only the entry of the bundle is looked at when its manifest is read again. -/
theorem exists_reading : ∃ files identities reading,
    (∀ bundles : TableView BundleView, bundles.entryAt? id = v.bundles.entryAt? id →
      ({ v with bundles } : CatalogView).updateManifest id bundleDir dirName loc =
        (({ v with bundles, files, identities } : CatalogView).takeIn id loc reading, reading.keeps)) ∧
      (files = v.files ∨ loc.own = true ∧ files = (v.makeManifest bundleDir dirName (v.factoryManifest? id)).1.files) ∧
      (reading = .lost → ¬ HasManifest loc v.files bundleDir) := by
  by_cases isFile : v.files.isFile (Path.join bundleDir manifestName) = true
  · cases found : (v.bundles.entryAt? id).bind (·.version loc) with
    | none =>
      refine ⟨v.files, v.identities, .kept, fun bundles same => ?_, .inl rfl, fun lost => by cases lost⟩
      rw [updateManifest, if_pos isFile, same, found]
      rfl
    | some current =>
      by_cases changed : EntryTable.hasChanged v.files (Path.join bundleDir manifestName) current = true
      · cases loaded : Document.load v.files (Path.join bundleDir manifestName) with
        | ok manifest =>
          refine ⟨v.files, v.identities, .renewed manifest, fun bundles same => ?_, .inl rfl, fun lost => by cases lost⟩
          rw [updateManifest, if_pos isFile, same, found]
          dsimp only
          rw [if_pos changed, loaded]
          rfl
        | error fault =>
          refine ⟨v.files, v.identities, .lost, fun bundles same => ?_, .inl rfl, fun _ has => ?_⟩
          · rw [updateManifest, if_pos isFile, same, found]
            dsimp only
            rw [if_pos changed, loaded]
            rfl
          · obtain ⟨d, ok⟩ := has.readable isFile
            rw [loaded] at ok
            cases ok
      · refine ⟨v.files, v.identities, .kept, fun bundles same => ?_, .inl rfl, fun lost => by cases lost⟩
        rw [updateManifest, if_pos isFile, same, found]
        dsimp only
        rw [if_neg changed]
        rfl
  · by_cases own : loc.own = true
    · refine ⟨_, (v.makeManifest bundleDir dirName (v.factoryManifest? id)).1.identities,
        .renewed (v.makeManifest bundleDir dirName (v.factoryManifest? id)).2, fun bundles same => ?_, .inr ⟨own, rfl⟩,
        fun lost => by cases lost⟩
      have factory : ({ v with bundles } : CatalogView).factoryManifest? id = v.factoryManifest? id := by
        rw [factoryManifest?, factoryManifest?, same]
      rw [updateManifest, if_neg isFile, if_pos own, factory, makeManifest_withBundles, makeManifest_fst]
      rfl
    · refine ⟨v.files, v.identities, .lost, fun bundles same => ?_, .inl rfl, fun _ has => isFile (has.isFile ?_)⟩
      · rw [updateManifest, if_neg isFile, if_neg own]
        rfl
      · exact Bool.not_eq_true _ ▸ own

/-- Of the bundles, only the entries are looked at when the manifest of a new bundle is read or made. -/
theorem exists_newManifest (existing : Option Nat) : ∃ made : Option (FileSystem × Identities × Document),
    (∀ bundles : TableView BundleView, (∀ id, bundles.entryAt? id = v.bundles.entryAt? id) →
      ({ v with bundles } : CatalogView).newManifest? bundleDir dirName loc existing =
        made.map fun m => ({ v with bundles, files := m.1, identities := m.2.1 }, m.2.2)) ∧
      ∀ m ∈ made, m.1 = v.files ∨
        loc.own = true ∧ m.1 = (v.makeManifest bundleDir dirName (existing.bind v.factoryManifest?)).1.files := by
  by_cases isFile : v.files.isFile (Path.join bundleDir manifestName) = true
  · cases loaded : Document.load v.files (Path.join bundleDir manifestName) with
    | ok manifest =>
      refine ⟨some (v.files, v.identities, manifest), fun bundles same => ?_, ?_⟩
      · rw [newManifest?, if_pos isFile]
        dsimp only
        rw [loaded]
        rfl
      · rintro m ⟨⟩
        exact .inl rfl
    | error fault =>
      refine ⟨none, fun bundles same => ?_, fun m member => by cases member⟩
      rw [newManifest?, if_pos isFile]
      dsimp only
      rw [loaded]
      rfl
  · by_cases own : loc.own = true
    · refine ⟨some ((v.makeManifest bundleDir dirName (existing.bind v.factoryManifest?)).1.files,
        (v.makeManifest bundleDir dirName (existing.bind v.factoryManifest?)).1.identities,
        (v.makeManifest bundleDir dirName (existing.bind v.factoryManifest?)).2), fun bundles same => ?_, ?_⟩
      · have factory : existing.bind ({ v with bundles } : CatalogView).factoryManifest? = existing.bind v.factoryManifest? := by
          congr 1
          funext id
          rw [factoryManifest?, factoryManifest?, same]
        rw [newManifest?, if_neg isFile, if_pos own, factory, makeManifest_withBundles, makeManifest_fst]
        rfl
      · rintro m ⟨⟩
        exact .inr ⟨own, rfl⟩
    · refine ⟨none, fun bundles same => ?_, fun m member => by cases member⟩
      rw [newManifest?, if_neg isFile, if_neg own]
      rfl

end CatalogView
end EditorBundles.Catalog
