import EditorBundles.Proofs.Catalog.ExportedItems
import EditorBundles.Proofs.Catalog.Failures
import EditorBundles.Proofs.Catalog.ItemAddresses

/-!
# Exported bundles

An export that succeeds to a place where nothing is holds the manifest in effect, the files of all items, and the support
files, each with the octets that it has, and nothing else; only items whose files share a name can be lost.
-/

namespace EditorBundles.Catalog
set_option autoImplicit false
open EditorBundles.Path (IsPlain)
open EditorBundles.FileSystem (Direct createDirectories_eq copyFile_join isDirectory_eq_false place_of_locate)
open PropertyList

variable {base g g' : FileSystem} {target : String} {e : Export} {here : Place} {c c' : Catalog} {b : Nat} {row : Bundle}

/-! ## Where the support files are -/

/-- The directories where the support files of a bundle can be: that of the user, and that of the factory. -/
def supportDirs (c : Catalog) (row : Bundle) : List String :=
  [Path.join (c.ownDir row.dirName) supportName, Path.join (c.factoryDir row.entry.locality row.dirName) supportName]

/-- The support files of a bundle are in one of these directories. -/
theorem mem_supportDirs {path : String} (found : c.db.bundles.row? b = some row) (there : c.supportPath? b = some (some path)) :
    path ∈ c.supportDirs row ∧ c.files.isDirectory path = true := by
  rw [supportPath?, found] at there
  have there := Option.some.inj there
  dsimp only at there
  split at there
  · cases there
  · split at there
    · rename_i own
      obtain rfl := Option.some.inj there
      exact ⟨List.mem_cons_self, (Bool.and_eq_true_iff.1 own).2⟩
    · split at there
      · rename_i factory
        obtain rfl := Option.some.inj there
        exact ⟨List.mem_cons_of_mem _ List.mem_cons_self, factory⟩
      · cases there

/-- Without these directories there are no support files. -/
theorem supportPath?_eq_none (found : c.db.bundles.row? b = some row)
    (missing : ∀ dir ∈ c.supportDirs row, c.files.isDirectory dir = false) : c.supportPath? b = some none := by
  obtain ⟨support, there⟩ : ∃ support, c.supportPath? b = some support := by
    rw [supportPath?, found]
    exact ⟨_, rfl⟩
  cases support with
  | none => exact there
  | some path =>
    obtain ⟨member, directory⟩ := mem_supportDirs found there
    rw [missing path member] at directory
    cases directory

/-- Where these directories are as they were, the support files are where they were. -/
theorem supportPath?_congr (found : c.db.bundles.row? b = some row) {files : FileSystem}
    (same : ∀ dir ∈ c.supportDirs row, files.isDirectory dir = c.files.isDirectory dir) :
    ({ c with files } : Catalog).supportPath? b = c.supportPath? b := by
  have own := same _ List.mem_cons_self
  have factory := same _ (List.mem_cons_of_mem _ List.mem_cons_self)
  rw [supportPath?, supportPath?, found, Option.map_some, Option.map_some]
  change some (if row.dirName.isEmpty then none else
    if row.entry.locality.own && files.isDirectory (Path.join (c.ownDir row.dirName) supportName) then _ else
      if files.isDirectory (Path.join (c.factoryDir row.entry.locality row.dirName) supportName) then _ else none) = _
  rw [own, factory]
  rfl

/-! ## Clear targets -/

/-- A bundle can be exported to a target: nothing is below it, the path does not turn back there, it is not in a directory of
support files, and the paths of these turn back nowhere that is exported to. -/
structure Clear (c : Catalog) (row : Bundle) (target : String) : Prop where
  empty : ∀ here, Path.place target <+: here → here ≠ Path.place target → c.files.contentAt? here = none
  direct : Direct target
  outside : ∀ dir ∈ c.supportDirs row, ∀ here, Path.Passes target here → ¬Path.place dir <+: here
  straight : ∀ dir ∈ c.supportDirs row, ∀ here, Path.Passes dir here → Path.Reaches target here → here <+: Path.place dir

section Bundles

variable (clear : c.Clear row target) (tree : c.files.Tree) (made : c.files.createDirectories target = (base, .ok ()))
include clear tree made

/-- Nothing is below a target that was just made. -/
theorem Clear.holds (regular : c.files.Regular) : Holds base target {} base := by
  have kept := FileSystem.keepsAll_createDirectories tree target
  have regular' := regular.createDirectories target
  rw [made] at kept regular'
  obtain ⟨passing, others⟩ := FileSystem.contentAt?_createDirectories tree made
  refine ⟨kept.tree, regular', fun _ _ => rfl, fun inner => ?_⟩
  rw [Export.contentAt?_empty]
  split
  · rename_i top
    rw [top, List.append_nil]
    exact passing _ (Path.passes_place target)
  · rename_i below
    have different : Path.place target ++ inner ≠ Path.place target := by simpa using below
    rw [others _ fun passed => different (clear.direct _ passed (List.prefix_append _ _))]
    exact clear.empty _ (List.prefix_append _ _) different

/-- No file is below a target that was just made. -/
theorem Clear.not_below (regular : c.files.Regular) {octets : ByteArray} (there : base.contentAt? here = some (.file octets)) :
    ¬Path.place target <+: here := by
  rintro ⟨inner, rfl⟩
  rw [(clear.holds tree made regular).inside, Export.contentAt?_empty] at there
  split at there <;> cases there

omit clear in
/-- Making the directories of a target makes no files. -/
theorem contentAt?_eq_file_of_made {octets : ByteArray} (there : base.contentAt? here = some (.file octets)) :
    c.files.contentAt? here = some (.file octets) := by
  obtain ⟨passing, others⟩ := FileSystem.contentAt?_createDirectories tree made
  by_cases passed : Path.Passes target here
  · rw [passing here passed] at there
    cases there
  · exact others here passed ▸ there

/-- What there is stays while a bundle is exported. -/
theorem Clear.extends (h : Holds base target e g) : FileSystem.Extends c.files g := by
  intro here content there
  by_cases inside : Path.place target <+: here
  · have top : here = Path.place target := by
      by_contra different
      rw [clear.empty here inside different] at there
      cases there
    subst top
    have start := FileSystem.contentAt?_createDirectories_of_some tree made there
    rw [(FileSystem.contentAt?_createDirectories tree made).1 _ (Path.passes_place target)] at start
    rw [← start]
    simpa using h.inside []
  · rw [h.outside here inside]
    exact FileSystem.contentAt?_createDirectories_of_some tree made there

omit clear in
/-- Places that an export does not reach stay as they are. -/
theorem Holds.contentAt?_eq (h : Holds base target e g) (unreached : ¬Path.Reaches target here) :
    g.contentAt? here = c.files.contentAt? here := by
  rw [Path.Reaches, not_or] at unreached
  rw [h.outside here unreached.2, (FileSystem.contentAt?_createDirectories tree made).2 here unreached.1]

/-- Before the support files are exported, a path to such files is that of a directory just if it was before. -/
theorem Clear.isDirectory_eq (h : Holds base target e g) (none_ : e.support = fun _ => none) {dir : String}
    (member : dir ∈ c.supportDirs row) : g.isDirectory dir = c.files.isDirectory dir := by
  have named : ∃ around, Path.place dir = around ++ [supportName] := by
    have plain : IsPlain supportName := ⟨by decide, by decide⟩
    rcases List.mem_cons.1 member with rfl | member
    · exact ⟨_, plain.place_join (by decide) _⟩
    · obtain rfl := List.mem_singleton.1 member
      exact ⟨_, plain.place_join (by decide) _⟩
  have kept := clear.extends tree made h
  rw [Bool.eq_iff_iff, FileSystem.isDirectory_iff_passes, FileSystem.isDirectory_iff_passes]
  simp only [← FileSystem.contentAt?_eq_directory_iff]
  refine and_congr_right fun _ => ⟨fun all here passed => ?_, fun all here passed => kept _ _ (all here passed)⟩
  have unreached : ¬Path.Reaches target (Path.place dir) := by
    rintro (passed | ⟨inner, below⟩)
    · exact clear.outside dir member _ passed (List.prefix_refl _)
    · have there := all _ (Path.passes_place dir)
      rw [← below, h.inside] at there
      obtain ⟨around, last⟩ := named
      rcases Export.eq_of_contentAt?_directory none_ there with rfl | ⟨kind, rfl⟩
      · rw [List.append_nil] at below
        exact clear.outside dir member _ (Path.passes_place target) (below ▸ List.prefix_refl _)
      · have same := (List.append_inj' (below.trans last) rfl).2
        cases kind <;> exact absurd (List.cons.inj same).1 (by decide)
  have there : c.files.contentAt? (Path.place dir) = some .directory := by
    rw [← h.contentAt?_eq tree made unreached]
    exact all _ (Path.passes_place dir)
  by_cases reached : Path.Reaches target here
  · by_cases same : here = Path.place dir
    · rwa [same]
    · exact tree.directory_of_prefix (by simp [there]) (clear.straight dir member here passed reached) same
  · rw [← h.contentAt?_eq tree made reached]
    exact all here passed

/-- What the support files are copied from is out of reach. -/
theorem Clear.contentAt?_support (h : Holds base target e g) {support : String} (member : support ∈ c.supportDirs row)
    (source : c.files.contentAt? (Path.place support) = some .directory) (inner : Place) :
    g.contentAt? (Path.place support ++ inner) = c.files.contentAt? (Path.place support ++ inner) := by
  refine h.contentAt?_eq tree made fun reached => ?_
  rcases reached with passed | below
  · exact clear.outside support member _ passed (List.prefix_append _ _)
  · refine clear.outside support member _ (Path.passes_place target) ?_
    refine (List.prefix_or_prefix_of_prefix below (List.prefix_append _ _)).elim (fun above => ?_) id
    by_cases top : Path.place support = Path.place target
    · exact top ▸ List.prefix_refl _
    · rw [clear.empty _ above top] at source
      cases source

/-- The support files are copied into a directory of their own. -/
theorem Clear.copyDirectory (h : Holds base target e g) (none_ : e.support = fun _ => none) {support : String}
    (member : support ∈ c.supportDirs row) (there : c.files.isDirectory support = true)
    (copied : g.copyDirectory support (Path.join target supportName) = (g', .ok ())) :
    Holds base target { e with support := fun inner => c.files.contentAt? (Path.place support ++ inner) } g' := by
  have plain : IsPlain supportName := ⟨by decide, by decide⟩
  have spelled := plain.place_join (by decide : supportName ≠ "") target
  have source := FileSystem.contentAt?_eq_directory_iff.2
    ((FileSystem.isDirectory_iff_passes.1 there).2 _ (Path.passes_place support))
  have kept := clear.contentAt?_support tree made h member source
  have empty : ∀ here, Path.place (Path.join target supportName) <+: here → g.contentAt? here = none := by
    rintro _ ⟨rest, rfl⟩
    rw [spelled, List.append_assoc, List.singleton_append, h.inside, Export.contentAt?_support, none_]
  have regular := h.regular.copyDirectory support (Path.join target supportName)
  rw [copied] at regular
  obtain ⟨tree', same, others⟩ := FileSystem.contentAt?_copyDirectory h.regular h.tree
    (clear.direct.join plain (by decide)) (clear.extends tree made h _ _ source) empty copied
  rw [spelled] at same others
  have beside (here : Place) (away : ¬Path.place target ++ [supportName] <+: here) : g'.contentAt? here = g.contentAt? here := by
    refine others here away fun passed => ?_
    refine h.directory clear.direct (FileSystem.contentAt?_createDirectories tree made).1 ?_
    refine (plain.passes_join passed).resolve_right fun last => away ?_
    exact spelled ▸ last ▸ List.prefix_refl _
  refine ⟨tree', regular, fun here away => ?_, fun inner => ?_⟩
  · rw [beside here fun below => away ((List.prefix_append _ _).trans below), h.outside here away]
  · by_cases inside : ∃ rest, inner = supportName :: rest
    · obtain ⟨rest, rfl⟩ := inside
      have copy := (same rest).trans (kept rest)
      rw [List.append_assoc, List.singleton_append] at copy
      rw [Export.contentAt?_support, copy]
    · have away : ¬Path.place target ++ [supportName] <+: Path.place target ++ inner := by
        rintro ⟨rest, below⟩
        rw [List.append_assoc] at below
        exact inside ⟨rest, (List.append_cancel_left below).symm⟩
      rw [beside _ away, h.inside]
      exact (Export.contentAt?_with_support _ _ (not_exists.1 inside)).symm

/-- The support files are exported, if there are any. -/
theorem exportSupport?_holds (found : c.db.bundles.row? b = some row) (h : Holds base target e g)
    (none_ : e.support = fun _ => none)
    (exported : exportSupport? { c with files := g } target b = some (c', .ok ())) :
    ∃ support, c.supportPath? b = some support ∧ Holds base target
      { e with support := fun inner => support.bind fun path => c.files.contentAt? (Path.place path ++ inner) } c'.files := by
  have same := supportPath?_congr found fun dir member => clear.isDirectory_eq tree made h none_ member
  rw [exportSupport?, same] at exported
  obtain ⟨support, there, exported⟩ := Option.bind_eq_some_iff.1 exported
  refine ⟨support, there, ?_⟩
  cases support with
  | none =>
    obtain ⟨rfl, -⟩ := Prod.mk.inj (Option.some.inj exported)
    have same : ({ e with support := fun _ => none } : Export) = e := by rw [← none_]
    exact same.symm ▸ h
  | some path =>
    obtain ⟨member, directory⟩ := mem_supportDirs found there
    cases copied : g.copyDirectory path (Path.join target supportName) with
    | mk files result =>
      simp only [copied] at exported
      obtain ⟨rfl, ended⟩ := Prod.mk.inj (Option.some.inj exported)
      cases result with
      | error fault => cases ended
      | ok _ => exact clear.copyDirectory tree made h none_ member directory copied

end Bundles

/-- An export that succeeds goes through four steps: the directories of the target are made, the manifest in effect is copied
there, then the items of each kind, and last the support files. -/
theorem exportBundle?_eq_ok (found : c.db.bundles.row? b = some row) (exported : c.exportBundle? target b = some (c', .ok ())) :
    ∃ base manifest copied c₂, c.files.createDirectories target = (base, .ok ()) ∧
      c.manifestPath? row = some manifest ∧ base.isFile manifest = true ∧
      base.copyFile manifest (Path.join target manifestName) = .ok copied ∧
      exportKinds? { c with files := copied } target b ItemKind.all = some (c₂, .ok ()) ∧
      exportSupport? c₂ target b = some (c', .ok ()) := by
  rw [exportBundle?] at exported
  split at exported
  · cases exported
  · rename_i base made
    obtain ⟨row', found', exported⟩ := Option.bind_eq_some_iff.1 exported
    obtain rfl : row = row' := Option.some.inj (found.symm.trans found')
    split at exported
    · cases exported
    · rename_i manifest named
      split at exported
      · cases exported
      · rename_i isFile
        split at exported
        · cases exported
        · rename_i copied copies
          obtain ⟨⟨c₂, ended⟩, kinds, exported⟩ := Option.bind_eq_some_iff.1 exported
          cases ended with
          | error fault => cases exported
          | ok _ => exact ⟨base, manifest, copied, c₂, made, named, by simpa using isFile, copies, kinds, exported⟩

/-- An export that succeeds, of a bundle whose items all have their files, to a target that is clear. There is the manifest in
effect, for each kind that has items a directory with their files, and the support files, with the octets that they have;
nothing else is there, and elsewhere nothing changes. No item is lost just if those of a kind whose files have one name have
the same files. -/
theorem exportBundle?_of_grounded (reached : Grounded c) (tree : c.files.Tree) (found : c.db.bundles.row? b = some row)
    (clear : c.Clear row target)
    (saved : ∀ kind ids i, c.listItems? kind b = some ids → i ∈ ids →
      ∃ path, c.itemPath? kind b i = some (some path) ∧ c.files.isFile path = true)
    (exported : c.exportBundle? target b = some (c', .ok ())) :
    ∃ e : Export, (∀ inner, c'.files.contentAt? (Path.place target ++ inner) = e.contentAt? inner) ∧
      (∃ path octets, c.manifestPath? row = some path ∧ c.files.contentAt? (Path.place path) = some (.file octets) ∧
        e.manifest = some octets) ∧
      (∀ kind, c.ItemFiles c.files kind b (e.items.get kind)) ∧
      (∃ support, c.supportPath? b = some support ∧
        ∀ inner, e.support inner = support.bind fun path => c.files.contentAt? (Path.place path ++ inner)) ∧
      (∀ here, ¬Path.Reaches target here → c'.files.contentAt? here = c.files.contentAt? here) ∧
      ∀ kind files, e.items.get kind = some files →
        ((∀ file ∈ files, c'.files.contentAt? (Path.place target ++ [kind.dirName, file.1]) = some (.file file.2)) ↔
          ∀ first ∈ files, ∀ second ∈ files, first.1 = second.1 → first = second) := by
  obtain ⟨regular, plain⟩ := reached.regular_plain
  obtain ⟨base, manifest, copied, c₂, made, named, isFile, copies, kinds, exported⟩ := exportBundle?_eq_ok found exported
  have start := clear.holds tree made regular
  have away (here : Place) (octets : ByteArray) (there : base.contentAt? here = some (.file octets)) :
      ¬Path.place target <+: here := clear.not_below tree made regular there
  obtain ⟨_, there⟩ := FileSystem.exists_contentAt?_of_isFile isFile
  obtain ⟨octets, content, first⟩ := start.copyFile (List.append_nil _).symm isFileName_manifestName.isPlain
    isFileName_manifestName.present (away _ _ there) (Export.contentAt?_manifest {}) copies
  have sources (kind : ItemKind) (ids : List Nat) (i : Nat) (listed : c.listItems? kind b = some ids) (member : i ∈ ids) :
      ∃ path octets, c.itemPath? kind b i = some (some path) ∧ base.contentAt? (Path.place path) = some (.file octets) := by
    obtain ⟨path, there, isFile⟩ := saved kind ids i listed member
    obtain ⟨octets, content⟩ := FileSystem.exists_contentAt?_of_isFile isFile
    exact ⟨path, octets, there, FileSystem.contentAt?_createDirectories_of_some tree made content⟩
  obtain ⟨g, items, rfl, second, listed, -⟩ := exportKinds?_holds plain away clear.direct
    (FileSystem.contentAt?_createDirectories tree made).1 first (by decide) (fun kind _ => by cases kind <;> rfl) sources kinds
  obtain ⟨support, source, third⟩ := exportSupport?_holds clear tree made found second rfl exported
  refine ⟨_, third.inside, ⟨manifest, octets, named, contentAt?_eq_file_of_made tree made content, rfl⟩, fun kind => ?_,
    ⟨support, source, fun _ => rfl⟩, fun here => third.contentAt?_eq tree made, fun kind files known => ?_⟩
  · obtain ⟨ids, ofKind, empty, each⟩ := listed kind kind.mem_all
    refine ⟨ids, ofKind, empty, each.imp fun i file => ?_⟩
    rintro ⟨path, there, last, content⟩
    exact ⟨path, there, last, contentAt?_eq_file_of_made tree made content⟩
  · simp only [third.inside]
    exact Export.contentAt?_files_iff known

/-! ## A snippet of the user's own -/

/-- The files of a bundle of the user's own with a snippet. -/
def ownFiles : FileSystem := { nodes := [([], .directory 0o755 0), (["Bundles"], .directory 0o755 0),
  (["Bundles", "A.tmbundle"], .directory 0o755 0), (["Bundles", "A.tmbundle", "info.plist"], .file ⟨#[1]⟩ 0o644 0),
  (["Bundles", "A.tmbundle", "Snippets"], .directory 0o755 0),
  (["Bundles", "A.tmbundle", "Snippets", "s.tmSnippet"], .file ⟨#[2]⟩ 0o644 0)] }

/-- A catalog whose first bundle is the user's own and has a snippet, with these files and names. -/
structure OwnSnippet (c : Catalog) (files : FileSystem) (dirName filename : String) (row : Bundle) (e : Entry) : Prop where
  config : c.config = appConfig
  files : c.files = files
  found : c.db.bundles.row? 0 = some row
  dirName : row.dirName = dirName
  own : row.entry.locality = { own := true } ∧ row.entry.ownDoc = some 0
  items : row.items = (PerKind.replicate {}).set .snippet ⟨[e]⟩
  ownItem : e.locality = { own := true } ∧ e.ownDoc = some 1
  live : c.db.docs.isLive 0 = true ∧ c.db.docs.isLive 1 = true
  manifest : (c.db.docs.get 0).filename = manifestName ∧ (c.db.docs.get 0).rootString? "name" = some "A"
  snippet : (c.db.docs.get 1).filename = filename ∧ (c.db.docs.get 1).rootString? "name" = some "s"

theorem isFileName_snippet : IsFileName "s.tmSnippet" := ⟨by decide, by decide, by decide, by decide, by decide⟩

theorem regular_ownFiles : ownFiles.Regular where
  single := by decide
  named := by
    simp [ownFiles, Entries.keys, isFileName_bundles, isFileName_bundle, isFileName_snippet,
      show IsFileName "info.plist" from isFileName_manifestName, show IsFileName "Snippets" from ItemKind.snippet.isFileName_dirName]

namespace OwnSnippet

variable {files : FileSystem} {dirName filename : String} {e : Entry}

theorem item (h : OwnSnippet c files dirName filename row e) : (row.items.get .snippet).entryAt? 0 = some e := by
  rw [h.items, PerKind.get_set_self]
  rfl

theorem parts (h : OwnSnippet c files dirName filename row e) :
    Path.parts (c.ownDir "A.tmbundle") = ["Bundles", "A.tmbundle"] ∧
      Path.parts (c.ownItemDir .snippet "A.tmbundle") = ["Bundles", "A.tmbundle", "Snippets"] := by
  have inside : Path.parts (c.ownDir "A.tmbundle") = ["Bundles", "A.tmbundle"] := by
    rw [ownDir, h.config, ownBundles_app, isFileName_bundle.parts_join, isFileName_bundles.parts]
    rfl
  refine ⟨inside, ?_⟩
  rw [ownItemDir, ItemKind.snippet.isFileName_dirName.parts_join, inside]
  rfl

/-- The bundle is given its directory, but cannot be saved. -/
theorem saveBundle (h : OwnSnippet c blockedFiles "" filename row e) :
    ∃ c' result, c.saveBundle? 0 = some (c', result) ∧
      OwnSnippet c' blockedFiles "A.tmbundle" filename { row with dirName := "A.tmbundle" } e := by
  have chosen : freeName blockedFiles "Bundles" "A" ".tmbundle" = "A.tmbundle" :=
    freeName_blocked isFileName_bundles.parts isFileName_bundle
  have saving : c.Saving 0 row 0 "A.tmbundle" := by
    refine ⟨h.found, ?_, h.live.1, fun present => absurd h.dirName present, fun _ => ?_⟩
    · rw [savable?, h.own.1, h.own.2]
      rfl
    · rw [h.files, h.config, h.manifest.2, ownBundles_app]
      exact chosen.symm
  obtain ⟨fault, made⟩ := exists_createDirectories_blocked h.parts.1
  have save := saving.saveBundle?_eq (by rw [h.files]; exact made)
  refine ⟨_, _, save, h.config, rfl, ?_, rfl, h.own, h.items, h.ownItem, h.live, h.manifest,
    h.snippet⟩
  show (c.modifyBundle 0 fun b => { b with dirName := "A.tmbundle" }).db.bundles.row? 0 = _
  rw [modifyBundle, withDb, EntryTable.modify_eq h.found, EntryTable.row?_setRow_self (EntryTable.lt_of_row? h.found)]

/-- The snippet is given its file, but cannot be saved. -/
theorem saveItem (h : OwnSnippet c blockedFiles "A.tmbundle" "" row e) :
    ∃ c' result, c.saveItem? .snippet 0 0 = some (c', result) ∧
      OwnSnippet c' blockedFiles "A.tmbundle" "s.tmSnippet" row e := by
  have chosen : freeName blockedFiles (c.ownItemDir .snippet "A.tmbundle") "s" ".tmSnippet" = "s.tmSnippet" :=
    freeName_blocked h.parts.2 isFileName_snippet
  have bound : 1 < c.db.docs.size := by
    have live := h.live.2
    rw [DocumentTable.isLive, Bool.and_eq_true, decide_eq_true_eq] at live
    exact live.1
  obtain ⟨d, same⟩ : ∃ d, d = { c.db.docs.get 1 with filename := "s.tmSnippet" } := ⟨_, rfl⟩
  have given : c.namedItem .snippet 1 (c.ownItemDir .snippet row.dirName) = c.withDocs (c.db.docs.set 1 d) := by
    rw [namedItem, nameDoc, h.snippet.1, h.snippet.2, h.files, h.dirName, same, ← chosen]
    rfl
  have snippet : ((c.db.docs.set 1 d).get 1).filename = "s.tmSnippet" ∧
      ((c.db.docs.set 1 d).get 1).rootString? "name" = some "s" := by
    rw [DocumentTable.get_set_self _ bound, same]
    exact ⟨rfl, h.snippet.2⟩
  have single : '/' ∉ ((c.withDocs (c.db.docs.set 1 d)).db.docs.get 1).filename.toList := by
    rw [show ((c.withDocs (c.db.docs.set 1 d)).db.docs.get 1).filename = "s.tmSnippet" from snippet.1]
    decide
  obtain ⟨fault, failed⟩ : ∃ fault, (c.withDocs (c.db.docs.set 1 d)).saveDoc 1 (c.ownItemDir .snippet "A.tmbundle") =
      (c.withDocs (c.db.docs.set 1 d), .error fault) := exists_saveDoc_blocked h.files h.parts.2 single
  have save : c.saveItem? .snippet 0 0 = some (c.withDocs (c.db.docs.set 1 d), .error fault) := by
    refine saveItem?_eq h.found (by rw [h.dirName]; decide) h.item ?_ h.live.2 ?_
    · rw [savable?, h.ownItem.1, h.ownItem.2]
      rfl
    · rw [given, h.dirName]
      exact failed
  have rewrites := c.db.docs.rewrites_set (show d.isVacant = (c.db.docs.get 1).isVacant by rw [same]; rfl)
  have kept (index : Nat) : (c.db.docs.set 1 d).isLive index = c.db.docs.isLive index := by
    rw [DocumentTable.isLive, rewrites.size, rewrites.vacant]
    rfl
  have manifest : (c.db.docs.set 1 d).get 0 = c.db.docs.get 0 := DocumentTable.get_set_of_ne _ (by decide) _
  exact ⟨_, _, save, h.config, h.files, h.found, h.dirName, h.own, h.items, h.ownItem,
    ⟨(kept 0).trans h.live.1, (kept 1).trans h.live.2⟩, manifest ▸ h.manifest, snippet⟩

end OwnSnippet

/-- The bundle and the snippet are made, and are given their names when they cannot be saved. -/
theorem exists_ownSnippet : ∃ c row e, Grounded c ∧ OwnSnippet c ownFiles "A.tmbundle" "s.tmSnippet" row e := by
  obtain ⟨empty, c, files, opens, same, bare⟩ := app_openAt { nth := fun _ => "U" }
  have opened : Grounded c := .opened regular_empty empty opens
  obtain ⟨c₁, row, e, made, unsaved⟩ : ∃ c₁ row e, Grounded c₁ ∧ OwnSnippet c₁ blockedFiles "" "" row e := by
    obtain ⟨config, db, files, identities, dirty, lastFlush, pending, complete⟩ := c
    obtain ⟨rfl, rfl⟩ : config = appConfig ∧ db = {} := ⟨same, bare.tables⟩
    have first := opened.step (.newBundle "A") (fun _ => Operation.noConfusion) rfl
    have second := first.step (.newItem .snippet 0 "s") (fun _ => Operation.noConfusion) rfl
    have third := second.next
      (fun files same => (Operation.changeFiles.inj same) ▸ regular_blockedFiles)
      (rfl : (Operation.changeFiles blockedFiles).run? _ = some _)
    exact ⟨_, _, _, third, rfl, rfl, rfl, rfl, ⟨rfl, rfl⟩, rfl, ⟨rfl, rfl⟩, ⟨rfl, rfl⟩, ⟨rfl, rfl⟩, rfl, rfl⟩
  obtain ⟨c₂, result, saved, placed⟩ := unsaved.saveBundle
  obtain ⟨c₃, result', saved', named⟩ := placed.saveItem
  have second := made.step (.saveBundle 0) (fun _ => Operation.noConfusion) (congrArg (Option.map Prod.fst) saved)
  have third := second.step (.saveItem .snippet 0 0) (fun _ => Operation.noConfusion) (congrArg (Option.map Prod.fst) saved')
  have fourth : Grounded { c₃ with files := ownFiles } :=
    third.next (fun files same => (Operation.changeFiles.inj same) ▸ regular_ownFiles) rfl
  exact ⟨_, _, e, fourth, named.config, rfl, named.found, named.dirName, named.own, named.items, named.ownItem, named.live,
    named.manifest, named.snippet⟩

/-! ## Exporting it -/

theorem Entry.resolve_of_own {e : Entry} (own : e.locality = { own := true }) : e.resolve = e.ownDoc := by
  rw [resolve, own]
  rfl

theorem isFileName_out : IsFileName "out" := ⟨by decide, by decide, by decide, by decide, by decide⟩

theorem tree_ownFiles : ownFiles.Tree where
  top := ⟨_, _, rfl⟩
  around here name there := by
    have known : here ++ [name] ∈ Entries.keys ownFiles.nodes := by
      by_contra missing
      rw [FileSystem.node?, Entries.get?_eq_none_iff.2 missing] at there
      cases there
    have among : here ∈ (Entries.keys ownFiles.nodes).map List.dropLast := List.mem_map.2 ⟨_, known, List.dropLast_concat⟩
    simp only [ownFiles, Entries.keys, List.map_cons, List.map_nil, List.mem_cons, List.not_mem_nil, or_false] at among
    rcases among with rfl | rfl | rfl | rfl | rfl | rfl <;> exact ⟨_, _, rfl⟩

/-- What is exported, in this order. -/
def outNodes : List (Place × FileNode) :=
  [(["out"], .directory FileSystem.directoryMode 0), (["out", "info.plist"], .file ⟨#[1]⟩ 0o644 0),
    (["out", "Snippets"], .directory FileSystem.directoryMode 0), (["out", "Snippets", "s.tmSnippet"], .file ⟨#[2]⟩ 0o644 0)]

/-- The files with the first ones that are exported. -/
def outFiles (count : Nat) : FileSystem :=
  (outNodes.take count).foldl (fun fs entry => fs.putNode entry.1 entry.2) ownFiles

/-- The manifest that the user has is there before its copy is made, and the snippet before its copy. -/
theorem locate_own : (∀ count, count = 0 ∨ count = 1 →
      (outFiles count).locate (Path.join (Path.join "Bundles" "A.tmbundle") manifestName) =
        .ok (["Bundles", "A.tmbundle", "info.plist"], .file ⟨#[1]⟩ 0o644 0)) ∧
    ∀ count, count = 0 ∨ count = 3 →
      (outFiles count).locate (Path.join (Path.join (Path.join "Bundles" "A.tmbundle") "Snippets") "s.tmSnippet") =
        .ok (["Bundles", "A.tmbundle", "Snippets", "s.tmSnippet"], .file ⟨#[2]⟩ 0o644 0) := by
  constructor
  · rintro count (rfl | rfl) <;>
      exact locate_join (locate_join (locate_name isFileName_bundles rfl rfl rfl rfl) rfl isFileName_bundle rfl) rfl
        isFileName_manifestName rfl
  · rintro count (rfl | rfl) <;>
      exact locate_join (locate_join (locate_join (locate_name isFileName_bundles rfl rfl rfl rfl) rfl isFileName_bundle rfl)
        rfl ItemKind.snippet.isFileName_dirName rfl) rfl isFileName_snippet rfl

namespace OwnSnippet

variable {e : Entry}

theorem itemPath? (h : OwnSnippet c ownFiles "A.tmbundle" "s.tmSnippet" row e) : c.itemPath? .snippet 0 0 =
    some (some (Path.join (Path.join (Path.join "Bundles" "A.tmbundle") "Snippets") "s.tmSnippet")) := by
  have there : c.item? .snippet 0 0 = some e := by
    rw [item?, itemTable?, h.found]
    exact h.item
  rw [Catalog.itemPath?, h.found]
  simp only [Option.bind_eq_bind, Option.bind_some, there, Entry.resolve_of_own h.ownItem.1, h.ownItem, Option.map_some,
    h.snippet.1, ownDir, h.config, ownBundles_app, h.dirName, if_true]
  rfl

theorem manifestPath? (h : OwnSnippet c ownFiles "A.tmbundle" "s.tmSnippet" row e) : c.manifestPath? row =
    some (Path.join (Path.join "Bundles" "A.tmbundle") manifestName) := by
  simp only [Catalog.manifestPath?, Entry.resolve_of_own h.own.1, h.own, Option.map_some, h.manifest.1, ownDir, h.config,
    ownBundles_app, h.dirName, if_true]

theorem listItems? (h : OwnSnippet c ownFiles "A.tmbundle" "s.tmSnippet" row e) (kind : ItemKind) :
    c.listItems? kind 0 = some (if kind = .snippet then [0] else []) := by
  have visible : e.isVisible = true := by
    rw [Entry.isVisible, h.ownItem.1]
    rfl
  rw [Catalog.listItems?, itemTable?, h.found]
  simp only [Option.map_some, h.items]
  cases kind with
  | snippet =>
    simp [PerKind.get_set_self, EntryTable.visible, EntryTable.size, EntryTable.entryAt?, EntryTable.row?, visible, Row.entry]
  | _ => rfl

theorem exportKinds?_of_nil {kind : ItemKind} {kinds : List ItemKind} (none_ : c.listItems? kind b = some []) :
    exportKinds? c target b (kind :: kinds) = exportKinds? c target b kinds := by
  rw [exportKinds?, none_]
  rfl

theorem parts_supportDirs (h : OwnSnippet c ownFiles "A.tmbundle" "s.tmSnippet" row e) {dir : String}
    (member : dir ∈ c.supportDirs row) :
    Path.parts dir = ["Bundles", "A.tmbundle", "Support"] ∨ Path.parts dir = ["app", "Bundles", "A.tmbundle", "Support"] := by
  have support : IsFileName supportName := ⟨by decide, by decide, by decide, by decide, by decide⟩
  have pristine : Path.parts appConfig.pristineBundles = ["app", "Bundles"] := by
    rw [Config.pristineBundles, isFileName_bundles.parts_join, show appConfig.bundledDir = "app" from rfl, isFileName_app.parts]
    rfl
  rw [supportDirs, h.dirName, h.own.1, factoryDir, h.config] at member
  rcases List.mem_cons.1 member with rfl | member
  · rw [support.parts_join, h.parts.1]
    exact .inl rfl
  · obtain rfl := List.mem_singleton.1 member
    rw [support.parts_join, if_neg (by decide), isFileName_bundle.parts_join, pristine]
    exact .inr rfl

/-- The snippet is exported into a directory of its own. -/
theorem exportKinds? (h : OwnSnippet c ownFiles "A.tmbundle" "s.tmSnippet" row e) :
    Catalog.exportKinds? { c with files := outFiles 2 } "out" 0 ItemKind.all =
      some ({ c with files := outFiles 4 }, .ok ()) := by
  have listed (kind : ItemKind) (files : FileSystem) : ({ c with files } : Catalog).listItems? kind 0 =
      some (if kind = .snippet then [0] else []) := h.listItems? kind
  have path (files : FileSystem) : ({ c with files } : Catalog).itemPath? .snippet 0 0 = _ := h.itemPath?
  have snippets : IsFileName "Snippets" := ItemKind.snippet.isFileName_dirName
  have made : (outFiles 2).createDirectories (Path.join "out" "Snippets") = (outFiles 3, .ok ()) := by
    rw [createDirectories_eq (FileSystem.resolve_join (locate_name isFileName_out rfl rfl rfl rfl : (outFiles 2).locate "out" = _)
      rfl snippets), snippets.parts_join, isFileName_out.parts]
    rfl
  have copied : (outFiles 3).copyFile (Path.join (Path.join (Path.join "Bundles" "A.tmbundle") "Snippets") "s.tmSnippet")
      (Path.join (Path.join "out" "Snippets") "s.tmSnippet") = .ok (outFiles 4) :=
    copyFile_join (locate_own.2 3 (.inr rfl)) (locate_join (locate_name isFileName_out rfl rfl rfl rfl) rfl snippets rfl) rfl
      isFileName_snippet rfl
  have exported : Catalog.exportItems? { c with files := outFiles 3 } (Path.join "out" "Snippets") .snippet 0 [0] =
      some ({ c with files := outFiles 4 }, .ok ()) := by
    rw [Catalog.exportItems?, path]
    simp only [Option.bind_eq_bind, Option.bind_some, isFileName_snippet.fileName?_join, Catalog.exportItem?, path, copied]
    rfl
  have ofKind : Catalog.exportKinds? { c with files := outFiles 2 } "out" 0 [.snippet, .dragCommand, .preference, .keyMacro] =
      Catalog.exportKinds? { c with files := outFiles 4 } "out" 0 [.dragCommand, .preference, .keyMacro] := by
    rw [Catalog.exportKinds?, listed, show ItemKind.dirName .snippet = "Snippets" from rfl]
    simp only [Option.bind_eq_bind, Option.bind_some, made, if_true, exported]
    rfl
  rw [ItemKind.all, exportKinds?_of_nil (listed _ _), exportKinds?_of_nil (listed _ _), ofKind, exportKinds?_of_nil (listed _ _),
    exportKinds?_of_nil (listed _ _), exportKinds?_of_nil (listed _ _)]
  rfl

/-- The manifest and the snippet are exported. -/
theorem exportBundle? (h : OwnSnippet c ownFiles "A.tmbundle" "s.tmSnippet" row e) :
    c.exportBundle? "out" 0 = some ({ c with files := outFiles 4 }, .ok ()) := by
  have out : ownFiles.resolve "out" = .ok ["out"] :=
    FileSystem.resolve_eq_ok.2 ⟨⟨isFileName_out.plain, isFileName_out.present, isFileName_out.relative⟩, by
      rw [isFileName_out.parts]
      rfl⟩
  have made : ownFiles.createDirectories "out" = (outFiles 1, .ok ()) := by
    rw [createDirectories_eq out, isFileName_out.parts]
    rfl
  have located := locate_own.1 1 (.inr rfl)
  have isFile : (outFiles 1).isFile (Path.join (Path.join "Bundles" "A.tmbundle") manifestName) = true := by
    rw [FileSystem.isFile, located]
    rfl
  have copied : (outFiles 1).copyFile (Path.join (Path.join "Bundles" "A.tmbundle") manifestName) (Path.join "out" manifestName) =
      .ok (outFiles 2) :=
    copyFile_join located (locate_name isFileName_out rfl rfl rfl rfl) rfl isFileName_manifestName rfl
  have manifest (files : FileSystem) : ({ c with files } : Catalog).manifestPath? row = _ := h.manifestPath?
  have unsupported : ({ c with files := outFiles 4 } : Catalog).supportPath? 0 = some none := by
    refine supportPath?_eq_none h.found fun dir member => isDirectory_eq_false ?_
    rw [Path.place]
    rcases h.parts_supportDirs member with parts | parts <;> rw [parts] <;> rfl
  rw [Catalog.exportBundle?, h.files, made]
  simp only [h.found, Option.bind_eq_bind, Option.bind_some, manifest, isFile, copied, h.exportKinds?, exportSupport?, unsupported]
  rfl

theorem clear (h : OwnSnippet c ownFiles "A.tmbundle" "s.tmSnippet" row e) : c.Clear row "out" := by
  have out : Path.place "out" = ["out"] := place_fileName isFileName_out
  have passes (here : Place) (passed : Path.Passes "out" here) : here = [] ∨ here = ["out"] := by
    obtain ⟨front, sooner, rfl⟩ := passed
    rw [isFileName_out.parts] at sooner
    rcases List.prefix_cons_iff.1 sooner with rfl | ⟨rest, rfl, nothing⟩
    · exact .inl rfl
    · rw [List.prefix_nil.1 nothing]
      exact .inr rfl
  have place (dir : String) (member : dir ∈ c.supportDirs row) :
      ".." ∉ Path.parts dir ∧ ¬Path.place dir <+: [] ∧ ¬Path.place dir <+: ["out"] := by
    rw [Path.place]
    rcases h.parts_supportDirs member with parts | parts <;> rw [parts] <;> decide
  refine ⟨fun here below different => ?_, fun here passed below => ?_, fun dir member here passed => ?_,
    fun dir member here passed _ => ?_⟩
  · rw [out] at below different
    rw [h.files, FileSystem.contentAt?_eq_none_iff]
    exact tree_ownFiles.node?_below rfl below
  · rw [out] at below ⊢
    rcases passes here passed with rfl | rfl
    · simp at below
    · rfl
  · rcases passes here passed with rfl | rfl
    · exact (place dir member).2.1
    · exact (place dir member).2.2
  · obtain ⟨front, sooner, rfl⟩ := passed
    exact Path.prefix_place (place dir member).1 sooner

end OwnSnippet

/-- The user's own bundle with a snippet is exported: its manifest and the file of the snippet are there. -/
theorem exportBundle?_of_grounded_own : ∃ (c c' : Catalog) (row : Bundle) (e : Export), Grounded c ∧ c.files.Tree ∧
    c.db.bundles.row? 0 = some row ∧ c.Clear row "out" ∧
    (∀ kind ids i, c.listItems? kind 0 = some ids → i ∈ ids →
      ∃ path, c.itemPath? kind 0 i = some (some path) ∧ c.files.isFile path = true) ∧
    c.exportBundle? "out" 0 = some (c', .ok ()) ∧
    (∀ inner, c'.files.contentAt? ("out" :: inner) = e.contentAt? inner) ∧
    e.manifest = some ⟨#[1]⟩ ∧ e.items.get .snippet = some [("s.tmSnippet", ⟨#[2]⟩)] := by
  obtain ⟨c, row, entry, reached, h⟩ := exists_ownSnippet
  have tree : c.files.Tree := h.files ▸ tree_ownFiles
  have located := locate_own.2 0 (.inl rfl)
  have saved (kind : ItemKind) (ids : List Nat) (i : Nat) (listed : c.listItems? kind 0 = some ids) (member : i ∈ ids) :
      ∃ path, c.itemPath? kind 0 i = some (some path) ∧ c.files.isFile path = true := by
    obtain rfl := Option.some.inj ((h.listItems? kind).symm.trans listed)
    split at member
    · rename_i snippet
      obtain rfl := List.mem_singleton.1 member
      refine ⟨_, snippet ▸ h.itemPath?, ?_⟩
      rw [h.files, FileSystem.isFile, show ownFiles = outFiles 0 from rfl, located]
      rfl
    · cases member
  obtain ⟨e, layout, manifest, items, -⟩ := exportBundle?_of_grounded reached tree h.found h.clear saved h.exportBundle?
  refine ⟨c, _, row, e, reached, tree, h.found, h.clear, saved, h.exportBundle?, ?_, ?_, ?_⟩
  · rwa [place_fileName isFileName_out] at layout
  · obtain ⟨path, octets, there, content, same⟩ := manifest
    obtain rfl := Option.some.inj (h.manifestPath?.symm.trans there)
    rw [← place_of_locate (locate_own.1 0 (.inl rfl)), h.files] at content
    cases content
    exact same
  · obtain ⟨ids, listed, empty, each⟩ := items .snippet
    obtain rfl := Option.some.inj ((h.listItems? .snippet).symm.trans listed)
    cases copied : e.items.get .snippet with
    | none => cases empty.1 copied
    | some files =>
      rw [copied] at each
      obtain ⟨⟨name, octets⟩, rest, ⟨path, there, last, content⟩, ended, rfl⟩ := List.forall₂_cons_left_iff.1 each
      obtain rfl := List.forall₂_nil_left_iff.1 ended
      obtain rfl := Option.some.inj (Option.some.inj (h.itemPath?.symm.trans there))
      obtain rfl : "s.tmSnippet" = name := Option.some.inj ((isFileName_snippet.fileName?_join _).symm.trans last)
      rw [← place_of_locate located, h.files] at content
      cases content
      rfl

end EditorBundles.Catalog
