import EditorBundles.Proofs.Catalog.CachedNames
import EditorBundles.Proofs.Catalog.ConcealedBundles

/-!
# What was deleted stays hidden

A theme, a bundle or an item that came with the editor is hidden when it is deleted. Whatever becomes of the files then, and
however often they are scanned, it is not shown again: as long as what was shipped is there at each scan, no other shipped
file has its identity, and an installed version of a hidden bundle does not go away. The versions of the user's own may
come and go.
-/

namespace EditorBundles.Catalog
set_option autoImplicit false
open PropertyList FileSystem

namespace CatalogView

variable {v : CatalogView} {s : Subject} {file : String} {known : String → Prop}

/-- A subject is hidden that was shipped in a file or a directory of some name, and nothing else has that version. -/
def Hides (v : CatalogView) (file : String) : Subject → Prop
  | .theme id => v.themes.Conceals id file fun _ => True
  | .bundle id => v.Stands id file (·.entry.Veiled)
  | .item kind owner id => ∃ dirName, v.Stands owner dirName (BundleView.Conceals kind id file fun _ => True)

/-- What was shipped is there. Of the shipped files of a directory only that of a theme or of an item has an identity of
the kind that its row goes by; a bundle has the directory of each factory version that it has, and there is no installed
version of the bundle of an item. -/
def StillShips (v : CatalogView) (file : String) : Subject → Prop
  | .theme id => ∃ known, (∀ e, v.themes.entryAt? id = some e → known e.uuid) ∧
      TableView.Shipped v.files v.config.pristineThemes ".tmTheme" file known
  | .bundle id => file ∈ bundleDirs v.files v.config.pristineBundles ∧
      ∀ b, v.bundles.row? id = some b → b.entry.locality.installed = true → file ∈ bundleDirs v.files v.config.installedBundles
  | .item kind owner id => ∃ known, ∀ b, v.bundles.row? owner = some b →
      (∀ e, (b.items.get kind).entryAt? id = some e → known e.uuid) ∧
      b.dirName ∈ bundleDirs v.files v.config.pristineBundles ∧
      HasManifest { pristine := true } v.files (Path.join v.config.pristineBundles b.dirName) ∧
      b.dirName ∉ bundleDirs v.files v.config.installedBundles ∧
      TableView.Shipped v.files (Path.join (Path.join v.config.pristineBundles b.dirName) kind.dirName) kind.extension file
        known

/-- Whether a subject is hidden does not hang on the files. -/
theorem Hides.withFiles (h : v.Hides file s) (files : FileSystem) : ({ v with files } : CatalogView).Hides file s := by
  cases s with
  | theme id => exact h
  | bundle id => exact ⟨h.row, h.alone⟩
  | item kind owner id => exact h.imp fun _ stands => ⟨stands.row, stands.alone⟩

/-- What is hidden is hidden after a scan. -/
theorem Hides.update (h : v.Hides file s) (regular : v.files.Regular) (ships : v.StillShips file s) (mode : ScanMode) :
    (v.update mode).Hides file s := by
  cases s with
  | theme id =>
    obtain ⟨known, identity, shipped⟩ := ships
    exact conceals_update (TableView.Conceals.of_uuid h identity) regular shipped mode
  | bundle id => exact Stands.update_veiled h ships.1 ships.2 mode
  | item kind owner id =>
    obtain ⟨dirName, stands⟩ := h
    obtain ⟨known, ships⟩ := ships
    obtain ⟨b, there, rfl, conceals⟩ := stands.row
    obtain ⟨identity, listed, manifest, missing, shipped⟩ := ships b there
    have start : v.Stands owner b.dirName (BundleView.Conceals kind id file known) :=
      ⟨⟨b, there, rfl, conceals.here, conceals.pristine, conceals.installed, conceals.items.of_uuid identity⟩, stands.alone⟩
    exact ⟨b.dirName, start.update_conceals regular listed manifest missing shipped mode⟩

end CatalogView

/-- What becomes of a catalog as its files change and are scanned. What was shipped of a subject is there at each scan. -/
inductive Rescanning (s : Subject) (file : String) (c : Catalog) : Catalog → Prop where
  | refl : Rescanning s file c c
  | files {c' : Catalog} (run : Rescanning s file c c') (files : FileSystem) : Rescanning s file c { c' with files }
  | update {c' : Catalog} (run : Rescanning s file c c') (regular : c'.files.Regular) (ships : c'.view.StillShips file s)
    (mode : ScanMode) : Rescanning s file c (c'.update mode)

variable {c : Catalog} {s : Subject} {file : String}

/-- An entry that is not shown is not listed. -/
theorem not_lists_of_entryOf? {e : Entry} (found : c.db.entryOf? s = some e) (hidden : e.isVisible = false) (name : String) :
    ¬c.Lists name s := by
  cases s with
  | theme id =>
    intro listed
    obtain ⟨id', member, same⟩ := List.mem_map.1 (List.mem_mergeSort.1 listed)
    obtain rfl := congrArg Prod.fst same
    exact Bool.false_ne_true (hidden.symm.trans ((EntryTable.mem_visible_iff found).1 member))
  | bundle id =>
    rintro ⟨listed, -⟩
    exact Bool.false_ne_true (hidden.symm.trans ((EntryTable.mem_visible_iff found).1 (List.mem_mergeSort.1 listed)))
  | item kind owner id =>
    rintro ⟨ids, listed, member⟩
    obtain ⟨b, there, found⟩ := Option.bind_eq_some_iff.1 found
    rw [listItems?, itemTable?, there] at listed
    obtain rfl := Option.some.inj listed
    exact Bool.false_ne_true (hidden.symm.trans ((EntryTable.mem_visible_iff found).1 member))

/-- The entry that is seen to be hidden. -/
theorem exists_entryOf?_of_hides (hides : c.view.Hides file s) :
    ∃ e, c.db.entryOf? s = some e ∧ e.locality.disabled = true := by
  have entry {t : EntryTable Entry} {id : Nat} {docs : DocumentTable}
      (conceals : (t.view docs).Conceals id file fun _ => True) : ∃ e, t.entryAt? id = some e ∧ e.locality.disabled = true := by
    obtain ⟨⟨row, found, conceals, -⟩, -⟩ := conceals
    rw [EntryTable.row?_view] at found
    obtain ⟨e, there, rfl⟩ := Option.map_eq_some_iff.1 found
    exact ⟨e, congrArg (Option.map Row.entry) there, conceals.disabled⟩
  cases s with
  | theme id => exact entry hides
  | bundle id =>
    obtain ⟨⟨b, found, -, veiled⟩, -⟩ := hides
    rw [row?_view] at found
    obtain ⟨b', there, rfl⟩ := Option.map_eq_some_iff.1 found
    exact ⟨b'.entry, congrArg (Option.map Row.entry) there, veiled.disabled⟩
  | item kind owner id =>
    obtain ⟨dirName, ⟨b, found, -, conceals⟩, -⟩ := hides
    rw [row?_view] at found
    obtain ⟨b', there, rfl⟩ := Option.map_eq_some_iff.1 found
    have inside := conceals.items
    rw [Bundle.view, PerKind.get_map] at inside
    obtain ⟨e, found, disabled⟩ := entry inside
    refine ⟨e, ?_, disabled⟩
    rw [Database.entryOf?, there]
    exact found

/-- In every run of scans that finds what was shipped, what is hidden stays hidden. -/
theorem hides_of_rescanning {c' : Catalog} (reached : Reachable Careful c) (hides : c.view.Hides file s)
    (run : Rescanning s file c c') : c'.view.Hides file s ∧ ∃ e, c'.db.entryOf? s = some e ∧ e.locality.disabled = true ∧
      e.isVisible = false ∧ e.resolve = none ∧ ∀ name, ¬c'.Lists name s := by
  have keeping : c.db.Keeping [] :=
    reached.induct (P := fun db => db.Keeping []) Database.keeping_empty (fun _ h => resume_keeps h)
      fun _ _ _ h careful runs => Operation.keeps h careful runs
  have kept : c'.db.Keeping [] ∧ c'.view.Hides file s := by
    induction run with
    | refl => exact ⟨keeping, hides⟩
    | files _ files ih => exact ⟨ih.1, ih.2.withFiles files⟩
    | @update c' _ regular ships mode ih =>
      obtain ⟨keeping', hides'⟩ := ih
      refine ⟨Operation.keeps keeping' (show Careful c' (.update mode) from trivial) rfl, ?_⟩
      rw [view_update keeping'.holds mode]
      exact hides'.update regular ships mode
  obtain ⟨e, found, disabled⟩ := exists_entryOf?_of_hides kept.2
  have hidden : e.locality.isHidden = true := by rw [Locality.isHidden, disabled, Bool.true_or]
  have invisible : e.isVisible = false := by rw [Entry.isVisible, hidden, Bool.not_true, Bool.and_false]
  exact ⟨kept.2, e, found, disabled, invisible, e.resolve_eq_none_of_isHidden hidden, not_lists_of_entryOf? found invisible⟩

/-! ## A theme that is deleted -/

/-- A file system with the file of one theme that came with the editor. -/
def appFile (octets : ByteArray) : FileSystem := { nodes := [
  ([], .directory 0o755 0), (["app"], .directory 0o755 0), (["app", "Themes"], .directory 0o755 0),
  (["app", "Themes", "A.tmTheme"], .file octets 0o644 1000000000)] }

/-- What the file says. -/
def appText : ByteArray := "<plist><dict><key>name</key><string>A</string></dict></plist>".toUTF8

theorem exists_parse_appText : ∃ d, Document.parse appText = .ok d ∧ d.rootString? "name" = some "A" :=
  Document.exists_parse (by decide +kernel)

theorem regular_appFile : (appFile appText).Regular where
  single := by decide
  named := by simp [appFile, Entries.keys, isFileName_app, isFileName_themes, isFileName_theme]

theorem locate_appThemes : (appFile appText).locate (Path.join "app" "Themes") = .ok (["app", "Themes"], .directory 0o755 0) :=
  locate_join (locate_name isFileName_app rfl rfl rfl rfl) rfl isFileName_themes rfl

theorem locate_appTheme : (appFile appText).locate (Path.join (Path.join "app" "Themes") "A.tmTheme") =
    .ok (["app", "Themes", "A.tmTheme"], .file appText 0o644 1000000000) :=
  locate_join locate_appThemes rfl isFileName_theme rfl

theorem versionFiles_app : TableView.versionFiles (appFile appText) (Path.join "app" "Themes") ".tmTheme" = ["A.tmTheme"] :=
  listDir_theme locate_appThemes rfl rfl

theorem load_app : ∃ d, Document.load (appFile appText) (Path.join (Path.join "app" "Themes") "A.tmTheme") = .ok d ∧
    d.filename = "A.tmTheme" ∧ d.rootString? "name" = some "A" := by
  obtain ⟨d, parsed, named⟩ := exists_parse_appText
  exact ⟨_, Document.load_of_locate locate_appTheme parsed (isFileName_theme.fileName?_join _), rfl, named⟩

theorem not_isDirectory_appFile {name : String} (h : IsFileName name) (other : name ≠ "app") :
    (appFile appText).isDirectory (Path.join "" name) = false := by
  have missing : (appFile appText).node? [name] = none := by
    simp [FileSystem.node?, appFile, Entries.get?, other.symm]
  have parts : Path.parts (Path.join "" name) = [name] ++ [] := by
    rw [h.parts_join, Path.parts_empty]
    rfl
  exact not_isDirectory_of_follow parts (FileSystem.follow_name rfl rfl h) missing

theorem not_isDirectory_appBundles : (appFile appText).isDirectory (Path.join "app" "Bundles") = false :=
  not_isDirectory_join (locate_name isFileName_app rfl rfl rfl rfl) rfl isFileName_bundles rfl

/-- What is recorded of the theme. -/
def shippedEntry (d : Document) : Entry := (Entry.new { pristine := true } 0).identify d

/-- Tables with the theme and nothing else. -/
def shippedTables (d : Document) : Database := { themes := ⟨[shippedEntry d]⟩, docs := { documents := #[d] } }

/-- A scan of tables that have nothing yet finds the theme. -/
theorem sync_app {d : Document}
    (loaded : Document.load (appFile appText) (Path.join (Path.join "app" "Themes") "A.tmTheme") = .ok d) :
    EntryTable.sync ({} : EntryTable Entry) {} (appFile appText) (Path.join "app" "Themes") { pristine := true } ".tmTheme" =
      (⟨[shippedEntry d]⟩, { documents := #[d] }) := by
  have directory : (appFile appText).isDirectory (Path.join "app" "Themes") = true :=
    FileSystem.isDirectory_iff.2 ⟨_, _, _, locate_appThemes⟩
  have listed : listDir (appFile appText) (Path.join "app" "Themes") false
      (fun name => hasExtension name ".plist" || hasExtension name ".tmTheme") = ["A.tmTheme"] := versionFiles_app
  have read : DocumentTable.load {} (appFile appText) (Path.join (Path.join "app" "Themes") "A.tmTheme") =
      .ok ({ documents := #[d] }, 0) := by
    rw [DocumentTable.load, loaded]
    rfl
  have unknown : (d.rootString? "uuid").bind (EntryTable.findUuid? ({} : EntryTable Entry)) = none := by
    cases d.rootString? "uuid" <;> rfl
  have inserted : EntryTable.insert ({} : EntryTable Entry) 0 { pristine := true } { documents := #[d] } =
      (⟨[shippedEntry d]⟩, 0) := rfl
  rw [EntryTable.sync, if_pos directory, listed]
  change EntryTable.addNew (appFile appText) (Path.join "app" "Themes") { pristine := true } ({} : EntryTable Entry) {}
    ["A.tmTheme"] = _
  rw [EntryTable.addNew, read]
  dsimp only
  rw [show ({ documents := #[d] } : DocumentTable).get 0 = d from rfl, unknown, inserted]
  rfl

theorem exists_update_app (config : c.config = appConfig) (files : c.files = appFile appText) (empty : c.db = {}) :
    ∃ d, d.filename = "A.tmTheme" ∧ d.rootString? "name" = some "A" ∧ (c.update .full).config = appConfig ∧
      (c.update .full).files = appFile appText ∧ (c.update .full).db = shippedTables d := by
  obtain ⟨d, loaded, filename, named⟩ := load_app
  refine ⟨d, filename, named, ?_⟩
  obtain ⟨c₁, made⟩ : ∃ c₁ : Catalog, c₁ = c.withDb (shippedTables d) := ⟨_, rfl⟩
  obtain ⟨config₁, files₁, tables⟩ : c₁.config = appConfig ∧ c₁.files = appFile appText ∧ c₁.db = shippedTables d :=
    made ▸ ⟨config, files, rfl⟩
  have factory : c.updateThemes c.config.pristineThemes { pristine := true } = c₁ := by
    rw [updateThemes, empty, files, config, show appConfig.pristineThemes = Path.join "app" "Themes" from rfl, sync_app loaded,
      made]
    rfl
  have settled : c₁.updateThemes c₁.config.ownThemes { own := true } = c₁ := by
    refine updateThemes_same ?_
    have apart : (shippedEntry d).locality.meets { own := true } = false := by
      simp [shippedEntry, Entry.new, Entry.identify, Locality.meets]
    rw [files₁, config₁, tables]
    exact sync_missing apart (not_isDirectory_appFile isFileName_themes (by decide)) _
  have themes : (if ScanMode.full = .rest then c else
      (c.updateThemes c.config.pristineThemes { pristine := true }).updateThemes c.config.ownThemes { own := true }) =
        c₁ := by
    rw [if_neg (by decide), factory, show c.config = c₁.config from config.trans config₁.symm, settled]
  have scanned : c.update .full = ({ c₁ with complete := true, pending := none } : Catalog).markDirty := by
    refine update_of_missing themes (congrArg Database.bundles tables) ?_ ?_ ?_
    · rw [files₁, config₁]
      exact not_isDirectory_appFile isFileName_installedBundles (by decide)
    · rw [files₁, config₁]
      exact not_isDirectory_appBundles
    · rw [files₁, config₁]
      exact not_isDirectory_appFile isFileName_bundles (by decide)
  rw [scanned]
  exact ⟨config₁, files₁, tables⟩

/-- When the theme is deleted, it is hidden. -/
theorem exists_deleteTheme?_app {d : Document} (filename : d.filename = "A.tmTheme") (tables : c.db = shippedTables d) :
    ∃ deleted, c.deleteTheme? 0 = some (deleted, .ok ()) ∧ deleted.config = c.config ∧ deleted.files = c.files ∧
      deleted.view.Hides "A.tmTheme" (.theme 0) := by
  obtain ⟨config, db, fs, identities, dirty, lastFlush, pending, complete⟩ := c
  obtain rfl : db = shippedTables d := tables
  refine ⟨_, rfl, rfl, rfl, ⟨_, rfl, ⟨⟨rfl, rfl, d, rfl, filename⟩, rfl, rfl⟩, trivial⟩, fun other row different there => ?_⟩
  obtain ⟨other, rfl⟩ := Nat.exists_eq_succ_of_ne_zero different
  cases there

theorem stillShips_app (config : c.config = appConfig) (files : c.files = appFile appText) :
    c.view.StillShips "A.tmTheme" (.theme 0) := by
  have place : c.view.config.pristineThemes = Path.join "app" "Themes" := congrArg Config.pristineThemes config
  refine ⟨fun _ => True, fun _ _ => trivial, ?_⟩
  obtain ⟨d, loaded, -⟩ := load_app
  rw [place, show c.view.files = appFile appText from files]
  refine ⟨versionFiles_app ▸ List.mem_singleton_self _, ⟨d, loaded, fun _ _ => trivial⟩, fun other listed different => ?_⟩
  rw [versionFiles_app] at listed
  exact absurd (List.mem_singleton.1 listed) different

/-- A theme that came with the editor is deleted, and it is not there after the next scan. -/
theorem hides_of_rescanning_deleted : ∃ found deleted : Catalog, Reachable Careful found ∧ found.Lists "A" (.theme 0) ∧
    found.deleteTheme? 0 = some (deleted, .ok ()) ∧ deleted.view.Hides "A.tmTheme" (.theme 0) ∧
    Rescanning (.theme 0) "A.tmTheme" deleted (deleted.update .full) ∧
    (∃ e, (deleted.update .full).db.entryOf? (.theme 0) = some e ∧ e.locality.disabled = true) ∧
    ∀ name, ¬(deleted.update .full).Lists name (.theme 0) := by
  obtain ⟨empty, start, config, bare, opens⟩ := @openAt_bare appConfig rfl rfl { nth := fun _ => "U" }
  have opened : Reachable Careful { start.update .languages with pending := some .rest } := .opened empty opens
  have kept : (start.update .languages).config = appConfig :=
    (config_update (bare.tables ▸ Database.keeping_empty) .languages).trans config
  have placed := opened.next (show Careful _ (.changeFiles (appFile appText)) from trivial) rfl
  obtain ⟨d, filename, named, config₁, files₁, tables⟩ := exists_update_app
    (c := { start.update .languages with pending := some .rest, files := appFile appText }) kept rfl
    (bare.update .languages).tables
  have scanned := placed.next (show Careful _ (.update .full) from trivial) rfl
  have entry : (({ start.update .languages with pending := some .rest, files := appFile appText } : Catalog).update
      .full).db.entryOf? (.theme 0) = some (shippedEntry d) := by
    rw [Database.entryOf?, tables]
    rfl
  have name : (shippedEntry d).name = "A" := by
    rw [shippedEntry, Entry.identify, named]
    rfl
  obtain ⟨deleted, ran, config₂, files₂, hides⟩ := exists_deleteTheme?_app filename tables
  have gone : Reachable Careful deleted :=
    scanned.next (show Careful _ (.deleteTheme 0) from trivial) (congrArg (Option.map Prod.fst) ran)
  have regular : deleted.files.Regular := files₂.trans files₁ ▸ regular_appFile
  have run : Rescanning (.theme 0) "A.tmTheme" deleted (deleted.update .full) :=
    .update .refl regular (stillShips_app (config₂.trans config₁) (files₂.trans files₁)) .full
  obtain ⟨-, e, there, disabled, -, -, hidden⟩ := hides_of_rescanning gone hides run
  exact ⟨_, deleted, scanned, name ▸ lists_of_entryOf? entry rfl, ran, hides, run, ⟨e, there, disabled⟩, hidden⟩

end EditorBundles.Catalog
