import EditorBundles.Proofs.Catalog.PassSteps
import EditorBundles.Proofs.Catalog.TablePairs
import EditorBundles.Proofs.Catalog.ViewKeeping

/-!
# Items that are read later

A scan of the languages leaves the items of all other kinds to a later scan. Next to each bundle that it goes over stands
the bundle that a full scan has at the same time: the same, but for the items of the other kinds, which are what the later
scan makes of those that are there if it reads the directories that the passes up to then have read.
-/

namespace EditorBundles.Catalog
set_option autoImplicit false
open PropertyList
open CatalogView (bundleDirs)

/-- One pass of a scan: a root with directories of bundles, and the locality of the versions in them. -/
structure Pass where
  root : String
  loc : Locality

namespace Config

variable (config : Config)

/-- The pass over the bundles that were installed. -/
def installedPass : Pass := ⟨config.installedBundles, { installed := true }⟩

/-- The pass over the bundles that came with the editor. -/
def pristinePass : Pass := ⟨config.pristineBundles, { pristine := true }⟩

/-- The pass over the user's own bundles. -/
def ownPass : Pass := ⟨config.ownBundles, { own := true }⟩

/-- The passes of a scan. -/
def passes : List Pass := [config.installedPass, config.pristinePass, config.ownPass]

end Config

/-- A pass with those that are done before it. -/
inductive Turn (config : Config) : List Pass → Pass → Prop where
  | installed : Turn config [] config.installedPass
  | pristine : Turn config [config.installedPass] config.pristinePass
  | own : Turn config [config.installedPass, config.pristinePass] config.ownPass

/-! ## Flags -/

namespace EntryView

variable {e : EntryView} {loc : Locality}

theorem locality_register (e : EntryView) (d : Document) (loc : Locality) :
    (e.register d loc).locality = e.locality.union loc := by
  unfold register
  split
  · rfl
  · split <;> rfl

theorem contains_register_self (source : loc.IsSource) (e : EntryView) (d : Document) :
    (e.register d loc).locality.contains loc = true := by
  rw [locality_register]
  cases source <;> simp [Locality.union, Locality.contains]

theorem isHidden_register (source : loc.IsSource) (e : EntryView) (d : Document) :
    (e.register d loc).locality.isHidden = e.locality.isHidden := by
  rw [locality_register]
  cases source <;> simp [Locality.union, Locality.isHidden]

/-- A version that an entry has already adds no flag. -/
theorem locality_register_of_contains (source : loc.IsSource) (contains : e.locality.contains loc = true) (d : Document) :
    (e.register d loc).locality = e.locality := by
  rw [locality_register]
  obtain ⟨uuid, name, ⟨pristine, own, disabled, deleted, installed, unnamed⟩, rest⟩ := e
  cases source <;> simp_all [Locality.union, Locality.contains]

theorem not_contains_dropVersions (source : loc.IsSource) (e : EntryView) :
    (e.dropVersions loc).1.locality.contains loc = false := by
  cases source <;> simp [dropVersions, Locality.contains, Locality.without, apply_ite Locality.installed,
    apply_ite Locality.pristine, apply_ite Locality.own]

theorem isHidden_dropVersions (source : loc.IsSource) (e : EntryView) :
    (e.dropVersions loc).1.locality.isHidden = e.locality.isHidden := by
  cases source <;> simp [dropVersions, Locality.isHidden, Locality.without, apply_ite Locality.disabled,
    apply_ite Locality.deleted]

end EntryView

/-! ## Bundles with items that wait -/

namespace BundleView

variable {fs fs' : FileSystem} {config : Config} {done : List Pass} {pass : Pass} {b b' : BundleView} {kind : ItemKind}

/-- Does a pass read the items of the bundle in its directory? -/
def due (fs : FileSystem) (pass : Pass) (b : BundleView) : Bool :=
  b.entry.locality.contains pass.loc && !b.entry.locality.isHidden
    && !(pass.loc = { pristine := true } && b.entry.locality.installed) && (bundleDirs fs pass.root).contains b.dirName

theorem due_iff : b.due fs pass = true ↔ b.entry.locality.contains pass.loc = true ∧ b.entry.locality.isHidden = false ∧
    ¬ (pass.loc = { pristine := true } ∧ b.entry.locality.installed = true) ∧ b.dirName ∈ bundleDirs fs pass.root := by
  unfold due
  simp only [Bool.and_eq_true, Bool.not_eq_true', List.contains_iff_mem, and_assoc, ← Bool.not_eq_true, decide_eq_true_eq]

/-- The table that a later scan makes of the items of a kind, if it reads the directories of some passes. -/
def settled (fs : FileSystem) (done : List Pass) (kind : ItemKind) (b : BundleView) : TableView EntryView :=
  if kind = .language then b.items.get kind
  else done.foldl (fun table pass => if b.due fs pass then
    table.sync fs (Path.join (Path.join pass.root b.dirName) kind.dirName) pass.loc kind.extension else table) (b.items.get kind)

/-- Nothing is made of the items where no pass reads a directory. -/
theorem settled_of_not_due (idle : ∀ pass ∈ done, b.due fs pass = false) (kind : ItemKind) :
    b.settled fs done kind = b.items.get kind := by
  unfold settled
  split
  · rfl
  · generalize b.items.get kind = table
    induction done with
    | nil => rfl
    | cons pass done ih =>
      rw [List.foldl_cons, idle pass List.mem_cons_self, if_neg Bool.false_ne_true]
      exact ih fun pass member => idle pass (List.mem_cons_of_mem _ member)

theorem settled_concat (fs : FileSystem) (done : List Pass) (pass : Pass) {kind : ItemKind} (later : kind ≠ .language)
    (b : BundleView) : b.settled fs (done ++ [pass]) kind =
      if b.due fs pass then
        (b.settled fs done kind).sync fs (Path.join (Path.join pass.root b.dirName) kind.dirName) pass.loc kind.extension
      else b.settled fs done kind := by
  unfold settled
  rw [if_neg later, if_neg later, List.foldl_append]
  rfl

/-- What is made of the items depends on them, on the name of the directory, and on which passes read it. -/
theorem settled_congr (dirName : b'.dirName = b.dirName) (same : ∀ pass ∈ done, b'.due fs pass = b.due fs pass)
    (items : b'.items.get kind = b.items.get kind) : b'.settled fs done kind = b.settled fs done kind := by
  unfold settled
  rw [items, dirName]
  split
  · rfl
  · generalize b.items.get kind = table
    induction done generalizing table with
    | nil => rfl
    | cons pass done ih =>
      rw [List.foldl_cons, List.foldl_cons, same pass List.mem_cons_self]
      exact ih (fun pass member => same pass (List.mem_cons_of_mem _ member)) _

/-- A bundle in a full scan next to the one in a scan of the languages. The items of other kinds are compared if they
wait for nothing but their turn. -/
structure Ahead (fs : FileSystem) (done : List Pass) (calm : Prop) (b' b : BundleView) : Prop where
  entry : b'.entry = b.entry
  dirName : b'.dirName = b.dirName
  items : ∀ kind, kind = .language ∨ calm → b'.items.get kind = b.settled fs done kind

variable {calm : Prop}

theorem ahead_refl (idle : calm → ∀ pass ∈ done, b.due fs pass = false) : Ahead fs done calm b b := by
  refine ⟨rfl, rfl, fun kind compared => ?_⟩
  rcases compared with rfl | calm
  · rfl
  · exact (settled_of_not_due (idle calm) kind).symm

/-- A pass that does not read the directory of the bundle leaves both as they are. -/
theorem ahead_concat_iff (idle : calm → b.due fs pass = false) :
    Ahead fs (done ++ [pass]) calm b' b ↔ Ahead fs done calm b' b := by
  have same (kind : ItemKind) (compared : kind = .language ∨ calm) :
      b.settled fs (done ++ [pass]) kind = b.settled fs done kind := by
    by_cases language : kind = .language
    · subst language
      rfl
    · rw [settled_concat fs done pass language, idle (compared.resolve_left language), if_neg Bool.false_ne_true]
  constructor
  · exact fun h => ⟨h.entry, h.dirName, fun kind compared => (h.items kind compared).trans (same kind compared)⟩
  · exact fun h => ⟨h.entry, h.dirName, fun kind compared => (h.items kind compared).trans (same kind compared).symm⟩

/-- A version that is recorded in both does not change what earlier passes have read. -/
theorem Ahead.register (h : Ahead fs done calm b' b) (d : Document) (loc : Locality)
    (same : ∀ pass ∈ done, ({ b with entry := b.entry.register d loc } : BundleView).due fs pass = b.due fs pass) :
    Ahead fs done calm { b' with entry := b'.entry.register d loc } { b with entry := b.entry.register d loc } := by
  refine ⟨congrArg (·.register d loc) h.entry, h.dirName, fun kind compared => (h.items kind compared).trans ?_⟩
  exact Eq.symm (settled_congr rfl same rfl)

theorem mem_covered (mode : ScanMode) (kind : ItemKind) : kind ∈ ItemKind.all.filter mode.covers ↔ mode.covers kind = true := by
  rw [List.mem_filter, and_iff_right (ItemKind.mem_all kind)]

/-- Both are read: one whole, the other as far as languages go. -/
theorem Ahead.read (h : Ahead fs done calm b' b) (alike : ScanAlike fs fs') (due : calm → b.due fs pass = true) :
    Ahead fs (done ++ [pass]) calm
      (b'.syncItems fs' (Path.join pass.root b.dirName) pass.loc (ItemKind.all.filter ScanMode.full.covers))
      (b.syncItems fs' (Path.join pass.root b.dirName) pass.loc (ItemKind.all.filter ScanMode.languages.covers)) := by
  rw [alike.syncItems_eq, alike.syncItems_eq]
  refine ⟨h.entry, h.dirName, fun kind compared => ?_⟩
  rw [get_syncItems, if_pos ((mem_covered .full kind).2 (by cases kind <;> rfl)), h.items kind compared]
  by_cases language : kind = .language
  · subst language
    rfl
  · have due := due (compared.resolve_left language)
    have later : ScanMode.languages.covers kind = false := by simp [ScanMode.covers, language]
    have untouched : (b.syncItems fs (Path.join pass.root b.dirName) pass.loc
        (ItemKind.all.filter ScanMode.languages.covers)).items.get kind = b.items.get kind := by
      rw [get_syncItems, if_neg (by rw [mem_covered, later]; exact Bool.false_ne_true)]
    have settled : (b.syncItems fs (Path.join pass.root b.dirName) pass.loc
        (ItemKind.all.filter ScanMode.languages.covers)).settled fs done kind = b.settled fs done kind :=
      settled_congr rfl (fun _ _ => rfl) untouched
    rw [settled_concat fs done pass language,
      show (b.syncItems fs (Path.join pass.root b.dirName) pass.loc _).due fs pass = b.due fs pass from rfl, due, if_pos rfl,
      settled]
    rfl

/-- The later scan reads what the full scan has read. -/
theorem Ahead.readLater (h : Ahead fs done calm b' b) (alike : ScanAlike fs fs') (due : calm → b.due fs pass = true) :
    Ahead fs (done ++ [pass]) calm
      (b'.syncItems fs' (Path.join pass.root b.dirName) pass.loc (ItemKind.all.filter ScanMode.rest.covers)) b := by
  rw [alike.syncItems_eq]
  refine ⟨h.entry, h.dirName, fun kind compared => ?_⟩
  rw [get_syncItems]
  by_cases language : kind = .language
  · subst language
    rw [if_neg (by rw [mem_covered]; decide), h.items _ compared]
    rfl
  · rw [if_pos ((mem_covered .rest kind).2 (by simp [ScanMode.covers, language])), h.items kind compared,
      settled_concat fs done pass language, due (compared.resolve_left language), if_pos rfl]

/-- Versions are dropped from both, where nothing waits. -/
theorem Ahead.drop (h : Ahead fs done calm b' b) (loc : Locality) (idle : calm → ∀ pass ∈ done, b.due fs pass = false)
    {done' : List Pass} (idle' : calm → ∀ pass ∈ done', (TableView.dropRow b loc).due fs pass = false) :
    Ahead fs done' calm (TableView.dropRow b' loc) (TableView.dropRow b loc) := by
  refine ⟨congrArg (fun e : EntryView => (e.dropVersions loc).1) h.entry, h.dirName, fun kind compared => ?_⟩
  have items : b'.items.get kind = b.items.get kind := by
    rw [h.items kind compared]
    rcases compared with rfl | calm
    · rfl
    · exact settled_of_not_due (idle calm) kind
  have dropped (b : BundleView) : (TableView.dropRow b loc).items.get kind =
      (b.items.get kind).dropAll (b.entry.dropVersions loc).2 := PerKind.get_map _ _ kind
  have settled : (TableView.dropRow b loc).settled fs done' kind = (TableView.dropRow b loc).items.get kind := by
    rcases compared with rfl | calm
    · rfl
    · exact settled_of_not_due (idle' calm) kind
  rw [settled, dropped, dropped, items, h.entry]

end BundleView
end EditorBundles.Catalog
