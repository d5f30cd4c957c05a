import EditorBundles.Proofs.Catalog.OperationMoves

/-!
# What saving and deleting come to

Saving a bundle or an item, and deleting a bundle, go through several steps, each of which can fail. Their outcomes are
listed here once, with the catalog that each leaves behind.
-/

namespace EditorBundles.Catalog
set_option autoImplicit false
open PropertyList

variable {c c' : Catalog} {kind : ItemKind} {owner id doc : Nat}

/-! ## Saving a bundle -/

/-- A bundle whose own manifest `own` is to be saved, and the name of the directory that it is saved into: the one that it
has, or a free one that is named after the manifest. -/
structure Saving (c : Catalog) (id : Nat) (b : Bundle) (own : Nat) (dirName : String) : Prop where
  found : c.db.bundles.row? id = some b
  named : savable? b.entry = some own
  live : c.db.docs.isLive own = true
  kept : b.dirName ≠ "" → dirName = b.dirName
  chosen : b.dirName = "" → dirName = freeName c.files c.config.ownBundles
    (((c.db.docs.get own).rootString? "name").getD "") ".tmbundle"

/-- The catalog with a bundle put into a directory, when the directory was made or not. -/
def placed (c : Catalog) (id : Nat) (dirName : String) (files : FileSystem) : Catalog :=
  { c.modifyBundle id fun b => { b with dirName } with files }

/-- The mark that a bundle was changed is taken away. -/
def unmarkBundle (c : Catalog) (id : Nat) : Catalog :=
  c.modifyBundle id fun b => { b with entry := { b.entry with modified := false } }

/-- What saving a bundle comes to: there is nothing to save, or its directory cannot be made, or its manifest cannot be
written, or it is saved. -/
inductive SavesBundle (c : Catalog) (id : Nat) : Catalog → Except Fault Unit → Prop where
  | refused {b : Bundle} (found : c.db.bundles.row? id = some b) (none_ : savable? b.entry = none) :
      SavesBundle c id c (.error (.notEditable (.bundle id)))
  | stuck {b : Bundle} {own : Nat} {dirName : String} {files : FileSystem} {fault : FileFault}
      (saving : c.Saving id b own dirName) (made : c.files.createDirectories (c.ownDir dirName) = (files, .error fault)) :
      SavesBundle c id (c.placed id dirName files) (.error (.file fault))
  | unwritten {b : Bundle} {own : Nat} {dirName : String} {files : FileSystem} {c' : Catalog} {fault : Fault}
      (saving : c.Saving id b own dirName) (made : c.files.createDirectories (c.ownDir dirName) = (files, .ok ()))
      (written : ((c.placed id dirName files).nameDoc own fun _ => manifestName).saveDoc own (c.ownDir dirName) =
        (c', .error fault)) :
      SavesBundle c id c' (.error fault)
  | saved {b : Bundle} {own : Nat} {dirName : String} {files : FileSystem} {c' : Catalog}
      (saving : c.Saving id b own dirName) (made : c.files.createDirectories (c.ownDir dirName) = (files, .ok ()))
      (written : ((c.placed id dirName files).nameDoc own fun _ => manifestName).saveDoc own (c.ownDir dirName) =
        (c', .ok ())) :
      SavesBundle c id (c'.unmarkBundle id).markDirty (.ok ())

@[simp] theorem config_nameDoc (c : Catalog) (doc : Nat) (choose : String → String) :
    (c.nameDoc doc choose).config = c.config := by
  rw [nameDoc]
  split <;> rfl

theorem savesBundle_of_saveBundle? {result : Except Fault Unit} (saved : c.saveBundle? id = some (c', result)) :
    c.SavesBundle id c' result := by
  obtain ⟨b, found, saved⟩ := Option.bind_eq_some_iff.1 saved
  cases named : savable? b.entry with
  | none =>
    rw [named] at saved
    obtain ⟨rfl, rfl⟩ := Prod.mk.inj (Option.some.inj saved)
    exact .refused found named
  | some own =>
    rw [named] at saved
    obtain ⟨d, live, saved⟩ := Option.bind_eq_some_iff.1 saved
    obtain ⟨there, rfl⟩ := liveDoc?_eq_some.1 live
    dsimp only at saved
    have saving : c.Saving id b own (if b.dirName.isEmpty then freeName c.files c.config.ownBundles
        (((c.db.docs.get own).rootString? "name").getD "") ".tmbundle" else b.dirName) :=
      ⟨found, named, there, fun present => if_neg (mt String.isEmpty_iff.1 present),
        fun none_ => if_pos (String.isEmpty_iff.2 none_)⟩
    generalize (if b.dirName.isEmpty then freeName c.files c.config.ownBundles
      (((c.db.docs.get own).rootString? "name").getD "") ".tmbundle" else b.dirName) = dirName at saved saving
    split at saved
    · rename_i made
      obtain ⟨rfl, rfl⟩ := Prod.mk.inj (Option.some.inj saved)
      exact .stuck saving made
    · rename_i files made
      have same : c.ownDir dirName = ((c.placed id dirName files).nameDoc own fun _ => manifestName).ownDir dirName := by
        rw [ownDir, ownDir, config_nameDoc]
        rfl
      have there := congrArg (((c.placed id dirName files).nameDoc own fun _ => manifestName).saveDoc own) same
      split at saved <;> rename_i written <;> obtain ⟨rfl, rfl⟩ := Prod.mk.inj (Option.some.inj saved)
      · exact .unwritten saving made (there.trans written)
      · exact .saved saving made (there.trans written)

/-- Saving a bundle comes no further than its directory if that cannot be made. -/
theorem Saving.saveBundle?_eq {b : Bundle} {own : Nat} {dirName : String} {files : FileSystem} {fault : FileFault}
    (saving : c.Saving id b own dirName) (made : c.files.createDirectories (c.ownDir dirName) = (files, .error fault)) :
    c.saveBundle? id = some (c.placed id dirName files, .error (.file fault)) := by
  have chosen : (if b.dirName.isEmpty then
      freeName c.files c.config.ownBundles (((c.db.docs.get own).rootString? "name").getD "") ".tmbundle" else b.dirName) =
      dirName := by
    split
    · rename_i empty
      exact (saving.chosen (String.isEmpty_iff.1 empty)).symm
    · rename_i present
      exact (saving.kept (mt String.isEmpty_iff.2 present)).symm
  rw [saveBundle?, saving.found]
  simp only [Option.bind_eq_bind, Option.bind_some, saving.named, liveDoc?, saving.live, if_true, chosen]
  have made' : (c.modifyBundle id fun b => { b with dirName }).files.createDirectories
      ((c.modifyBundle id fun b => { b with dirName }).ownDir dirName) = (files, .error fault) := made
  rw [made']
  rfl

/-! ## Saving an item -/

/-- The catalog with its bundle saved, if it was never saved before. -/
inductive Readies (c : Catalog) (owner : Nat) : Catalog → Except Fault Unit → Prop where
  | there {b : Bundle} (found : c.db.bundles.row? owner = some b) (placed : b.dirName ≠ "") : Readies c owner c (.ok ())
  | saved {b : Bundle} {c' : Catalog} {result : Except Fault Unit} (found : c.db.bundles.row? owner = some b)
      (unplaced : b.dirName = "") (saves : c.SavesBundle owner c' result) : Readies c owner c' result

/-- The mark that an item was changed is taken away. -/
def unmarkItem (c : Catalog) (kind : ItemKind) (owner id : Nat) : Catalog :=
  c.modifyItem kind owner id fun e => { e with modified := false }

/-- The item with a name for the file of its own version in a directory. -/
def namedItem (c : Catalog) (kind : ItemKind) (doc : Nat) (dir : String) : Catalog :=
  c.nameDoc doc fun name => freeName c.files dir name kind.extension

/-- What saving an item comes to: there is nothing to save, or its bundle cannot be saved, or its file cannot be written,
or it is saved. -/
inductive SavesItem (c : Catalog) (kind : ItemKind) (owner id : Nat) : Catalog → Except Fault Unit → Prop where
  | refused {e : Entry} (item : c.item? kind owner id = some e) (none_ : savable? e = none) :
      SavesItem c kind owner id c (.error (.notEditable (.item kind owner id)))
  | homeless {e : Entry} {own : Nat} {c' : Catalog} {fault : Fault} (item : c.item? kind owner id = some e)
      (named : savable? e = some own) (readied : c.Readies owner c' (.error fault)) : SavesItem c kind owner id c' (.error fault)
  | unwritten {e : Entry} {own : Nat} {dirName : String} {c₁ c' : Catalog} {fault : Fault}
      (item : c.item? kind owner id = some e) (named : savable? e = some own) (readied : c.Readies owner c₁ (.ok ()))
      (home : c₁.bundleDirName? owner = some dirName)
      (written : (c₁.namedItem kind own (c₁.ownItemDir kind dirName)).saveDoc own (c₁.ownItemDir kind dirName) =
        (c', .error fault)) : SavesItem c kind owner id c' (.error fault)
  | saved {e : Entry} {own : Nat} {dirName : String} {c₁ c' : Catalog}
      (item : c.item? kind owner id = some e) (named : savable? e = some own) (readied : c.Readies owner c₁ (.ok ()))
      (home : c₁.bundleDirName? owner = some dirName)
      (written : (c₁.namedItem kind own (c₁.ownItemDir kind dirName)).saveDoc own (c₁.ownItemDir kind dirName) =
        (c', .ok ())) : SavesItem c kind owner id (c'.unmarkItem kind owner id).markDirty (.ok ())

theorem savesItem_of_saveItem? {result : Except Fault Unit} (saved : c.saveItem? kind owner id = some (c', result)) :
    c.SavesItem kind owner id c' result := by
  obtain ⟨b, found, saved⟩ := Option.bind_eq_some_iff.1 saved
  obtain ⟨e, item, saved⟩ := Option.bind_eq_some_iff.1 saved
  cases named : savable? e with
  | none =>
    rw [named] at saved
    obtain ⟨rfl, rfl⟩ := Prod.mk.inj (Option.some.inj saved)
    exact .refused item named
  | some own =>
    rw [named] at saved
    dsimp -zeta only at saved
    extract_lets jp at saved
    -- what comes after the bundle was saved, if it never was before
    have rest (x : Catalog × Except Fault Unit) (readied : c.Readies owner x.1 x.2)
        (saved : jp x = some (c', result)) : c.SavesItem kind owner id c' result := by
      obtain ⟨c₁, first⟩ := x
      cases first with
      | error fault =>
        obtain ⟨rfl, rfl⟩ := Prod.mk.inj (Option.some.inj saved)
        exact .homeless item named readied
      | ok _ =>
        obtain ⟨dirName, home, saved⟩ := Option.bind_eq_some_iff.1 saved
        obtain ⟨d, -, saved⟩ := Option.bind_eq_some_iff.1 saved
        dsimp only at saved
        split at saved <;> rename_i written <;> obtain ⟨rfl, rfl⟩ := Prod.mk.inj (Option.some.inj saved)
        · exact .unwritten item named readied home written
        · exact .saved item named readied home written
    split at saved
    · rename_i new
      obtain ⟨x, first, saved⟩ := Option.bind_eq_some_iff.1 saved
      exact rest x (.saved found (String.isEmpty_iff.1 new) (savesBundle_of_saveBundle? first)) saved
    · rename_i old
      exact rest (c, .ok ()) (.there found (mt String.isEmpty_iff.2 old)) saved

/-- Saving an item comes no further than its name if its file cannot be written. -/
theorem saveItem?_eq {b : Bundle} {e : Entry} {own : Nat} {fault : Catalog.Fault} (found : c.db.bundles.row? owner = some b)
    (placed : b.dirName ≠ "") (item : (b.items.get kind).entryAt? id = some e) (named : savable? e = some own)
    (live : c.db.docs.isLive own = true)
    (failed : (c.namedItem kind own (c.ownItemDir kind b.dirName)).saveDoc own (c.ownItemDir kind b.dirName) =
      (c', .error fault)) :
    c.saveItem? kind owner id = some (c', .error fault) := by
  have there : c.item? kind owner id = some e := by
    rw [item?, itemTable?, found]
    exact item
  have dirName : c.bundleDirName? owner = some b.dirName := by rw [bundleDirName?, found]; rfl
  rw [namedItem] at failed
  rw [saveItem?, found]
  simp only [Option.bind_eq_bind, Option.bind_some, there, named, String.isEmpty_iff, placed, if_false, Option.pure_def,
    dirName, liveDoc?, live, if_true, failed]

/-! ## Deleting a bundle -/

/-- The catalog with a bundle that has dropped its own and its installed version. -/
structure Dropping (c : Catalog) (id : Nat) (b released : Bundle) (docs : DocumentTable) : Prop where
  found : c.db.bundles.row? id = some b
  release : Row.release { own := true, installed := true } b c.db.docs = (released, docs)

/-- The catalog with a bundle that has lost its installed version. -/
def uninstalled (c : Catalog) (id : Nat) (b released : Bundle) (docs : DocumentTable) : Catalog :=
  c.withDb { c.db with
    bundles := c.db.bundles.setRow id { released with entry := b.entry.uninstalled }
    docs := if b.entry.locality.installed then dropDoc docs b.entry.factoryDoc else docs }

/-- The catalog with a bundle that is hidden. -/
def hidden (c : Catalog) (id : Nat) (b released : Bundle) (docs : DocumentTable) : Catalog :=
  c.withDb { c.db with
    bundles := c.db.bundles.setRow id { released with
      entry := { b.entry with ownDoc := none, locality := { pristine := true, disabled := true }, modified := false } }
    docs := dropDoc docs b.entry.ownDoc }

/-- The catalog when the directories of a bundle are removed. -/
def cleared (c : Catalog) (doomed : List String) : Catalog :=
  ({ c with files := removeDirectories c.files doomed } : Catalog).markDirty

/-- What deleting a bundle comes to: it is hidden, or a bundle without a directory is gone, or its manifest cannot be
deleted, or all its files are. -/
inductive DeletesBundle (c : Catalog) (id : Nat) : Catalog → Except Fault Bool → Prop where
  | hides {b released : Bundle} {docs : DocumentTable} (dropping : c.Dropping id b released docs)
      (pristine : b.entry.locality.pristine = true) :
      DeletesBundle c id ((c.hidden id b released docs).cleared (c.doomedDirs b)) (.ok false)
  | unplaced {b released : Bundle} {docs : DocumentTable} (dropping : c.Dropping id b released docs)
      (pristine : b.entry.locality.pristine = false) (none_ : released.dirName = "") :
      DeletesBundle c id (((c.uninstalled id b released docs).dropBundle id Locality.sources).cleared (c.doomedDirs b))
        (.ok true)
  | stuck {b released : Bundle} {docs : DocumentTable} {fault : FileFault} (dropping : c.Dropping id b released docs)
      (pristine : b.entry.locality.pristine = false) (placed : released.dirName ≠ "")
      (deleted : (c.uninstalled id b released docs).db.bundles.delete id (c.ownDir released.dirName)
        (c.uninstalled id b released docs).db.docs c.files = .error fault) :
      DeletesBundle c id (c.uninstalled id b released docs) (.error (.file fault))
  | deleted {b released : Bundle} {docs docs' : DocumentTable} {bundles : EntryTable Bundle} {files : FileSystem}
      (dropping : c.Dropping id b released docs) (pristine : b.entry.locality.pristine = false)
      (placed : released.dirName ≠ "")
      (deleted : (c.uninstalled id b released docs).db.bundles.delete id (c.ownDir released.dirName)
        (c.uninstalled id b released docs).db.docs c.files = .ok (bundles, docs', files)) :
      DeletesBundle c id (({ c.withDb { c.db with bundles, docs := docs' } with files } : Catalog).cleared (c.doomedDirs b))
        (.ok true)

theorem deletesBundle_of_deleteBundle? {result : Except Fault Bool} (deleted : c.deleteBundle? id = some (c', result)) :
    c.DeletesBundle id c' result := by
  obtain ⟨b, found, deleted⟩ := Option.bind_eq_some_iff.1 deleted
  have entry : (Row.release { own := true, installed := true } b c.db.docs).1.entry = b.entry :=
    Row.entry_release { own := true, installed := true } b c.db.docs
  generalize release : Row.release { own := true, installed := true } b c.db.docs = dropped at deleted entry
  obtain ⟨released, docs⟩ := dropped
  have dropping : c.Dropping id b released docs := ⟨found, release⟩
  dsimp only at deleted entry
  rw [entry] at deleted
  split at deleted
  · rename_i pristine
    obtain ⟨rfl, rfl⟩ := Prod.mk.inj (Option.some.inj deleted)
    exact .hides dropping pristine
  · rename_i pristine
    rw [Bool.not_eq_true] at pristine
    split at deleted
    · rename_i none_
      obtain ⟨rfl, rfl⟩ := Prod.mk.inj (Option.some.inj deleted)
      exact .unplaced dropping pristine (String.isEmpty_iff.1 none_)
    · rename_i placed
      split at deleted
      · rename_i failed
        obtain ⟨rfl, rfl⟩ := Prod.mk.inj (Option.some.inj deleted)
        exact .stuck dropping pristine (mt String.isEmpty_iff.2 placed) failed
      · rename_i removed
        obtain ⟨rfl, rfl⟩ := Prod.mk.inj (Option.some.inj deleted)
        exact .deleted dropping pristine (mt String.isEmpty_iff.2 placed) removed

end EditorBundles.Catalog
