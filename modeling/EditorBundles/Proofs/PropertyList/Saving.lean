import EditorBundles.Proofs.FileSystem.Replacing
import EditorBundles.Proofs.PropertyList.Holding
import EditorBundles.Proofs.PropertyList.RoundTrip

/-!
# Saving a document and loading it again

A document that is saved is in the file of its name, with the permissions of the file that was there; no other file
changes, and loading that file gives the document again. A document that cannot be saved leaves all files as they are.
-/

namespace EditorBundles.PropertyList
set_option autoImplicit false
open EditorBundles.Path (IsPlain)
open FileSystem

namespace Document

variable {d e : Document} {fs fs' : FileSystem} {handed : List Cell} {dir path : String} {place : EditorBundles.Place}

/-! ## What does not depend on the file -/

theorem valueWithin_with (d : Document) (filename : String) (modTime : Int) (levels : Nat) (cell : Cell) :
    valueWithin levels { d with filename, modTime } cell = valueWithin levels d cell := by
  induction levels generalizing cell with
  | zero => cases cell <;> rfl
  | succ levels ih =>
    cases cell with
    | dict slot =>
      have below : valueWithin levels { d with filename, modTime } = valueWithin levels d := funext ih
      rw [valueWithin, valueWithin, below]
      rfl
    | array slot =>
      have below : valueWithin levels { d with filename, modTime } = valueWithin levels d := funext ih
      rw [valueWithin, valueWithin, below]
      rfl
    | _ => rfl

theorem root_with (d : Document) (filename : String) (modTime : Int) :
    ({ d with filename, modTime } : Document).root = d.root :=
  List.map_congr_left fun entry _ => congrArg (Prod.mk entry.1) (valueWithin_with d filename modTime _ entry.2)

theorem WellFormed.with (h : d.WellFormed handed) (filename : String) (modTime : Int) :
    ({ d with filename, modTime } : Document).WellFormed handed := by
  obtain ⟨values, places, forest, uses⟩ := h
  exact ⟨values, places, forest.frame fun _ _ => rfl, ⟨uses.perm, uses.blank⟩⟩

/-! ## Loading -/

/-- The text of a document is read as the entries of its root. -/
theorem parse_toUTF8_print (h : d.WellFormed handed) : parse d.print.toUTF8 = .ok (ofEntries d.root) ∧
    (ofEntries d.root).WellFormed [] ∧ (ofEntries d.root).root = d.root := by
  obtain ⟨values, here, behind, tree, others, uses, -⟩ := h.parts
  have fixed : Value.withEntries [] d.root = d.root := Value.dict.inj (List.cons.inj tree.merged).1
  have read : PropertyList.read d.print.toUTF8 = .ok d.root := by
    rw [PropertyList.read, Text.Utf8.decode_toUTF8]
    exact readText_print d.root
  obtain ⟨wellFormed, root⟩ := wellFormed_ofEntries d.root
  exact ⟨by rw [parse, read]; rfl, wellFormed, root.trans fixed⟩

/-! ## Saving -/

/-- What is there after a document was written to the file at a path. -/
structure Stored (d : Document) (fs fs' : FileSystem) (path : String) (modified : Int) : Prop where
  file : fs'.locate path = .ok (Path.place path, .file d.print.toUTF8
    (((fs.fileAt? (Path.place path)).map FileNode.mode).getD FileSystem.fileMode) modified)
  others : ∀ here, here ≠ Path.place path → fs'.fileAt? here = fs.fileAt? here
  tree : fs'.Tree
  directories : KeepsDirectories fs fs'
  held : fs.read path = .ok d.print.toUTF8 → fs' = fs

theorem holds_iff {octets : ByteArray} : fs.holds path octets = true ↔ fs.read path = .ok octets := by
  rw [FileSystem.holds]
  cases fs.read path with
  | error fault => simp
  | ok found => simp [ByteArray.ext_iff]

theorem read_eq_ok {octets : ByteArray} (read : fs.read path = .ok octets) :
    ∃ mode modified, fs.locate path = .ok (Path.place path, .file octets mode modified) := by
  rw [FileSystem.read] at read
  split at read
  · rename_i place found mode modified located
    obtain rfl := Except.ok.inj read
    obtain rfl := place_of_locate located
    exact ⟨mode, modified, located⟩
  · cases read
  · cases read

/-- A document that was saved is in its file, with the time of the file. -/
theorem stored_of_save (tree : fs.Tree) (plain : IsPlain d.filename) (named : d.filename ≠ "")
    (saved : d.save fs dir = (fs', .ok (e, path))) : path = Path.join dir d.filename ∧
      ∃ modified, e = { d with modTime := modified.tdiv 1000000000 } ∧ d.Stored fs fs' path modified := by
  rw [save] at saved
  dsimp only at saved
  rw [if_neg (by simpa using named)] at saved
  split at saved
  · rename_i held
    obtain ⟨mode, modified, located⟩ := read_eq_ok (holds_iff.1 held)
    rw [modTime_of_locate located] at saved
    obtain ⟨rfl, same⟩ := Prod.mk.inj saved
    obtain ⟨rfl, rfl⟩ := Prod.mk.inj (Except.ok.inj same)
    refine ⟨rfl, modified, rfl, ?_, fun _ _ => rfl, tree, .refl fs, fun _ => rfl⟩
    have here : fs.fileAt? (Path.place (Path.join dir d.filename)) = some (.file d.print.toUTF8 mode modified) := by
      rw [fileAt?, (locate_eq_ok.1 located).2.1]
      rfl
    rw [here]
    exact located
  · rename_i held
    split at saved
    · cases saved
    · rename_i fs₁ made
      split at saved
      · cases saved
      · rename_i fs₂ replaced
        have created := keepsAll_createDirectories tree dir
        rw [made] at created
        obtain ⟨tree₂, kept, others⟩ := replaced_join created.tree plain named replaced
        obtain ⟨-, isName, -⟩ := hasDirectory_of_resolve_join plain named (resolve_of_replaceFile replaced)
        obtain ⟨resolved, free, -⟩ := (replaceFile_join_eq_ok_iff isName).1 replaced
        have mode := savedMode_join isName (resolve_of_replaceFile replaced) free
        rw [created.files] at mode
        obtain ⟨place, modified, located⟩ := locate_replaceFile replaced
        obtain rfl := place_of_locate located
        rw [modTime_of_locate located] at saved
        obtain ⟨rfl, same⟩ := Prod.mk.inj saved
        obtain ⟨rfl, rfl⟩ := Prod.mk.inj (Except.ok.inj same)
        refine ⟨rfl, modified, rfl, mode ▸ located, fun here different => ?_, tree₂, created.directories.trans kept,
          fun read => absurd (holds_iff.2 read) held⟩
        exact (others here different).trans (created.files here)

/-- A document that was not saved leaves all files. -/
theorem keepsAll_of_save (tree : fs.Tree) {fault : Fault} (failed : d.save fs dir = (fs', .error fault)) :
    fs.KeepsAll fs' := by
  have created := keepsAll_createDirectories tree dir
  rw [save] at failed
  dsimp only at failed
  split at failed
  · obtain rfl := (Prod.mk.inj failed).1
    exact .refl tree
  · split at failed
    · obtain rfl := (Prod.mk.inj failed).1
      exact .refl tree
    · split at failed
      · rename_i made
        rw [made] at created
        obtain rfl := (Prod.mk.inj failed).1
        exact created
      · rename_i fs₁ made
        rw [made] at created
        split at failed
        · obtain rfl := (Prod.mk.inj failed).1
          exact created
        · rename_i fs₂ replaced
          obtain ⟨place, modified, located⟩ := locate_replaceFile replaced
          rw [modTime_of_locate located] at failed
          cases failed

/-- The file of a document is loaded as the document. -/
theorem Stored.load {modified : Int} (h : d.Stored fs fs' path modified) (wellFormed : d.WellFormed handed)
    (last : Path.fileName? path = some d.filename) :
    ∃ e, Document.load fs' path = .ok e ∧ e.WellFormed [] ∧ e.root = d.root ∧ e.filename = d.filename ∧
      e.modTime = modified.tdiv 1000000000 := by
  obtain ⟨parsed, again, root⟩ := parse_toUTF8_print wellFormed
  exact ⟨_, load_of_locate h.file parsed last, again.with _ _, (root_with _ _ _).trans root, rfl, rfl⟩

/-- Saving again leaves the file as it is, at whatever time. -/
theorem Stored.save {modified : Int} (h : d.Stored fs fs' (Path.join dir d.filename) modified) (named : d.filename ≠ "")
    (clock : Int) : ({ d with modTime := modified.tdiv 1000000000 } : Document).save { fs' with clock } dir =
      ({ fs' with clock }, .ok ({ d with modTime := modified.tdiv 1000000000 }, Path.join dir d.filename)) := by
  have later : KeepsDirectories fs' { fs' with clock } := fun _ _ modified found => ⟨modified, found⟩
  obtain ⟨resolved, found, wants⟩ := locate_eq_ok.1 h.file
  have located := locate_eq_ok.2 ⟨later.resolve resolved, found, wants⟩
  have held : FileSystem.holds { fs' with clock } (Path.join dir d.filename) d.print.toUTF8 = true :=
    holds_iff.2 (by rw [FileSystem.read, located])
  have same : ({ d with modTime := modified.tdiv 1000000000 } : Document).print = d.print :=
    congrArg PropertyList.print (root_with d d.filename _)
  rw [Document.save]
  dsimp only
  rw [if_neg (by simpa using named), same, if_pos held, modTime_of_locate located]
  rfl

/-! ## Saving in several steps -/

/-- Saving by way of a spare file in the directory. -/
def saveBy (d : Document) (fs : FileSystem) (dir spare : String) : FileSystem × Except Fault (Document × String) :=
  let path := Path.join dir d.filename
  let octets := d.print.toUTF8
  let stamp (fs : FileSystem) : Except Fault (Document × String) :=
    match fs.modTime path with
    | .ok modTime => .ok ({ d with modTime }, path)
    | .error fault => .error (.file fault)
  if d.filename.isEmpty then (fs, .error .missingFilename)
  else if fs.holds path octets then (fs, stamp fs)
  else match fs.createDirectories dir with
    | (fs, .error fault) => (fs, .error (.file fault))
    | (fs, .ok ()) =>
      match fs.replaceBy (Path.join dir spare) path octets with
      | (fs, .error fault) => (fs, .error (.file fault))
      | (fs, .ok ()) => (fs, stamp fs)

/-- Saving by way of a spare file comes to the same as saving in one step, and leaves the same files. -/
theorem saveBy_eq (tree : fs.Tree) (plain : IsPlain d.filename) {spare : String} (isName : IsFileName spare)
    (different : d.filename ≠ spare) (free : (fs.createDirectories dir).1.node? (Path.place dir ++ [spare]) = none) :
    (d.saveBy fs dir spare).2.toOption = (d.save fs dir).2.toOption ∧
      ∀ here, (d.saveBy fs dir spare).1.fileAt? here = (d.save fs dir).1.fileAt? here := by
  have created := keepsAll_createDirectories tree dir
  rw [saveBy, Document.save]
  dsimp only
  split
  · exact ⟨rfl, fun _ => rfl⟩
  · rename_i named
    split
    · exact ⟨rfl, fun _ => rfl⟩
    · generalize fs.createDirectories dir = result at created free
      obtain ⟨fs₁, result⟩ := result
      cases result with
      | error fault => exact ⟨rfl, fun _ => rfl⟩
      | ok _ =>
        obtain ⟨possible, impossible⟩ := replaceBy_join created.tree plain (by simpa using named) isName different free
          d.print.toUTF8
        dsimp only
        cases replaced : fs₁.replaceFile (Path.join dir d.filename) d.print.toUTF8
            (savedMode fs₁ (Path.join dir d.filename)) with
        | ok fs₂ =>
          rw [possible fs₂ replaced]
          exact ⟨rfl, fun _ => rfl⟩
        | error fault =>
          obtain ⟨e, fault', failed, files⟩ := impossible fault replaced
          rw [failed]
          exact ⟨rfl, files⟩

end Document

namespace DocumentTable

theorem set_set (t : DocumentTable) (index : Nat) (first second : Document) :
    (t.set index first).set index second = t.set index second := by
  simp [set]

/-- A document that is saved is in the file of its name, which has the permissions of the file that was there, and no
other file changes. The document notes the time of the file and is otherwise as it was. Loading the file gives a document
with the same content, name and time, a file that holds the text already stays as it is, and saving again changes
nothing. A document that is not saved is as it was, and so are all files. It comes to the same if the file is written
beside the old one and renamed: nothing stays of the spare file. -/
theorem save_stores {t : DocumentTable} {fs : FileSystem} {index : Nat} {handed : List Cell} (tree : fs.Tree)
    (live : index < t.size) (wellFormed : (t.get index).WellFormed handed) (plain : IsPlain (t.get index).filename)
    (named : (t.get index).filename ≠ "") (dir : String) :
    (∀ u fs' path, t.save fs index dir = (u, fs', .ok path) → path = Path.join dir (t.get index).filename ∧
      ∃ modified, (t.get index).Stored fs fs' path modified ∧
        u = t.set index { t.get index with modTime := modified.tdiv 1000000000 } ∧
        (∃ e, Document.load fs' path = .ok e ∧ e.WellFormed [] ∧ e.root = (t.get index).root ∧
          e.filename = (t.get index).filename ∧ e.modTime = modified.tdiv 1000000000) ∧
        ∀ clock, u.save { fs' with clock } index dir = (u, { fs' with clock }, .ok path)) ∧
    (∀ u fs' fault, t.save fs index dir = (u, fs', .error fault) → u = t ∧ fs.KeepsAll fs') ∧
    ∀ spare, IsFileName spare → (t.get index).filename ≠ spare →
      (fs.createDirectories dir).1.node? (Path.place dir ++ [spare]) = none →
      ((t.get index).saveBy fs dir spare).2.toOption = ((t.get index).save fs dir).2.toOption ∧
        ∀ here, ((t.get index).saveBy fs dir spare).1.fileAt? here = ((t.get index).save fs dir).1.fileAt? here := by
  refine ⟨fun u fs' path saved => ?_, fun u fs' fault failed => ?_, fun spare isName different free =>
    Document.saveBy_eq tree plain isName different free⟩
  · rw [save] at saved
    split at saved
    · cases saved
    · rename_i done
      obtain ⟨rfl, rest⟩ := Prod.mk.inj saved
      obtain ⟨rfl, same⟩ := Prod.mk.inj rest
      obtain rfl := Except.ok.inj same
      obtain ⟨rfl, modified, rfl, stored⟩ := Document.stored_of_save tree plain named done
      have isName : IsFileName (t.get index).filename := by
        refine named_of_resolve (locate_eq_ok.1 stored.file).1 _ ?_
        rw [plain.place_join named]
        exact List.mem_append_right _ List.mem_cons_self
      refine ⟨rfl, modified, stored, rfl, stored.load wellFormed (isName.fileName?_join dir), fun clock => ?_⟩
      rw [save, get_set_self t live, stored.save named clock]
      dsimp only
      rw [set_set]
  · rw [save] at failed
    split at failed
    · rename_i undone
      obtain ⟨rfl, rest⟩ := Prod.mk.inj failed
      obtain ⟨rfl, -⟩ := Prod.mk.inj rest
      exact ⟨rfl, Document.keepsAll_of_save tree undone⟩
    · cases failed

/-- A document is saved in a directory that is there, if its file is to be put where nothing is. -/
theorem exists_save_here {d : Document} (fs : FileSystem) (isName : IsFileName d.filename) {node : FileNode}
    (top : fs.node? [] = some node) (directory : node.isDirectory = true) (none_ : fs.node? [d.filename] = none) :
    ∃ e fs', d.save fs "" = (fs', .ok (e, d.filename)) := by
  have resolved : fs.resolve (Path.join "" d.filename) = .ok [d.filename] := by
    rw [isName.join_empty]
    refine resolve_eq_ok.2 ⟨⟨isName.plain, isName.present, isName.relative⟩, ?_⟩
    rw [isName.parts]
    exact follow_name top directory isName
  have place := place_of_resolve resolved
  have free (mode : Nat) (modified : Int) :
      fs.node? (Path.place (Path.join "" d.filename)) ≠ some (.directory mode modified) := by simp [← place, none_]
  have replaced : fs.replaceFile (Path.join "" d.filename) d.print.toUTF8
      (Document.savedMode fs (Path.join "" d.filename)) = .ok _ :=
    (replaceFile_join_eq_ok_iff isName).2 ⟨⟨_, resolved⟩, free, rfl⟩
  obtain ⟨_, modified, located⟩ := locate_replaceFile replaced
  have empty : fs.holds (Path.join "" d.filename) d.print.toUTF8 = false := by
    rw [Bool.eq_false_iff]
    intro held
    obtain ⟨mode, modified, located⟩ := Document.read_eq_ok (Document.holds_iff.1 held)
    rw [← place] at located
    rw [(locate_eq_ok.1 located).2.1] at none_
    cases none_
  have start : fs.createDirectories "" = (fs, .ok ()) := rfl
  rw [Document.save]
  dsimp only
  rw [if_neg (by simpa using isName.present), empty, if_neg Bool.false_ne_true, start]
  dsimp only
  rw [replaced]
  dsimp only
  rw [Document.modTime_of_locate located, isName.join_empty]
  exact ⟨_, _, rfl⟩

theorem tree_empty : ({} : FileSystem).Tree :=
  ⟨⟨_, _, rfl⟩, fun here name there => by simp [FileSystem.node?, Entries.get?] at there⟩

/-- A document with a text, saved where there are no files. -/
theorem save_stores_bare :
    ∃ d u fs', d = { Document.new.setString Document.rootSlot "name" "b" with filename := "a" } ∧
      ({ documents := #[d] } : DocumentTable).save {} 0 "" = (u, fs', .ok "a") ∧
      ∃ e, Document.load fs' "a" = .ok e ∧ e.filename = "a" ∧ e.root = d.root := by
  have run : (Edit.dict (.setString "name" "b")).run? Document.new (.dict Document.rootSlot) =
      some (Document.new.setString Document.rootSlot "name" "b", none) := rfl
  have root : Document.new.follow? (.dict Document.rootSlot) [] = some (.dict Document.rootSlot) := rfl
  have edited := (Document.Reachable.edited .new List.mem_cons_self root run).wellFormed
  obtain ⟨d, same⟩ : ∃ d : Document, d = { Document.new.setString Document.rootSlot "name" "b" with filename := "a" } :=
    ⟨_, rfl⟩
  have wellFormed : d.WellFormed [] := same ▸ edited.with "a" 0
  have name : d.filename = "a" := by rw [same]
  have isName : IsFileName d.filename := name ▸ ⟨by decide, by decide, by decide, by decide, by decide⟩
  obtain ⟨e, fs', saved⟩ := exists_save_here {} isName rfl rfl (by simp [FileSystem.node?, Entries.get?])
  have stored : ({ documents := #[d] } : DocumentTable).save {} 0 "" =
      (({ documents := #[d] } : DocumentTable).set 0 e, fs', .ok d.filename) := by
    rw [save, show ({ documents := #[d] } : DocumentTable).get 0 = d from rfl, saved]
  have live : 0 < ({ documents := #[d] } : DocumentTable).size := Nat.one_pos
  obtain ⟨-, modified, -, -, ⟨read, loaded, -, root, filename, -⟩, -⟩ :=
    (save_stores tree_empty live wellFormed isName.isPlain isName.present "").1 _ _ _ stored
  exact ⟨d, _, fs', same, name ▸ stored, read, name ▸ loaded, filename.trans name, root⟩

end DocumentTable

end EditorBundles.PropertyList
