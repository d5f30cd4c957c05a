import EditorBundles.Proofs.Catalog.Snapshots
import EditorBundles.Proofs.FileSystem.Writing

/-!
# Snapshots over runs of a catalog

Whatever is done to a catalog, the tables that it reaches can be stored: the flags of entries have names, the
documents that they name are there, no dictionary has a key twice, and the names of languages are in order. So a
snapshot of them is read back as the tables that they are.
-/

namespace EditorBundles
set_option autoImplicit false
open PropertyList

namespace Catalog

/-! ## Tables -/

theorem thins_dropDoc (t : DocumentTable) (doc? : Option Nat) : t.Thins (dropDoc t doc?) := by
  cases doc? with
  | none => exact .refl t
  | some doc => exact t.thins_delete doc

/-- Rows that only drop documents when they drop localities. -/
class Thinning (ρ : Type) [Row ρ] : Prop where
  release : ∀ loc (row : ρ) (docs : DocumentTable), docs.Thins (Row.release loc row docs).2

instance : Thinning Entry where
  release _ _ docs := .refl docs

namespace EntryTable

variable {ρ : Type} [Row ρ] [Thinning ρ] {t t' : EntryTable ρ} {docs docs' : DocumentTable} {id doc : Nat} {loc : Locality}

theorem thins_removeRow (t : EntryTable ρ) (id : Nat) (docs : DocumentTable) : docs.Thins (t.removeRow id docs).2 := by
  rw [removeRow]
  cases t.row? id with
  | none => exact .refl docs
  | some row =>
    have named := (thins_dropDoc docs (Row.entry row).factoryDoc).trans (thins_dropDoc _ (Row.entry row).ownDoc)
    have released := named.trans (Thinning.release Locality.all
      (Row.withEntry row { Row.entry row with factoryDoc := none, ownDoc := none }) _)
    dsimp only
    split <;> exact released

theorem thins_drop (t : EntryTable ρ) (id : Nat) (loc : Locality) (docs : DocumentTable) :
    docs.Thins (t.drop id loc docs).2.1 := by
  rw [drop]
  cases t.row? id with
  | none => exact .refl docs
  | some row =>
    have named := DocumentTable.thins_foldl_delete (dropVersions (Row.entry row) loc).2.2 docs
    have released := named.trans (Thinning.release (dropVersions (Row.entry row) loc).2.1
      (Row.withEntry row (dropVersions (Row.entry row) loc).1) _)
    dsimp only
    split
    · exact released
    · exact released.trans (thins_removeRow _ _ _)

theorem thins_dropWhere (p : Entry → DocumentTable → Bool) (loc : Locality) (t : EntryTable ρ) (docs : DocumentTable)
    (ids : List Nat) : docs.Thins (dropWhere p loc t docs ids).2 := by
  induction ids generalizing t docs with
  | nil => exact .refl docs
  | cons id ids ih =>
    rw [dropWhere]
    split
    · exact (t.thins_drop id loc docs).trans (ih _ _)
    · exact ih t docs

omit [Thinning ρ] in
theorem thins_register (t : EntryTable ρ) (id doc : Nat) (loc : Locality) (docs : DocumentTable) :
    docs.Thins (t.register id doc loc docs).2 := by
  rw [register]
  cases t.entryAt? id with
  | none => exact .refl docs
  | some e =>
    dsimp only
    split
    · exact thins_dropDoc docs e.ownDoc
    · split
      · exact docs.thins_delete doc
      · exact thins_dropDoc docs e.factoryDoc

theorem thins_delete {dir : String} {fs fs' : FileSystem} (deleted : t.delete id dir docs fs = .ok (t', docs', fs')) :
    docs.Thins docs' := by
  cases found : t.entryAt? id with
  | none =>
    rw [delete, found] at deleted
    obtain ⟨-, rfl, -⟩ := Except.ok.inj deleted
    exact .refl docs
  | some e =>
    obtain ⟨docs₁, dropped, cases⟩ := delete_cases found deleted
    have thinned : docs.Thins docs₁ := by
      rw [dropped]
      exact thins_dropDoc docs _
    rcases cases with ⟨-, rfl, -⟩ | ⟨-, removed⟩
    · exact thinned
    · have gone := thins_removeRow (t.modifyEntry id fun _ => e.disowned) id docs₁
      rw [← removed] at gone
      exact thinned.trans gone

/-- Whatever is done to a table, no dictionary gets a key twice. -/
theorem keyed_move {N : Prop} {s s' : List Nat × EntryTable ρ × DocumentTable} (h : s.2.2.Keyed) (move : Move N s s') :
    s'.2.2.Keyed := by
  cases move with
  | store _ keyed => exact h.insert keyed
  | insert => exact h
  | register => exact h.thin (thins_register _ _ _ _ _)
  | edit edited _ =>
    obtain ⟨e, -, made⟩ := Option.bind_eq_some_iff.1 edited
    split at made
    · obtain ⟨-, rfl, -⟩ := Option.some.inj made
      exact h
    · obtain ⟨source, -, made⟩ := Option.bind_eq_some_iff.1 made
      split at made
      · obtain ⟨-, rfl, -⟩ := Option.some.inj made
        exact h.copy source
      · cases made
  | drop => exact h.thin (thins_drop _ _ _ _)
  | delete deleted => exact h.thin (thins_delete deleted)
  | restore => exact h
  | mark => exact h

theorem keyed_moves {N : Prop} {s s' : List Nat × EntryTable ρ × DocumentTable} (h : s.2.2.Keyed) (moves : Moves N s s') :
    s'.2.2.Keyed := by
  induction moves with
  | refl => exact h
  | tail _ move ih => exact keyed_move ih move

end EntryTable

theorem Bundle.thins_dropItems (loc : Locality) (items : PerKind (EntryTable Entry)) (docs : DocumentTable)
    (kinds : List ItemKind) : docs.Thins (dropItems loc items docs kinds).2 := by
  induction kinds generalizing items docs with
  | nil => exact .refl docs
  | cons kind kinds ih =>
    rw [dropItems]
    exact (EntryTable.thins_dropWhere _ loc (items.get kind) docs _).trans (ih _ _)

instance : Thinning Bundle where
  release loc b docs := Bundle.thins_dropItems loc b.items docs ItemKind.all

/-! ## Catalogs -/

namespace Database

/-- No dictionary has a key twice, and the names of languages are in order. -/
structure Tidy (db : Database) : Prop where
  docs : db.docs.Keyed
  syntaxes : Ordered db.syntaxes

variable {N : Prop} {db db' : Database} {spare spare' : List Nat}

theorem tidy_empty : Tidy {} := ⟨fun _ => Document.keyed_vacant, List.Pairwise.nil⟩

/-- Every move keeps the tables tidy if what is written to documents is. -/
theorem Tidy.move (h : db.Tidy) (move : Move Document.Keyed N (spare, db) (spare', db')) : db'.Tidy := by
  cases move with
  | themes change => exact ⟨EntryTable.keyed_moves h.docs change.anyMoves, h.syntaxes⟩
  | bundles moves => exact ⟨EntryTable.keyed_moves h.docs moves, h.syntaxes⟩
  | items _ change => exact ⟨EntryTable.keyed_moves h.docs change.anyMoves, h.syntaxes⟩
  | copy => exact ⟨h.docs.copy _, h.syntaxes⟩
  | @write _ _ doc content d written =>
    have keyed : { content with filename := d.filename, modTime := d.modTime : Document }.Keyed := written
    exact ⟨h.docs.set doc keyed, h.syntaxes⟩
  | stamp => exact ⟨h.docs.modify _ fun _ keyed => keyed, h.syntaxes⟩
  | name => exact ⟨h.docs.modify _ fun _ keyed => keyed, h.syntaxes⟩
  | nameManifest => exact ⟨h.docs.modify _ fun _ keyed => keyed, h.syntaxes⟩
  | fill _ _ keyed => exact ⟨h.docs.modify _ keyed, h.syntaxes⟩
  | place => exact ⟨h.docs, h.syntaxes⟩
  | @hide _ _ _ b _ _ _ _ release =>
    have released := Thinning.release { own := true, installed := true } b db.docs
    rw [release] at released
    exact ⟨h.docs.thin (released.trans (thins_dropDoc _ _)), h.syntaxes⟩
  | @uninstall _ _ _ b _ _ _ _ release =>
    have released := Thinning.release { own := true, installed := true } b db.docs
    rw [release] at released
    refine ⟨?_, h.syntaxes⟩
    dsimp only
    split
    · exact h.docs.thin (released.trans (thins_dropDoc _ _))
    · exact h.docs.thin released
  | reveal => exact ⟨h.docs, h.syntaxes⟩
  | associate => exact ⟨h.docs, h.syntaxes.associate _ _⟩

theorem Tidy.moves (h : db.Tidy) (moves : Moves Document.Keyed N (spare, db) (spare', db')) : db'.Tidy := by
  have all {s s' : List Nat × Database} (h : s.2.Tidy) (moves : Moves Document.Keyed N s s') : s'.2.Tidy := by
    induction moves with
    | refl => exact h
    | tail _ move ih => exact ih.move move
  exact all h moves

end Database

/-- Over every run in which no dictionary is written with a key twice, there is none. -/
theorem tidy_of_reachable {allowed : Catalog → Operation → Prop}
    (written : ∀ c doc content, allowed c (.write doc content) → content.Keyed) {c : Catalog} (reached : Reachable allowed c) :
    c.db.Tidy :=
  reached.induct (P := Database.Tidy) Database.tidy_empty (fun c h => h.moves (moves_resume (N := True) [] c (.inl trivial)))
    fun c _ _ h permitted runs => h.moves
      (Operation.moves (N := True) [] (fun doc content same => written c doc content (same ▸ permitted)) (.inl trivial) runs)

/-! ## Snapshots -/

/-- The tables that were written to a file are read back from it. -/
theorem Database.load_of_save {db : Database} (fits : db.Fits) {fs fs' : FileSystem} {dir path : String}
    (saved : db.save fs dir path = (fs', .ok ())) : Database.load fs' path false = (db, fs') := by
  rw [Database.save] at saved
  split at saved
  · cases saved
  · rename_i made _
    split at saved
    · rename_i written
      obtain ⟨rfl, -⟩ := Prod.mk.inj saved
      obtain ⟨there, octets⟩ := FileSystem.read_replaceFile written
      have parsed := Database.parse?_compact fits
      rw [Database.load, there, octets, Except.toOption, Option.bind_some]
      rw [Text.Utf8.fromUTF8?_toUTF8, Option.bind_some, parsed]
      rfl
    · cases saved

/-- The numbers in the documents of a catalog, and those of the documents, are no larger than what is stored. -/
structure Database.Bounded (db : Database) : Prop where
  size : db.docs.size ≤ 0x100000000
  docs : ∀ d ∈ db.docs.documents, d.Fits

/-- Tables that are owned and tidy can be stored. -/
theorem Database.Owns.fits {db : Database} (owns : db.Owns []) (tidy : db.Tidy) (bounded : db.Bounded) : db.Fits := by
  obtain ⟨left, holding⟩ := owns.holding
  have slot {index : Nat} (member : index ∈ db.docs.free ++ (left ++ ([] ++ db.entries.flatMap Entry.held))) : IsSlot index :=
    Nat.lt_of_lt_of_le (List.mem_range.1 (holding.indices.mem_iff.1 member)) bounded.size
  have entry {e : Entry} (member : e ∈ db.entries) : e.Fits := by
    refine ⟨?_, fun doc held => slot ?_⟩
    · rw [Locality.Apart, (owns.backed e member).flags]
      rfl
    · exact List.mem_append_right _ (List.mem_append_right _ (List.mem_flatMap.2 ⟨e, member, held⟩))
  have bundle {b : Bundle} (here : b ∈ db.bundles.rows) {e : Entry} (inside : e ∈ EntryTable.entriesOf b) : e ∈ db.entries :=
    List.mem_append_right _ (List.mem_flatMap.2 ⟨b, here, inside⟩)
  refine ⟨fun e here => ?_, fun b here => ⟨?_, fun kind e item => ?_⟩, ⟨bounded.docs, ?_⟩, tidy.docs.forall_mem, tidy.syntaxes⟩
  · exact entry (List.mem_append_left _ (List.mem_flatMap.2 ⟨e, here, List.mem_cons_self⟩))
  · exact entry (bundle here List.mem_cons_self)
  · refine entry (bundle here (List.mem_cons_of_mem _ ?_))
    refine List.mem_flatMap.2 ⟨kind, ItemKind.mem_all kind, ?_⟩
    exact List.mem_flatMap.2 ⟨e, item, List.mem_cons_self⟩
  · exact fun index free => slot (List.mem_append_left _ free)

/-- Whatever tables a catalog has reached, writing them to a file and reading that back gives the same tables: every
row with its number, its flags and its documents, and every document with its slots, their order and its free stacks. -/
theorem load_save_of_reachable {allowed : Catalog → Operation → Prop}
    (written : ∀ c doc content, allowed c (.write doc content) → content.Keyed) {c : Catalog} (reached : Reachable allowed c)
    (bounded : c.db.Bounded) {fs fs' : FileSystem} {dir path : String} (saved : c.db.save fs dir path = (fs', .ok ())) :
    Database.load fs' path false = (c.db, fs') :=
  Database.load_of_save ((owns_of_reachable reached).fits (tidy_of_reachable written reached) bounded) saved

theorem isFileName_catalog : IsFileName "catalog.json" := ⟨by decide, by decide, by decide, by decide, by decide⟩

/-- Tables are written to a file of the working directory, unless a directory is there. -/
theorem exists_save_here (db : Database) {fs : FileSystem} {node : FileNode} (top : fs.node? [] = some node)
    (directory : node.isDirectory = true)
    (free : ∀ mode modified, fs.node? ["catalog.json"] ≠ some (.directory mode modified)) :
    ∃ fs', db.save fs "" "catalog.json" = (fs', .ok ()) := by
  have resolved : fs.resolve "catalog.json" = .ok ["catalog.json"] := by
    refine FileSystem.resolve_eq_ok.2
      ⟨⟨isFileName_catalog.plain, isFileName_catalog.present, isFileName_catalog.relative⟩, ?_⟩
    rw [isFileName_catalog.parts]
    exact FileSystem.follow_name top directory isFileName_catalog
  have wants : Path.wantsDirectory "catalog.json" = false := by
    rw [← isFileName_catalog.join_empty]
    exact isFileName_catalog.wantsDirectory_join ""
  have replaced (octets : ByteArray) (mode : Nat) : ∃ fs', fs.replaceFile "catalog.json" octets mode = .ok fs' := by
    rw [FileSystem.replaceFile, resolved, wants]
    dsimp only
    rw [if_neg (by simp)]
    split
    · rename_i found
      exact absurd found (free _ _)
    · exact ⟨_, rfl⟩
  have start : fs.createDirectories "" = (fs, .ok ()) := rfl
  obtain ⟨fs', written⟩ := replaced db.toJson.compact.toUTF8 FileSystem.temporaryMode
  rw [Database.save, start]
  dsimp only
  rw [written]
  exact ⟨fs', rfl⟩

/-- Tables are written to a file where there are no files. -/
theorem exists_save_bare (db : Database) : ∃ fs, db.save {} "" "catalog.json" = (fs, .ok ()) :=
  exists_save_here db rfl rfl fun _ _ => nofun

/-- What is written to documents has no key twice. -/
def WritesKeyed (_ : Catalog) (op : Operation) : Prop := ∀ doc content, op = .write doc content → content.Keyed

/-- A bundle of the user's own of two snippets, of which the first is deleted again, and the language of an extension. -/
theorem load_save_of_reachable_deleted :
    ∃ c fs, Reachable WritesKeyed c ∧ c.db.docs.free = [1] ∧ c.db.syntaxes = [("rs", "Rust")] ∧ c.db.Bounded ∧
      c.db.save {} "" "catalog.json" = (fs, .ok ()) ∧ Database.load fs "catalog.json" false = (c.db, fs) := by
  obtain ⟨empty, c, files, opens, bare⟩ := bare_openAt { nth := fun _ => "A" }
  have opened : Reachable WritesKeyed c := .opened empty opens
  obtain ⟨config, db, files, identities, dirty, lastFlush, pending, complete⟩ := c
  obtain ⟨rfl, rfl⟩ := bare
  have withBundle := Reachable.next opened (show WritesKeyed _ (.newBundle "b") from fun _ _ => nofun) rfl
  have withFirst := Reachable.next withBundle (show WritesKeyed _ (.newItem .snippet 0 "s") from fun _ _ => nofun) rfl
  have withSecond := Reachable.next withFirst (show WritesKeyed _ (.newItem .snippet 0 "t") from fun _ _ => nofun) rfl
  have withSyntax := Reachable.next withSecond (show WritesKeyed _ (.setSyntax "rs" "Rust") from fun _ _ => nofun) rfl
  obtain ⟨c, reached, free, syntaxes, u, v, docs⟩ : ∃ c, Reachable WritesKeyed c ∧ c.db.docs.free = [1] ∧
      c.db.syntaxes = [("rs", "Rust")] ∧ ∃ u v, c.db.docs.documents =
        #[{ Document.create "b" u with filename := "info.plist" }, Document.vacant, Document.create "t" v] :=
    ⟨_, .next withSyntax (show WritesKeyed _ (.deleteItem .snippet 0 0) from fun _ _ => nofun) rfl, rfl, rfl, _, _, rfl⟩
  have bounded : c.db.Bounded := by
    constructor
    · rw [DocumentTable.size, docs]
      exact (by decide : 3 ≤ 0x100000000)
    · rw [docs]
      simp only [List.mem_toArray, List.forall_mem_cons]
      exact ⟨Document.fits_create "b" u "info.plist", Document.fits_vacant, Document.fits_create "t" v "", by simp⟩
  obtain ⟨fs, saved⟩ := exists_save_bare c.db
  exact ⟨c, fs, reached, free, syntaxes, bounded, saved,
    load_save_of_reachable (fun _ doc content written => written doc content rfl) reached bounded saved⟩

end Catalog

end EditorBundles
