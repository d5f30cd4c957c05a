import EditorBundles.Proofs.Catalog.Carrying
import EditorBundles.Proofs.Catalog.Localities
import EditorBundles.Proofs.PropertyList.Cells

/-!
# Snapshots read back

What is written down of the tables of a catalog is read back as it was.
-/

namespace EditorBundles.Catalog
set_option autoImplicit false
open PropertyList
open Json (Decoder Decodes FieldsRead)

/-! ## Entries -/

/-- What an entry is made of can be stored: it names documents by numbers that are stored, and no flag is in the place
of another. -/
structure Entry.Fits (e : Entry) : Prop where
  locality : e.locality.Apart
  held : ∀ doc ∈ e.held, IsSlot doc

theorem decodes_optionalSlot {slot? : Option Nat} (fits : ∀ slot ∈ slot?, IsSlot slot) :
    Decodes (Decoder.optional slotDecoder) (optionalSlotToJson slot?) slot? := by
  cases slot? with
  | none => exact Json.decodes_none slotDecoder
  | some slot =>
    refine (decodes_slot (fits slot rfl)).optional ?_
    obtain ⟨c, rest, shape, digit⟩ := Json.exists_toDigits_cons slot
    have text : (Json.compact (slotToJson slot)).toList = c :: rest := by
      simp [slotToJson, Json.compact, Int.repr, shape]
    rw [text]
    rintro ⟨⟩
    cases digit

theorem Entry.decodes {e : Entry} (fits : e.Fits) : Decodes Entry.decoder e.toJson e := by
  have locality : Decodes (Decoder.string.mapFit Locality.parse?) (.string e.locality.print) e.locality :=
    (Json.decodes_string _).mapFit (Locality.parse?_print fits.locality)
  have factory : Decodes (Decoder.optional slotDecoder) (optionalSlotToJson e.factoryDoc) e.factoryDoc := by
    refine decodes_optionalSlot fun doc named => fits.held doc ?_
    rw [Entry.held, Option.mem_def.1 named]
    exact List.mem_cons_self
  have own : Decodes (Decoder.optional slotDecoder) (optionalSlotToJson e.ownDoc) e.ownDoc := by
    refine decodes_optionalSlot fun doc named => fits.held doc ?_
    rw [Entry.held, Option.mem_def.1 named]
    exact List.mem_append_right _ List.mem_cons_self
  refine FieldsRead.decodes_record ?_ (by decide)
  refine .next ((Json.decodes_string e.uuid).field _) ?_
  refine .next ((Json.decodes_string e.name).field _) ?_
  refine .next (locality.field _) ?_
  refine .next ((Json.decodes_bool e.modified).field _) ?_
  refine .next (factory.nullableField _) ?_
  refine .next (own.nullableField _) ?_
  -- the file of a shadowed version is only written where there is one
  obtain ⟨uuid, name, loc, modified, factoryDoc, ownDoc, shadowedFile⟩ := e
  cases shadowedFile with
  | none => exact .rest rfl
  | some file =>
    have shadowed := (Json.decodes_string file).optional (by simp [Json.compact, Json.toList_quote])
    refine .next (shadowed.optionalField _) ?_
    exact .rest rfl

theorem decodes_table {t : EntryTable Entry} (fits : ∀ e ∈ t.rows, e.Fits) :
    Decodes (tableDecoder Entry.decoder) (entriesToJson t) t :=
  (Json.decodes_list fun e member => Entry.decodes (fits e member)).map EntryTable.mk

/-! ## Bundles -/

/-- What a bundle and its items are made of can be stored. -/
structure Bundle.Fits (b : Bundle) : Prop where
  entry : b.entry.Fits
  items : ∀ kind, ∀ e ∈ (b.items.get kind).rows, e.Fits

theorem Bundle.decodes {b : Bundle} (fits : b.Fits) : Decodes Bundle.decoder b.toJson b := by
  have items : Decodes ((Decoder.list (tableDecoder Entry.decoder)).mapFit PerKind.ofList?)
      (.array (b.items.toList.map entriesToJson)) b.items := by
    refine (Json.decodes_list fun table member => ?_).mapFit (PerKind.ofList?_toList b.items)
    obtain ⟨kind, -, rfl⟩ := List.mem_map.1 member
    exact decodes_table (fits.items kind)
  refine FieldsRead.decodes_record ?_ (by decide)
  refine .next ((Entry.decodes fits.entry).field _) ?_
  refine .next ((Json.decodes_string b.dirName).field _) ?_
  refine .next (items.field _) ?_
  exact .rest rfl

/-! ## Names of languages -/

/-- The names of languages are in the strict order of the extensions. -/
def Ordered (syntaxes : List (String × String)) : Prop := syntaxes.Pairwise fun s t => s.1 < t.1

theorem Ordered.nodup_keys {syntaxes : List (String × String)} (h : Ordered syntaxes) : (Entries.keys syntaxes).Nodup := by
  rw [Entries.keys, List.Nodup, List.pairwise_map]
  refine List.Pairwise.imp ?_ h
  intro s t before same
  exact String.lt_irrefl s.1 (same ▸ before)

/-- An extension behind all others goes last. -/
theorem associate_of_lt {ext name : String} {syntaxes : List (String × String)} (last : ∀ s ∈ syntaxes, s.1 < ext) :
    associate ext name syntaxes = syntaxes ++ [(ext, name)] := by
  induction syntaxes with
  | nil => rfl
  | cons s syntaxes ih =>
    have before := last s List.mem_cons_self
    have different : s.1 ≠ ext := fun same => String.lt_irrefl ext (same ▸ before)
    rw [associate, if_neg different, if_neg (String.lt_asymm before),
      ih fun s member => last s (List.mem_cons_of_mem _ member)]
    rfl

theorem foldl_associate (front : List (String × String)) {back : List (String × String)} (ordered : Ordered (front ++ back)) :
    back.foldl (fun sorted p => associate p.1 p.2 sorted) front = front ++ back := by
  induction back generalizing front with
  | nil => exact (List.append_nil front).symm
  | cons s back ih =>
    have last : ∀ t ∈ front, t.1 < s.1 := by
      intro t member
      exact (List.pairwise_append.1 ordered).2.2 t member s List.mem_cons_self
    rw [List.append_cons] at ordered ⊢
    rw [List.foldl_cons, associate_of_lt last]
    exact ih _ ordered

theorem mem_keys_associate {ext name key : String} {syntaxes : List (String × String)}
    (member : key ∈ Entries.keys (associate ext name syntaxes)) : key = ext ∨ key ∈ Entries.keys syntaxes := by
  induction syntaxes with
  | nil => exact .inl (List.mem_singleton.1 member)
  | cons s syntaxes ih =>
    rw [associate] at member
    split at member
    · rcases List.mem_cons.1 member with same | behind
      · exact .inl same
      · exact .inr (List.mem_cons_of_mem _ behind)
    · split at member
      · rcases List.mem_cons.1 member with same | behind
        · exact .inl same
        · exact .inr behind
      · rcases List.mem_cons.1 member with same | behind
        · exact .inr (same ▸ List.mem_cons_self)
        · exact (ih behind).imp_right (List.mem_cons_of_mem _)

/-- The names of languages stay in order. -/
theorem Ordered.associate {syntaxes : List (String × String)} (h : Ordered syntaxes) (ext name : String) :
    Ordered (associate ext name syntaxes) := by
  induction syntaxes with
  | nil => exact List.pairwise_singleton _ _
  | cons s syntaxes ih =>
    obtain ⟨first, behind⟩ := List.pairwise_cons.1 h
    rw [Catalog.associate]
    split
    · rename_i same
      exact List.pairwise_cons.2 ⟨fun t member => same ▸ first t member, behind⟩
    · rename_i different
      split
      · rename_i before
        refine List.pairwise_cons.2 ⟨fun t member => ?_, h⟩
        rcases List.mem_cons.1 member with rfl | member
        · exact before
        · exact String.lt_trans before (first t member)
      · rename_i after
        refine List.pairwise_cons.2 ⟨fun t member => ?_, ih behind⟩
        rcases mem_keys_associate (List.mem_map_of_mem member) with same | known
        · rw [same]
          by_contra not_before
          exact different (String.le_antisymm (String.not_lt.1 after) (String.not_lt.1 not_before))
        · obtain ⟨u, inside, same⟩ := List.mem_map.1 known
          exact same ▸ first u inside

/-! ## Catalogs -/

/-- What the tables of a catalog are made of can be stored. -/
structure Database.Fits (db : Database) : Prop where
  themes : ∀ e ∈ db.themes.rows, e.Fits
  bundles : ∀ b ∈ db.bundles.rows, b.Fits
  docs : db.docs.Fits
  keyed : ∀ d ∈ db.docs.documents, d.Keyed
  syntaxes : Ordered db.syntaxes

/-- The tables are read back with their version. -/
theorem Database.decodes {db : Database} (fits : db.Fits) : Decodes Database.decoder db.toJson (snapshotVersion, db) := by
  have bundles : Decodes (tableDecoder Bundle.decoder) (.array (db.bundles.rows.map Bundle.toJson)) db.bundles :=
    (Json.decodes_list fun b member => Bundle.decodes (fits.bundles b member)).map EntryTable.mk
  have syntaxes : Decodes (Decoder.entries Decoder.string) (.object (db.syntaxes.map fun s => (s.1, .string s.2))) db.syntaxes :=
    Json.decodes_entries fits.syntaxes.nodup_keys fun s _ => Json.decodes_string s.2
  have sorted := foldl_associate [] fits.syntaxes
  refine FieldsRead.decodes_record ?_ (by decide)
  refine .next ((Json.decodes_natural (by decide) (by decide : snapshotVersion < 0x100000000)).field _) ?_
  refine .next ((decodes_table fits.themes).field _) ?_
  refine .next (bundles.field _) ?_
  refine .next ((DocumentTable.decodes fits.docs fits.keyed).field _) ?_
  refine .next (syntaxes.field _) ?_
  refine .rest ?_
  rw [sorted]
  rfl

/-- A text of the tables gives the tables. -/
theorem Database.parse?_compact {db : Database} (fits : db.Fits) : Database.parse? db.toJson.compact = some db := by
  rw [Database.parse?, (Database.decodes fits).run]
  rfl

end EditorBundles.Catalog
