import EditorBundles.Proofs.Catalog.BundleAddresses
import EditorBundles.Proofs.Catalog.ShippedFiles

/-!
# Addresses of items

The address of an item names the directory of its bundle, its kind and its file, and is read back as that if the name of the
file has no line feed. It leads to the first item that has the address.
-/

namespace EditorBundles.Catalog
set_option autoImplicit false
open PropertyList
open EditorBundles.Path (IsPlain)

namespace ItemAddress

variable {a : ItemAddress} {head tail cs : List Char}

theorem segment?_append (present : head ≠ []) (single : '/' ∉ head) (tail : List Char) :
    segment? (head ++ '/' :: tail) = some (head, tail) := by
  have inside : ∀ c ∈ head, (decide (c ≠ '/')) = true := fun c member => by
    simpa using fun same : c = '/' => single (same ▸ member)
  obtain ⟨c, head, rfl⟩ := List.exists_cons_of_ne_nil present
  rw [segment?, List.takeWhile_append_of_pos inside, List.dropWhile_append_of_pos inside]
  simp

theorem segment?_eq_some (split : segment? cs = some (head, tail)) :
    cs = head ++ '/' :: tail ∧ head ≠ [] ∧ '/' ∉ head := by
  rw [segment?] at split
  split at split
  · rename_i c front d behind taken left
    obtain ⟨rfl, rfl⟩ := Prod.mk.inj (Option.some.inj split)
    have whole := List.takeWhile_append_dropWhile (p := fun c => decide (c ≠ '/')) (l := cs)
    rw [taken, left] at whole
    have slash : d = '/' := by
      have stops := List.head?_dropWhile_not (fun c => decide (c ≠ '/')) cs
      rw [left] at stops
      simpa using stops
    refine ⟨slash ▸ whole.symm, List.cons_ne_nil _ _, fun member => ?_⟩
    have inside := List.mem_takeWhile_imp (taken ▸ member)
    simp at inside
  · cases split

theorem toList_print (a : ItemAddress) :
    a.print.toList = scheme ++ (a.bundleDir.toList ++ '/' :: (a.kind.dirName.toList ++ '/' :: a.filename.toList)) := by
  have parts (start dir kind file : String) : (start ++ dir ++ "/" ++ kind ++ "/" ++ file).toList =
      start.toList ++ (dir.toList ++ '/' :: (kind.toList ++ '/' :: file.toList)) := by
    have slash : "/".toList = ['/'] := rfl
    simp only [String.toList_append, slash, List.append_assoc, List.cons_append, List.nil_append]
  exact parts _ _ _ _

/-- What an address writes is read back if it names a directory and a file, the directory has no slash, and the file no line
feed. -/
theorem parse?_print (single : '/' ∉ a.bundleDir.toList) (directory : a.bundleDir ≠ "") (file : a.filename ≠ "") :
    parse? a.print = if '\n' ∈ a.filename.toList then none else some a := by
  have bundle := segment?_append (mt String.toList_eq_nil_iff.1 directory) single
    (a.kind.dirName.toList ++ '/' :: a.filename.toList)
  have kind : segment? (a.kind.dirName.toList ++ '/' :: a.filename.toList) =
      some (a.kind.dirName.toList, a.filename.toList) :=
    segment?_append (by cases a.kind <;> decide) (by cases a.kind <;> decide) _
  have scheme_leads : scheme.isPrefixOf (scheme ++
      (a.bundleDir.toList ++ '/' :: (a.kind.dirName.toList ++ '/' :: a.filename.toList))) = true :=
    List.isPrefixOf_iff_prefix.2 (List.prefix_append _ _)
  rw [parse?, toList_print]
  simp only [scheme_leads, if_true, List.drop_left, bundle, kind, Option.bind_eq_bind, Option.bind_some,
    String.ofList_toList, ItemKind.ofDirName?_dirName, String.toList_eq_nil_iff, file, false_or]
  rfl

/-- What is read as an address is what the address writes. -/
theorem print_of_parse? {text : String} (parsed : parse? text = some a) : a.print = text := by
  rw [parse?] at parsed
  dsimp only at parsed
  split at parsed
  · rename_i starts
    obtain ⟨⟨bundleDir, rest⟩, bundle, parsed⟩ := Option.bind_eq_some_iff.1 parsed
    obtain ⟨⟨dir, filename⟩, inside, parsed⟩ := Option.bind_eq_some_iff.1 parsed
    obtain ⟨kind, known, parsed⟩ := Option.bind_eq_some_iff.1 parsed
    dsimp only at inside known parsed
    split at parsed
    · cases parsed
    · obtain rfl := Option.some.inj parsed
      obtain ⟨behind, text_eq⟩ := List.isPrefixOf_iff_prefix.1 starts
      rw [← text_eq, List.drop_left] at bundle
      obtain ⟨rfl, -, -⟩ := segment?_eq_some bundle
      obtain ⟨rfl, -, -⟩ := segment?_eq_some inside
      have named : kind.dirName = String.ofList dir := by simpa using List.find?_some known
      rw [← String.toList_inj, toList_print, ← text_eq]
      simp [named]
  · cases parsed

end ItemAddress

variable {c : Catalog} {kind : ItemKind} {b i : Nat} {a : ItemAddress} {text : String}

/-! ## Searching -/

/-- A search gives the first index where something is that meets the condition. -/
theorem findIdx?_eq_some_iff_getElem? {α : Type} {l : List α} {p : α → Bool} : l.findIdx? p = some i ↔
    (∃ x, l[i]? = some x ∧ p x = true) ∧ ∀ other x, other < i → l[other]? = some x → p x = false := by
  rw [List.findIdx?_eq_some_iff_getElem]
  constructor
  · rintro ⟨bound, here, before⟩
    refine ⟨⟨_, List.getElem?_eq_getElem bound, here⟩, fun other x earlier found => ?_⟩
    obtain ⟨_, rfl⟩ := List.getElem?_eq_some_iff.1 found
    exact Bool.not_eq_true _ ▸ before other earlier
  · rintro ⟨⟨x, found, here⟩, before⟩
    obtain ⟨bound, rfl⟩ := List.getElem?_eq_some_iff.1 found
    refine ⟨bound, here, fun other earlier => ?_⟩
    rw [before other _ earlier (List.getElem?_eq_getElem (earlier.trans bound))]
    exact Bool.false_ne_true

/-- The address of an item: the directory of its bundle, its kind, and the file of its version in effect. -/
theorem itemAddress?_eq_some : c.itemAddress? kind b i = some (some a) ↔ ∃ row e doc, c.db.bundles.row? b = some row ∧
    (row.items.get kind).entryAt? i = some e ∧ e.resolve = some doc ∧
      a = ⟨row.dirName, kind, (c.db.docs.get doc).filename⟩ := by
  constructor
  · intro addressed
    obtain ⟨row, found, addressed⟩ := Option.bind_eq_some_iff.1 addressed
    obtain ⟨e, item, addressed⟩ := Option.bind_eq_some_iff.1 addressed
    obtain ⟨doc, shown, rfl⟩ := Option.map_eq_some_iff.1 (Option.some.inj addressed)
    rw [item?, itemTable?, found] at item
    exact ⟨row, e, doc, found, item, shown, rfl⟩
  · rintro ⟨row, e, doc, found, item, shown, rfl⟩
    have there : c.item? kind b i = some e := by
      rw [item?, itemTable?, found]
      exact item
    rw [itemAddress?, found]
    simp [there, shown]

/-- A bundle is there, and none before it is in the directory of an address; of the items of the kind in it, none before
has the address. -/
structure Foremost (c : Catalog) (kind : ItemKind) (b i : Nat) (a : ItemAddress) : Prop where
  there : ∀ row, c.db.bundles.row? b = some row → row.entry.isTombstone = false
  bundles : ∀ other row, other < b → c.db.bundles.row? other = some row → row.entry.isTombstone = false →
    row.dirName ≠ a.bundleDir
  items : ∀ other, other < i → c.itemAddress? kind b other ≠ some (some a)

theorem findDir?_eq_some {dirName : String} : c.findDir? dirName = some b ↔
    (∃ row, c.db.bundles.row? b = some row ∧ row.entry.isTombstone = false ∧ row.dirName = dirName) ∧
      ∀ other row, other < b → c.db.bundles.row? other = some row → row.entry.isTombstone = false →
        row.dirName ≠ dirName := by
  rw [findDir?, findIdx?_eq_some_iff_getElem?]
  simp only [Bool.and_eq_true, Bool.not_eq_true', decide_eq_true_eq, Bool.and_eq_false_imp, decide_eq_false_iff_not]
  rfl

/-- In a bundle that has the directory of an address, an item has the address just if its file does. -/
theorem itemAddress?_iff_filename {row : Bundle} (found : c.db.bundles.row? b = some row)
    (same : row.dirName = a.bundleDir) :
    c.itemAddress? a.kind b i = some (some a) ↔ ∃ e, (row.items.get a.kind).rows[i]? = some e ∧
      e.resolve.any (fun doc => (c.db.docs.get doc).filename = a.filename) = true := by
  rw [itemAddress?_eq_some]
  constructor
  · rintro ⟨row', e, doc, found', item, shown, address⟩
    obtain rfl := Option.some.inj (found.symm.trans found')
    obtain ⟨e, there, rfl⟩ := EntryTable.row?_of_entryAt? item
    exact ⟨e, there, by rw [show e.resolve = some doc from shown, address]; simp⟩
  · rintro ⟨e, there, here⟩
    cases shown : e.resolve with
    | none => simp [shown] at here
    | some doc =>
      rw [shown, Option.any_some, decide_eq_true_eq] at here
      exact ⟨row, e, doc, found, by rw [EntryTable.entryAt?, EntryTable.row?, there]; rfl, shown, by rw [same, here]⟩

/-- The search through the items of such a bundle gives the first of them that has the address. -/
theorem findEntry?_eq_some_iff_itemAddress? {row : Bundle} (found : c.db.bundles.row? b = some row)
    (same : row.dirName = a.bundleDir) :
    EntryTable.findEntry? (row.items.get a.kind)
        (fun e => e.resolve.any fun doc => (c.db.docs.get doc).filename = a.filename) = some i ↔
      c.itemAddress? a.kind b i = some (some a) ∧
        ∀ other, other < i → c.itemAddress? a.kind b other ≠ some (some a) := by
  rw [ EntryTable.findEntry?, findIdx?_eq_some_iff_getElem?, itemAddress?_iff_filename found same]
  refine and_congr_right fun _ => forall_congr' fun other => ?_
  rw [ne_eq, itemAddress?_iff_filename found same]
  simp only [not_exists, not_and, Bool.not_eq_true]
  exact ⟨fun before earlier x => before x earlier, fun before x earlier => before earlier x⟩

/-- An address leads to an item just if it is the address of the item, and of none before it. -/
theorem findAddress?_eq_some : c.findAddress? a = some (kind, b, i) ↔
    c.itemAddress? kind b i = some (some a) ∧ c.Foremost kind b i a := by
  constructor
  · intro leads
    obtain ⟨b', bundle, leads⟩ := Option.bind_eq_some_iff.1 leads
    obtain ⟨table, listed, leads⟩ := Option.bind_eq_some_iff.1 leads
    obtain ⟨i', first, leads⟩ := Option.bind_eq_some_iff.1 leads
    obtain ⟨rfl, rfl, rfl⟩ : a.kind = kind ∧ b' = b ∧ i' = i := by simpa using leads
    obtain ⟨⟨row, found, live, same⟩, earlier⟩ := findDir?_eq_some.1 bundle
    rw [itemTable?, found] at listed
    obtain rfl := Option.some.inj listed
    obtain ⟨addressed, before⟩ := (findEntry?_eq_some_iff_itemAddress? found same).1 first
    refine ⟨addressed, fun row' found' => ?_, earlier, before⟩
    obtain rfl := Option.some.inj (found.symm.trans found')
    exact live
  · rintro ⟨addressed, foremost⟩
    obtain ⟨row, e, doc, found, item, shown, address⟩ := itemAddress?_eq_some.1 addressed
    obtain rfl : a.kind = kind := by rw [address]
    have same : row.dirName = a.bundleDir := by rw [address]
    have bundle := findDir?_eq_some.2 ⟨⟨row, found, foremost.there row found, same⟩, foremost.bundles⟩
    have first := (findEntry?_eq_some_iff_itemAddress? found same).2 ⟨addressed, foremost.items⟩
    rw [findAddress?, bundle]
    simp only [Option.bind_eq_bind, Option.bind_some, itemTable?, found, Option.map_some]
    rw [first]
    rfl

/-! ## Runs -/

theorem Grounded.reachable (h : Grounded c) : Reachable (fun _ _ => True) c := by
  induction h with
  | opened _ empty opens => exact .opened empty opens
  | reopened _ _ same opens ih => exact .reopened ih same opens
  | next _ _ runs ih => exact ih.next trivial runs

/-- A version is in effect where the flags say so. -/
theorem Entry.Backed.exists_resolve {e : Entry} (backed : e.Backed) (visible : e.isVisible = true) :
    ∃ doc, e.resolve = some doc := by
  simp only [Entry.isVisible, Locality.hasSource, Bool.and_eq_true, Bool.or_eq_true, Bool.not_eq_true'] at visible
  obtain ⟨source, shown⟩ := visible
  rw [Entry.resolve, shown, if_neg Bool.false_ne_true]
  cases own : e.locality.own with
  | true => exact Option.isSome_iff_exists.1 (backed.own own)
  | false =>
    have factory : e.locality.isFactory = true := by simpa [Locality.isFactory, own] using source
    rw [if_neg Bool.false_ne_true, if_pos factory]
    exact Option.isSome_iff_exists.1 (backed.factory factory)

theorem Entry.isVisible_of_resolve {e : Entry} {doc : Nat} (shown : e.resolve = some doc) : e.isVisible = true := by
  cases hidden : e.locality.isHidden with
  | true =>
    rw [e.resolve_eq_none_of_isHidden hidden] at shown
    cases shown
  | false =>
    rw [Entry.resolve, hidden, if_neg Bool.false_ne_true] at shown
    rw [Entry.isVisible, hidden, Bool.not_false, Bool.and_true]
    cases own : e.locality.own with
    | true => simp [Locality.hasSource, own]
    | false =>
      rw [own, if_neg Bool.false_ne_true] at shown
      cases factory : e.locality.isFactory with
      | true => simpa [Locality.hasSource, Locality.isFactory, own] using factory
      | false =>
        rw [factory] at shown
        cases shown

/-- What has an address is listed. -/
theorem mem_listItems? (addressed : c.itemAddress? kind b i = some (some a)) :
    ∃ ids, c.listItems? kind b = some ids ∧ i ∈ ids := by
  obtain ⟨row, e, doc, found, item, shown, -⟩ := itemAddress?_eq_some.1 addressed
  refine ⟨_, by rw [listItems?, itemTable?, found]; rfl, ?_⟩
  exact (EntryTable.mem_visible_iff item).2 (Entry.isVisible_of_resolve shown)

/-- Where directories are apart, only items of its own bundle can come before an item that has an address. -/
theorem EntryTable.Placed.foremost_iff (h : c.db.bundles.Placed) (addressed : c.itemAddress? kind b i = some (some a))
    (directory : a.bundleDir ≠ "") :
    c.Foremost kind b i a ↔ ∀ other, other < i → c.itemAddress? kind b other ≠ some (some a) := by
  obtain ⟨row, e, doc, found, -, -, rfl⟩ := itemAddress?_eq_some.1 addressed
  refine ⟨Foremost.items, fun items => ⟨fun row' found' => ?_, fun other row' earlier found' _ same => ?_, items⟩⟩
  · obtain rfl := Option.some.inj (found.symm.trans found')
    cases gone : row.entry.isTombstone with
    | false => rfl
    | true => exact absurd (h.gone b row found gone).1 directory
  · exact absurd (h.apart b other row row' found found' directory same) (Nat.ne_of_lt earlier)

/-- An item that is listed has an address, and a text that leads to an item is what the address of the item writes. The address
of an item with a directory and a file leads back to it just if there is no line feed in the name of the file, and no bundle
that has the same directory and no item of its bundle that has the same file comes first. Of these there is no bundle in runs
that save none under the name of another one's directory. -/
theorem findAddress?_of_grounded (reached : Grounded c) :
    (∀ kind b ids i, c.listItems? kind b = some ids → i ∈ ids → ∃ a, c.itemAddress? kind b i = some (some a) ∧
      (a.bundleDir ≠ "" → a.filename ≠ "" → ((ItemAddress.parse? a.print).bind c.findAddress? = some (kind, b, i) ↔
        '\n' ∉ a.filename.toList ∧ c.Foremost kind b i a) ∧
        (Reachable Unplaced c → (c.Foremost kind b i a ↔
          ∀ other, other < i → c.itemAddress? kind b other ≠ some (some a))))) ∧
    ∀ text kind b i, (ItemAddress.parse? text).bind c.findAddress? = some (kind, b, i) →
      ∃ a, c.itemAddress? kind b i = some (some a) ∧ a.print = text := by
  constructor
  · intro kind b ids i listed member
    obtain ⟨table, inside, rfl⟩ := Option.map_eq_some_iff.1 listed
    obtain ⟨row, found, rfl⟩ := Option.map_eq_some_iff.1 inside
    obtain ⟨-, visible⟩ := List.mem_filter.1 member
    cases item : (row.items.get kind).entryAt? i with
    | none =>
      rw [item] at visible
      cases visible
    | some e =>
      rw [item, Option.any_some] at visible
      have located : c.db.entryOf? (.item kind b i) = some e := Option.bind_eq_some_iff.2 ⟨row, found, item⟩
      obtain ⟨rest, among, -⟩ := Database.entries_putEntry located
      have backed := (owns_of_reachable reached.reachable).backed e (among.mem_iff.2 List.mem_cons_self)
      obtain ⟨doc, shown⟩ := backed.exists_resolve visible
      have addressed := itemAddress?_eq_some.2 ⟨row, e, doc, found, item, shown, rfl⟩
      refine ⟨_, addressed, fun directory file => ⟨?_, fun unplaced =>
        (placed_of_reachable unplaced).foremost_iff addressed directory⟩⟩
      have single := (reached.regular_plain.2.dirs b row found).single
      rw [ItemAddress.parse?_print single directory file]
      split
      · rename_i feed
        simp [feed]
      · rename_i plain
        rw [Option.bind_some, findAddress?_eq_some]
        exact ⟨fun leads => ⟨plain, leads.2⟩, fun first => ⟨addressed, first.2⟩⟩
  · intro text kind b i leads
    obtain ⟨a, parsed, leads⟩ := Option.bind_eq_some_iff.1 leads
    exact ⟨a, (findAddress?_eq_some.1 leads).1, ItemAddress.print_of_parse? parsed⟩

/-! ## Saved items -/

/-- Writing a document to its file leaves the names of all files alone. -/
theorem filename_saveDoc (c : Catalog) (doc : Nat) (dir : String) (other : Nat) :
    ((c.saveDoc doc dir).1.db.docs.get other).filename = (c.db.docs.get other).filename := by
  cases saved : (c.db.docs.get doc).save c.files dir with
  | mk files result =>
    rw [saveDoc, DocumentTable.save, saved]
    cases result with
    | error fault => rfl
    | ok result =>
      obtain ⟨modTime, same⟩ := Document.exists_modTime_of_save saved
      exact DocumentTable.filename_set (by rw [same]) other

/-- Whatever comes of it, an item that is saved in a bundle with a directory has an address from then on. -/
theorem exists_saveItem? {row : Bundle} {e : Entry} {own : Nat} {d : Document} (found : c.db.bundles.row? b = some row)
    (placed : row.dirName ≠ "") (item : (row.items.get kind).entryAt? i = some e) (named : savable? e = some own)
    (shown : e.resolve = some own) (live : c.liveDoc? own = some d) (unnamed : d.filename = "") :
    ∃ c' result, c.saveItem? kind b i = some (c', result) ∧
      c'.itemAddress? kind b i = some (some ⟨row.dirName, kind,
        freeName c.files (c.ownItemDir kind row.dirName) ((d.rootString? "name").getD "") kind.extension⟩) ∧
      ∃ row', c'.db.bundles.row? b = some row' ∧ row'.entry = row.entry := by
  obtain ⟨there, rfl⟩ := liveDoc?_eq_some.1 live
  have located : c.item? kind b i = some e := by
    rw [item?, itemTable?, found]
    exact item
  have dirName : c.bundleDirName? b = some row.dirName := by rw [bundleDirName?, found]; rfl
  rw [saveItem?, found]
  simp only [Option.bind_eq_bind, Option.bind_some, located, named, String.isEmpty_iff, placed, if_false, Option.pure_def,
    dirName, live]
  generalize freeName c.files (c.ownItemDir kind row.dirName) = choose
  generalize c.ownItemDir kind row.dirName = dir
  have bound : own < c.db.docs.size := by
    rw [DocumentTable.isLive, Bool.and_eq_true, decide_eq_true_eq] at there
    exact there.1
  have given : ((c.nameDoc own fun name => choose name kind.extension).db.docs.get own).filename =
      choose (((c.db.docs.get own).rootString? "name").getD "") kind.extension := by
    rw [nameDoc, if_pos (String.isEmpty_iff.2 unnamed), withDocs, DocumentTable.get_set_self _ bound]
  have file := (filename_saveDoc (c.nameDoc own fun name => choose name kind.extension) own dir own).trans given
  have bundles := (bundles_saveDoc (c.nameDoc own fun name => choose name kind.extension) own dir).trans
    (bundles_nameDoc c own _)
  generalize (c.nameDoc own fun name => choose name kind.extension).saveDoc own dir = ending at file bundles
  obtain ⟨c₁, result⟩ := ending
  have place : c₁.db.bundles.row? b = some row := (congrArg (·.row? b) bundles).trans found
  cases result with
  | error fault =>
    exact ⟨c₁, _, rfl, itemAddress?_eq_some.2 ⟨row, e, own, place, item, shown, by rw [← file]⟩, row, place, rfl⟩
  | ok _ =>
    have unmarked : ((c₁.modifyItem kind b i fun e => { e with modified := false }).markDirty).db.bundles.row? b =
        some { row with
          items := row.items.set kind ((row.items.get kind).modifyEntry i fun e => { e with modified := false }) } := by
      show (modifyItem c₁ kind b i fun e => { e with modified := false }).db.bundles.row? b = _
      rw [modifyItem, modifyBundle, withDb, EntryTable.modify_eq place,
        EntryTable.row?_setRow_self (EntryTable.lt_of_row? place)]
    refine ⟨_, _, rfl, itemAddress?_eq_some.2 ⟨_, { e with modified := false }, own, unmarked, ?_, shown, ?_⟩,
      _, unmarked, rfl⟩
    · rw [PerKind.get_set_self, EntryTable.entryAt?_modifyEntry_self, item]
      rfl
    · exact congrArg (ItemAddress.mk row.dirName kind) file.symm

theorem regular_empty : ({} : FileSystem).Regular := ⟨by decide, by simp [Entries.keys]⟩

/-- An operation of the catalog goes on from one that is reached. -/
theorem Grounded.step {c' : Catalog} (reached : Grounded c) (op : Operation) (internal : ∀ files, op ≠ .changeFiles files)
    (runs : op.run? c = some c') : Grounded c' :=
  reached.next (fun files same => absurd same (internal files)) runs

/-- A bundle is made and saved where nothing hinders that, and the files are taken away, so that any name is free. -/
theorem exists_bundle : ∃ c row, Grounded c ∧ c.files = {} ∧ c.db.bundles.row? 0 = some row ∧ row.dirName = "A.tmbundle" ∧
    row.items.get .snippet = {} ∧ row.entry.isTombstone = false := by
  obtain ⟨empty, c, files, opens, bare⟩ := bare_openAt { nth := fun _ => "U" }
  have opened : Grounded c := .opened regular_empty empty opens
  obtain ⟨b, d, made, place, unplaced, noItems, owned, named, live, title⟩ : ∃ b d,
      Operation.run? c (.newBundle "A") = some (c.newBundle "A").1 ∧ (c.newBundle "A").1.db.bundles.row? 0 = some b ∧
      b.dirName = "" ∧ b.items.get .snippet = {} ∧ b.entry.locality = { own := true } ∧ savable? b.entry = some 0 ∧
      (c.newBundle "A").1.liveDoc? 0 = some d ∧ d.rootString? "name" = some "A" := by
    obtain ⟨config, db, files, identities, dirty, lastFlush, pending, complete⟩ := c
    obtain ⟨rfl, rfl⟩ := bare
    exact ⟨_, _, rfl, rfl, rfl, rfl, rfl, rfl, rfl, rfl⟩
  have none_ : (c.newBundle "A").1.files = {} := bare.files
  have first : Grounded (c.newBundle "A").1 := opened.step (.newBundle "A") (fun _ => Operation.noConfusion) made
  generalize (c.newBundle "A").1 = c₁ at first place live none_
  obtain ⟨c₂, result, b₂, save, place₂, directory, kept, -⟩ := exists_saveBundle? place named live
  obtain ⟨row, found, items⟩ := items_saveBundle? place save
  obtain rfl := Option.some.inj (found.symm.trans place₂)
  have second : Grounded c₂ :=
    first.step (.saveBundle 0) (fun _ => Operation.noConfusion) (congrArg (Option.map Prod.fst) save)
  have third : Grounded { c₂ with files := {} } :=
    .next second (fun files same => (Operation.changeFiles.inj same) ▸ regular_empty) rfl
  refine ⟨_, row, third, rfl, place₂, ?_, (congrArg (PerKind.get · .snippet) items).trans noItems, ?_⟩
  · rw [directory, unplaced, title, none_]
    exact freeName_bare _ _ isExtension_bundle
  · show row.entry.locality.deleted = false
    rw [kept, owned]

/-- A new snippet in a bundle that has none is its first, and has a document of its own without a file name. -/
theorem exists_newItem? (reached : Grounded c) {row : Bundle} (found : c.db.bundles.row? 0 = some row)
    (noItems : row.items.get .snippet = {}) (name : String) : ∃ c' row' e own d, c.newItem? .snippet 0 name = some (c', 0) ∧
    c'.db.bundles.row? 0 = some row' ∧ row'.dirName = row.dirName ∧ row'.entry = row.entry ∧ c'.files = c.files ∧
    (row'.items.get .snippet).entryAt? 0 = some e ∧ savable? e = some own ∧ e.resolve = some own ∧
    c'.liveDoc? own = some d ∧ d.filename = "" ∧ d.rootString? "name" = some name := by
  obtain ⟨left, holding⟩ := (owns_of_reachable reached.reachable).holding
  obtain ⟨uuid, d, new, stored, unnamed, title⟩ : ∃ uuid d, c.createDoc name none =
      ({ c.withDocs (c.db.docs.insert d).1 with identities := uuid }, (c.db.docs.insert d).2) ∧ d.isVacant = false ∧
      d.filename = "" ∧ d.rootString? "name" = some name :=
    ⟨_, { Document.create name c.identities.draw.1 with filename := "" }, rfl, rfl, rfl, rfl⟩
  have read := DocumentTable.get_insert holding d
  have live := (c.db.docs.trades_insert stored _ holding).1.mem_iff.1 List.mem_cons_self
  have listed : c.itemTable? .snippet 0 = some {} := by rw [itemTable?, found, Option.map_some, noItems]
  have there : ({ c.withDocs (c.db.docs.insert d).1 with identities := uuid } : Catalog).db.bundles.row? 0 =
      some row := found
  obtain ⟨c', e, made, found', item, files, docs, named, shown⟩ : ∃ c' e, c.newItem? .snippet 0 name = some (c', 0) ∧
      c'.db.bundles.row? 0 = some { row with items := row.items.set .snippet ⟨[e]⟩ } ∧
      (⟨[e]⟩ : EntryTable Entry).entryAt? 0 = some e ∧ c'.files = c.files ∧ c'.db.docs = (c.db.docs.insert d).1 ∧
      savable? e = some (c.db.docs.insert d).2 ∧ e.resolve = some (c.db.docs.insert d).2 := by
    rw [newItem?, listed]
    simp only [Option.bind_eq_bind, Option.bind_some, new]
    refine ⟨_,
      (Entry.new { own := true } (c.db.docs.insert d).2).identify ((c.db.docs.insert d).1.get (c.db.docs.insert d).2),
      rfl, ?_, rfl, rfl, rfl, rfl, rfl⟩
    show (withItems { c.withDocs (c.db.docs.insert d).1 with identities := uuid } .snippet 0 _).db.bundles.row? 0 = _
    rw [withItems, modifyBundle, withDb, EntryTable.modify_eq there,
      EntryTable.row?_setRow_self (EntryTable.lt_of_row? there)]
    rfl
  refine ⟨c', _, e, (c.db.docs.insert d).2, d, made, found', rfl, rfl, files, ?_, named, shown, ?_, unnamed, title⟩
  · show ((row.items.set .snippet ⟨[e]⟩).get .snippet).entryAt? 0 = some e
    rw [PerKind.get_set_self, item]
  · exact liveDoc?_eq_some.2 (by rw [docs]; exact ⟨live, read⟩)

/-- A snippet of a name is made and saved. -/
theorem exists_snippet (name : String) : ∃ c ids, Grounded c ∧ c.listItems? .snippet 0 = some ids ∧ 0 ∈ ids ∧
    c.itemAddress? .snippet 0 0 = some (some ⟨"A.tmbundle", .snippet, legalName name ++ ".tmSnippet"⟩) ∧
    ∀ row, c.db.bundles.row? 0 = some row → row.entry.isTombstone = false := by
  obtain ⟨c, row, bundled, bare, found, directory, noItems, there⟩ := exists_bundle
  obtain ⟨c₁, row₁, e, own, d, made, found₁, directory₁, entry₁, files, item, named, shown, live, unnamed, title⟩ :=
    exists_newItem? bundled found noItems name
  have first : Grounded c₁ := bundled.step (.newItem .snippet 0 name) (fun _ => Operation.noConfusion)
    (congrArg (Option.map Prod.fst) made)
  have placed : row₁.dirName ≠ "" := by
    rw [directory₁, directory]
    decide
  obtain ⟨c₂, result, save, addressed, row₂, found₂, entry₂⟩ := exists_saveItem? found₁ placed item named shown live unnamed
  have second : Grounded c₂ := first.step (.saveItem .snippet 0 0) (fun _ => Operation.noConfusion)
    (congrArg (Option.map Prod.fst) save)
  obtain ⟨ids, listed, member⟩ := mem_listItems? addressed
  refine ⟨c₂, ids, second, listed, member, ?_, fun row' found' => ?_⟩
  · rw [addressed, files, bare, title, freeName_bare _ _ ItemKind.snippet.isExtension, directory₁, directory]
    rfl
  · obtain rfl := Option.some.inj (found₂.symm.trans found')
    rw [entry₂, entry₁, there]

/-- A snippet is saved, and its address leads back to it. -/
theorem findAddress?_of_grounded_saved : ∃ c ids a, Grounded c ∧ c.listItems? .snippet 0 = some ids ∧ 0 ∈ ids ∧
    c.itemAddress? .snippet 0 0 = some (some a) ∧ a.print = "bundle://A.tmbundle/Snippets/fn.tmSnippet" ∧
    (ItemAddress.parse? a.print).bind c.findAddress? = some (.snippet, 0, 0) := by
  obtain ⟨c, ids, reached, listed, member, addressed, there⟩ := exists_snippet "fn"
  obtain ⟨a, addressed', leads⟩ := (findAddress?_of_grounded reached).1 .snippet 0 ids 0 listed member
  obtain rfl := Option.some.inj (Option.some.inj (addressed.symm.trans addressed'))
  refine ⟨c, ids, _, reached, listed, member, addressed, by decide, (leads (by decide) (by decide)).1.2 ⟨by decide, ?_⟩⟩
  exact ⟨there, fun _ _ early => absurd early (Nat.not_lt_zero _), fun _ early => absurd early (Nat.not_lt_zero _)⟩

/-- A snippet whose name has a line feed is saved, and its address leads nowhere. -/
theorem exists_findAddress?_eq_none : ∃ c ids a, Grounded c ∧ c.listItems? .snippet 0 = some ids ∧ 0 ∈ ids ∧
    c.itemAddress? .snippet 0 0 = some (some a) ∧ a.print = "bundle://A.tmbundle/Snippets/a\nb.tmSnippet" ∧
    (ItemAddress.parse? a.print).bind c.findAddress? = none := by
  obtain ⟨c, ids, reached, listed, member, addressed, -⟩ := exists_snippet "a\nb"
  refine ⟨c, ids, _, reached, listed, member, addressed, by decide, ?_⟩
  rw [ItemAddress.parse?_print (by decide) (by decide) (by decide), if_pos (by decide)]
  rfl

end EditorBundles.Catalog
