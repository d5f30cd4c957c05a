import EditorBundles.Proofs.PropertyList.Invariant

/-!
# An imported object is what the dictionary holds

A JSON value is storable when it is made of texts, truth values, whole numbers of 64 bits, arrays and
objects, and no object in it repeats a key. Such a value is never refused, and writing it where nothing
stands yet stores exactly it: its JSON comes back, in the same order at every depth. An object that is
imported into a dictionary therefore stands behind what is kept there, whatever the dictionary held
before.
-/

namespace EditorBundles.PropertyList
set_option autoImplicit false

mutual

/-- A JSON value that a property list can hold, and hold without merging anything. -/
def Storable : Json → Prop
  | .null => False
  | .decimal _ => False
  | .integer n => -0x8000000000000000 ≤ n ∧ n < 0x8000000000000000
  | .bool _ => True
  | .string _ => True
  | .array items => ItemsStorable items
  | .object members => (Entries.keys members).Nodup ∧ MembersStorable members

/-- Every item is storable. -/
def ItemsStorable : List Json → Prop
  | [] => True
  | j :: rest => Storable j ∧ ItemsStorable rest

/-- The value of every member is storable. -/
def MembersStorable : List (String × Json) → Prop
  | [] => True
  | (_, j) :: rest => Storable j ∧ MembersStorable rest

end

theorem MembersStorable.filter {members : List (String × Json)} (h : MembersStorable members)
    (kept : String × Json → Bool) : MembersStorable (members.filter kept) := by
  induction members with
  | nil => exact h
  | cons member rest ih =>
    obtain ⟨first, others⟩ := h
    rw [List.filter_cons]
    split
    · exact ⟨first, ih others⟩
    · exact ih others

theorem exists_int64_of_fits {n : Int} (fits : -0x8000000000000000 ≤ n ∧ n < 0x8000000000000000) :
    ∃ m, int64OfInt? n = some m ∧ m.toInt = n := by
  refine ⟨Int64.ofInt n, if_pos fits, ?_⟩
  exact Int64.toInt_ofInt_of_le fits.1 fits.2

/-! ## Nothing storable is refused -/

mutual

theorem importFault?_of_storable {j : Json} (h : Storable j) (path : String) : importFault? path j = none := by
  match j with
  | .null => exact h.elim
  | .decimal _ => exact h.elim
  | .integer n =>
    obtain ⟨m, fits, -⟩ := exists_int64_of_fits h
    simp [importFault?, fits]
  | .bool _ => rfl
  | .string _ => rfl
  | .array items => exact itemsFault?_of_storable h path 0
  | .object members => exact membersFault?_of_storable h.2 path

theorem itemsFault?_of_storable {items : List Json} (h : ItemsStorable items) (path : String) (index : Nat) :
    itemsFault? path index items = none := by
  match items with
  | [] => rfl
  | j :: rest =>
    rw [itemsFault?, importFault?_of_storable h.1, itemsFault?_of_storable h.2]
    rfl

theorem membersFault?_of_storable {members : List (String × Json)} (h : MembersStorable members) (path : String) :
    membersFault? path members = none := by
  match members with
  | [] => rfl
  | (key, j) :: rest =>
    rw [membersFault?, importFault?_of_storable h.1, membersFault?_of_storable h.2]
    rfl

end

/-! ## What is stored is what was written -/

namespace Value

theorem keys_entriesToJson (entries : List (String × Value)) :
    Entries.keys (entriesToJson entries) = Entries.keys entries := by
  induction entries with
  | nil => rfl
  | cons entry rest ih => rw [entriesToJson, Entries.keys_cons, Entries.keys_cons, ih]

mutual

/-- A value at a new key stands behind the entries. -/
theorem exists_withMember {entries : List (String × Value)} {key : String} (fresh : key ∉ Entries.keys entries)
    {j : Json} (h : Storable j) : ∃ v, withMember entries key j = entries ++ [(key, v)] ∧ v.toJson = j := by
  have put (v : Value) : Entries.put entries key v = entries ++ [(key, v)] := Entries.put_of_not_mem fresh v
  have missing : Entries.get? entries key = none := Entries.get?_eq_none_iff.2 fresh
  match j with
  | .null => exact h.elim
  | .decimal _ => exact h.elim
  | .integer n =>
    obtain ⟨m, fits, same⟩ := exists_int64_of_fits h
    refine ⟨.integer m, ?_, by rw [toJson, same]⟩
    rw [withMember, fits]
    exact put _
  | .bool b => exact ⟨.bool b, put _, rfl⟩
  | .string s => exact ⟨.string s, put _, rfl⟩
  | .array elements =>
    have elementsStorable : ItemsStorable elements := h
    obtain ⟨added, stored, same⟩ := exists_withItems [] elementsStorable
    refine ⟨.array added, ?_, by rw [toJson, same]⟩
    rw [withMember, DictEdit.arrayAt, missing, stored, put, List.nil_append]
  | .object members =>
    have distinct : (Entries.keys ([] : List (String × Value)) ++ Entries.keys members).Nodup := h.1
    obtain ⟨added, stored, same⟩ := exists_withMembers distinct h.2
    refine ⟨.dict added, ?_, by rw [toJson, same]⟩
    rw [withMember, DictEdit.dictAt, missing, stored, put, List.nil_append]

/-- The members of an object stand behind the entries, as long as no key repeats. -/
theorem exists_withMembers {entries : List (String × Value)} {members : List (String × Json)}
    (distinct : (Entries.keys entries ++ Entries.keys members).Nodup) (h : MembersStorable members) :
    ∃ added, withMembers entries members = entries ++ added ∧ entriesToJson added = members := by
  match members with
  | [] => exact ⟨[], (List.append_nil entries).symm, rfl⟩
  | (key, j) :: rest =>
    have fresh : key ∉ Entries.keys entries := by
      intro member
      exact (List.nodup_append.1 distinct).2.2 key member key List.mem_cons_self rfl
    obtain ⟨v, stored, first⟩ := exists_withMember fresh h.1
    have apart : (Entries.keys (entries ++ [(key, v)]) ++ Entries.keys rest).Nodup := by
      simpa [List.append_assoc] using distinct
    obtain ⟨added, behind, others⟩ := exists_withMembers apart h.2
    refine ⟨(key, v) :: added, ?_, by rw [entriesToJson, first, others]⟩
    rw [withMembers, stored, behind, List.append_assoc, List.singleton_append]

theorem exists_withItem (items : List Value) {j : Json} (h : Storable j) :
    ∃ v, withItem items j = items ++ [v] ∧ v.toJson = j := by
  match j with
  | .null => exact h.elim
  | .decimal _ => exact h.elim
  | .integer n =>
    obtain ⟨m, fits, same⟩ := exists_int64_of_fits h
    refine ⟨.integer m, ?_, by rw [toJson, same]⟩
    rw [withItem, fits]
  | .bool b => exact ⟨.bool b, rfl, rfl⟩
  | .string s => exact ⟨.string s, rfl, rfl⟩
  | .array elements =>
    have elementsStorable : ItemsStorable elements := h
    obtain ⟨added, stored, same⟩ := exists_withItems [] elementsStorable
    refine ⟨.array added, ?_, by rw [toJson, same]⟩
    rw [withItem, stored, List.nil_append]
  | .object members =>
    have distinct : (Entries.keys ([] : List (String × Value)) ++ Entries.keys members).Nodup := h.1
    obtain ⟨added, stored, same⟩ := exists_withMembers distinct h.2
    refine ⟨.dict added, ?_, by rw [toJson, same]⟩
    rw [withItem, stored, List.nil_append]

theorem exists_withItems (items : List Value) {elements : List Json} (h : ItemsStorable elements) :
    ∃ added, withItems items elements = items ++ added ∧ itemsToJson added = elements := by
  match elements with
  | [] => exact ⟨[], (List.append_nil items).symm, rfl⟩
  | j :: rest =>
    obtain ⟨v, stored, first⟩ := exists_withItem items h.1
    obtain ⟨added, behind, others⟩ := exists_withItems (items ++ [v]) h.2
    refine ⟨v :: added, ?_, by rw [itemsToJson, first, others]⟩
    rw [withItems, stored, behind, List.append_assoc, List.singleton_append]

end

end Value

namespace Document

/-! ## The file stays -/

/-- Both documents are of the same file, as it was at the same time. -/
def SameFile (d e : Document) : Prop := e.filename = d.filename ∧ e.modTime = d.modTime

namespace SameFile

variable {d e f : Document}

theorem refl (d : Document) : d.SameFile d := ⟨rfl, rfl⟩

theorem trans (first : d.SameFile e) (second : e.SameFile f) : d.SameFile f :=
  ⟨second.1.trans first.1, second.2.trans first.2⟩

/-- What each step keeps the whole loop keeps. -/
theorem foldl {α : Type} {step : Document → α → Document} (keeps : ∀ (d : Document) (x : α), d.SameFile (step d x))
    (d : Document)
    (xs : List α) : d.SameFile (xs.foldl step d) := by
  induction xs generalizing d with
  | nil => exact .refl d
  | cons x xs ih => exact (keeps d x).trans (ih _)

end SameFile

theorem sameFile_releaseWithin (levels : Nat) (d : Document) (c : Cell) : d.SameFile (d.releaseWithin levels c) := by
  induction levels generalizing d c with
  | zero => cases c <;> exact .refl d
  | succ levels ih =>
    cases c with
    | string slot => exact .refl d
    | dict slot => exact SameFile.foldl ih (d.setDict slot []) ((d.dict slot).map Prod.snd)
    | array slot => exact SameFile.foldl ih (d.setArray slot []) (d.array slot)
    | integer n => exact .refl d
    | bool b => exact .refl d

theorem sameFile_addString (d : Document) (text : String) : d.SameFile (d.addString text).1 := by
  unfold addString
  split <;> exact .refl d

theorem sameFile_addDict (d : Document) : d.SameFile d.addDict.1 := by
  unfold addDict
  split <;> exact .refl d

theorem sameFile_addArray (d : Document) : d.SameFile d.addArray.1 := by
  unfold addArray
  split <;> exact .refl d

theorem sameFile_replace (d : Document) (slot : Nat) (key : String) (c : Cell) : d.SameFile (d.replace slot key c) := by
  simp only [replace]
  split
  · exact sameFile_releaseWithin _ (d.setDict slot _) _
  · exact .refl d

theorem sameFile_setString (d : Document) (slot : Nat) (key text : String) :
    d.SameFile (d.setString slot key text) := by
  unfold setString
  split
  · exact .refl d
  · exact (d.sameFile_addString text).trans (sameFile_replace _ slot key _)

theorem sameFile_deleteKey (d : Document) (slot : Nat) (key : String) : d.SameFile (d.deleteKey slot key) := by
  unfold deleteKey
  split
  · exact sameFile_releaseWithin _ (d.setDict slot _) _
  · exact .refl d

theorem sameFile_newDict (d : Document) (slot : Nat) (key : String) : d.SameFile (d.newDict slot key).1 := by
  unfold newDict
  split
  · exact .refl d
  · exact d.sameFile_addDict.trans (sameFile_replace _ slot key _)

theorem sameFile_newArray (d : Document) (slot : Nat) (key : String) : d.SameFile (d.newArray slot key).1 := by
  unfold newArray
  split
  · exact .refl d
  · exact d.sameFile_addArray.trans (sameFile_replace _ slot key _)

mutual

theorem sameFile_importMember (d : Document) (slot : Nat) (key : String) (j : Json) :
    d.SameFile (d.importMember slot key j) := by
  match j with
  | .string s => exact d.sameFile_setString slot key s
  | .bool b => exact d.sameFile_replace slot key _
  | .integer n =>
    unfold importMember
    split
    · exact d.sameFile_replace slot key _
    · exact .refl d
  | .null => exact .refl d
  | .decimal _ => exact .refl d
  | .object members => exact (d.sameFile_newDict slot key).trans (sameFile_importMembers _ _ members)
  | .array elements => exact (d.sameFile_newArray slot key).trans (sameFile_importItems _ _ elements)

theorem sameFile_importMembers (d : Document) (slot : Nat) (members : List (String × Json)) :
    d.SameFile (d.importMembers slot members) := by
  match members with
  | [] => exact .refl d
  | (key, j) :: rest => exact (sameFile_importMember d slot key j).trans (sameFile_importMembers _ slot rest)

theorem sameFile_importItem (d : Document) (slot : Nat) (j : Json) : d.SameFile (d.importItem slot j) := by
  match j with
  | .string s => exact d.sameFile_addString s
  | .bool b => exact .refl d
  | .integer n =>
    unfold importItem
    split <;> exact .refl d
  | .null => exact .refl d
  | .decimal _ => exact .refl d
  | .object members => exact d.sameFile_addDict.trans (sameFile_importMembers _ _ members)
  | .array elements => exact d.sameFile_addArray.trans (sameFile_importItems _ _ elements)

theorem sameFile_importItems (d : Document) (slot : Nat) (elements : List Json) :
    d.SameFile (d.importItems slot elements) := by
  match elements with
  | [] => exact .refl d
  | j :: rest => exact (sameFile_importItem d slot j).trans (sameFile_importItems _ slot rest)

end

mutual

theorem sameFile_addValue (d : Document) (v : Value) : d.SameFile (d.addValue v).1 := by
  match v with
  | .string s => exact d.sameFile_addString s
  | .integer n => exact .refl d
  | .bool b => exact .refl d
  | .array items => exact d.sameFile_addArray.trans (sameFile_addItems _ _ items)
  | .dict entries => exact d.sameFile_addDict.trans (sameFile_addEntries _ _ entries)

theorem sameFile_addItems (d : Document) (slot : Nat) (items : List Value) : d.SameFile (d.addItems slot items) := by
  match items with
  | [] => exact .refl d
  | v :: rest =>
    have added := sameFile_addValue d v
    exact added.trans (sameFile_addItems ((d.addValue v).1.pushCell slot (d.addValue v).2) slot rest)

theorem sameFile_addEntries (d : Document) (slot : Nat) (entries : List (String × Value)) :
    d.SameFile (d.addEntries slot entries) := by
  match entries with
  | [] => exact .refl d
  | (key, v) :: rest =>
    have added := sameFile_addValue d v
    exact (added.trans (sameFile_replace _ slot key _)).trans
      (sameFile_addEntries ((d.addValue v).1.replace slot key (d.addValue v).2) slot rest)

end

theorem sameFile_setJson {d e : Document} {slot : Nat} {json : Json} {strip : Bool}
    (imported : d.setJson slot json strip = .ok e) : d.SameFile e := by
  cases json with
  | object members =>
    simp only [setJson] at imported
    cases faults : membersFault? "" members with
    | some fault => simp [faults] at imported
    | none =>
      simp only [faults, Except.ok.injEq] at imported
      subst imported
      exact (SameFile.foldl (fun d key => d.sameFile_deleteKey slot key) d _).trans (sameFile_importMembers _ slot _)
  | _ => simp [setJson] at imported

/-! ## Importing -/

/-- A container below the root or a handed-out cell can be turned into another value: at its place in the
value above it the new value then stands, and the values of all other cells stay. -/
theorem WellFormed.turn_value {d : Document} {handed : List Cell} {owner cell : Cell} {path : List Step}
    (h : d.WellFormed handed) (owned : owner ∈ Cell.dict rootSlot :: handed)
    (found : d.follow? owner path = some cell) :
    ∃ v here rest, Forest d [cell] [v] here ∧ d.Uses (here ++ rest) ∧ ∀ (e : Document) (w : Value),
      d.Turns e here [cell] [w] →
        e.WellFormed handed ∧ (∃ here' rest', Forest e [cell] [w] here' ∧ e.Uses (here' ++ rest')) ∧
          e.value owner = (d.value owner).setAt w path ∧
          ∀ other ∈ Cell.dict rootSlot :: handed, other ≠ owner → e.value other = d.value other := by
  obtain ⟨values, places, forest, uses⟩ := h
  obtain ⟨i, bound, rfl⟩ := List.getElem_of_mem owned
  have all : d.Uses (places ++ []) := by simpa using uses
  have meant := map_value forest all
  obtain ⟨u, inside, outside, holds, tree, perm, refill, -⟩ := forest.item (List.getElem?_eq_getElem bound)
  obtain ⟨v, here, around, -, below, perm', refill'⟩ := tree.follow found
  have moved : d.Uses (here ++ (around ++ outside)) := uses.of_perm (by grind)
  refine ⟨v, here, around ++ outside, below, moved, fun e w turns => ?_⟩
  obtain ⟨here', below', used', agrees⟩ := turns _ moved
  obtain ⟨-, inside', tree', same⟩ := refill' e w here' (agrees.mono (by simp)) below'
  obtain ⟨places', forest', same'⟩ := refill e _ _ inside' (agrees.mono (by simp)) tree'
  rw [List.set_getElem_self] at forest'
  have uses' : e.Uses places' := used'.of_perm (by grind)
  have all' : e.Uses (places' ++ []) := by simpa using uses'
  have meant' := map_value forest' all'
  have at? (j : Nat) (within : j < (Cell.dict rootSlot :: handed).length) :
      values[j]? = some (d.value (Cell.dict rootSlot :: handed)[j]) ∧
        (values.set i (u.setAt w path))[j]? = some (e.value (Cell.dict rootSlot :: handed)[j]) := by
    rw [← meant', ← meant, List.getElem?_map, List.getElem?_map, List.getElem?_eq_getElem within]
    exact ⟨rfl, rfl⟩
  refine ⟨⟨_, places', forest', uses'⟩, ⟨here', _, below', used'⟩, ?_, ?_⟩
  · obtain ⟨before, after⟩ := at? i bound
    obtain rfl : u = d.value (Cell.dict rootSlot :: handed)[i] := Option.some.inj (holds.symm.trans before)
    have inRange : i < values.length := (List.getElem?_eq_some_iff.1 holds).1
    rw [List.getElem?_set_self inRange] at after
    exact (Option.some.inj after).symm
  · intro other member apart
    obtain ⟨j, within, rfl⟩ := List.getElem_of_mem member
    have elsewhere : i ≠ j := by
      rintro rfl
      exact apart rfl
    obtain ⟨before, after⟩ := at? j within
    rw [List.getElem?_set_ne elsewhere] at after
    exact Option.some.inj (after.symm.trans before)

/-- Entries that are kept and members that are not carry different keys. -/
theorem nodup_kept_append {entries : List (String × Value)} {members : List (String × Json)}
    (distinct : (Entries.keys entries).Nodup) (distinct' : (Entries.keys members).Nodup) (kept : String → Bool) :
    (Entries.keys (entries.filter fun entry => kept entry.1) ++
      Entries.keys (members.filter fun member => !kept member.1)).Nodup := by
  have filtered {α : Type} (entries : List (String × α)) (kept : String → Bool) :
      Entries.keys (entries.filter fun entry => kept entry.1) = (Entries.keys entries).filter kept := by
    simp only [Entries.keys, List.filter_map]
    rfl
  rw [filtered, filtered members fun key => !kept key]
  refine List.nodup_append.2 ⟨distinct.filter _, distinct'.filter _, ?_⟩
  rintro key member _ member' rfl
  have inside := (List.mem_filter.1 member).2
  have outside := (List.mem_filter.1 member').2
  simp [inside] at outside

/-- What is kept on a stripped import is what a stripped export leaves out. -/
theorem dictToJson_kept_append {strip : Bool} {entries added : List (String × Value)} {members : List (String × Json)}
    (json : Value.entriesToJson added = members.filter fun member => !(strip && member.1 ∈ identityKeys)) :
    dictToJson strip (entries.filter (fun entry => strip && entry.1 ∈ identityKeys) ++ added) =
      .object (members.filter fun member => !(strip && member.1 ∈ identityKeys)) := by
  cases strip with
  | false => simp [dictToJson, json]
  | true =>
    have none : (entries.filter fun entry => true && entry.1 ∈ identityKeys).filter
        (fun entry => entry.1 ∉ identityKeys) = [] := by
      simp [List.filter_filter]
    have all : added.filter (fun entry => entry.1 ∉ identityKeys) = added := by
      refine List.filter_eq_self.2 fun entry member => ?_
      have key : entry.1 ∈ Entries.keys (Value.entriesToJson added) := by
        rw [Value.keys_entriesToJson]
        exact List.mem_map_of_mem member
      rw [json] at key
      obtain ⟨found, within, same⟩ := List.mem_map.1 key
      simpa [same] using (List.mem_filter.1 within).2
    rw [dictToJson, if_pos rfl, List.filter_append, none, all, List.nil_append, json]

/-- Importing an object into any dictionary of a document puts exactly its members, in their order,
behind what the dictionary keeps: nothing, or on request the identity keys with the values that they had.
The keys of inner objects are never left out. The rest of the document stays, and nothing leaks. -/
theorem setJson_storable {d : Document} {handed : List Cell} (wellFormed : d.WellFormed handed) {owner : Cell}
    (owned : owner ∈ Cell.dict rootSlot :: handed) {path : List Step} {slot : Nat}
    (found : d.follow? owner path = some (.dict slot)) {members : List (String × Json)}
    (storable : Storable (.object members)) (strip : Bool) :
    ∃ e added, d.setJson slot (.object members) strip = .ok e ∧
      e.entries slot = (d.entries slot).filter (fun entry => strip && entry.1 ∈ identityKeys) ++ added ∧
      Value.entriesToJson added = members.filter (fun member => !(strip && member.1 ∈ identityKeys)) ∧
      dictToJson strip (e.entries slot) =
        .object (members.filter fun member => !(strip && member.1 ∈ identityKeys)) ∧
      e.value owner = (d.value owner).setAt (.dict (e.entries slot)) path ∧
      (∀ other ∈ Cell.dict rootSlot :: handed, other ≠ owner → e.value other = d.value other) ∧
      e.filename = d.filename ∧ e.modTime = d.modTime ∧ e.WellFormed handed ∧ e.Sound handed := by
  obtain ⟨v, here, rest, tree, uses, turn⟩ := wellFormed.turn_value owned found
  obtain rfl : .dict (d.entries slot) = v := value_dict tree uses
  obtain ⟨e, imported⟩ : ∃ e, d.setJson slot (.object members) strip = .ok e := by
    simp [setJson, membersFault?_of_storable storable.2]
  obtain ⟨members, same, -, turns⟩ := turns_setJson tree imported
  cases same
  let kept := fun key : String => strip && key ∈ identityKeys
  -- what is kept has other keys than what is written, so each member gets a place of its own
  obtain ⟨added, stored, json⟩ := Value.exists_withMembers
    (nodup_kept_append (keys_dict tree).2 storable.1 kept) (storable.2.filter fun member => !kept member.1)
  obtain ⟨wellFormed', ⟨here', rest', tree', uses'⟩, value, others⟩ := turn e _ turns
  have entries : e.entries slot = (d.entries slot).filter (fun entry => kept entry.1) ++ added := by
    refine (Value.dict.inj (value_dict tree' uses')).trans ?_
    rw [← stored]
    simp [kept]
  obtain ⟨filename, modTime⟩ := sameFile_setJson imported
  refine ⟨e, added, imported, entries, json, ?_, ?_, others, filename, modTime, wellFormed', wellFormed'.sound⟩
  · rw [entries]
    exact dictToJson_kept_append json
  · rw [value, ← value_dict tree' uses']

/-- An item keeps its identity key, the object's own is left out, and one inside an inner object stays. -/
theorem setJson_storable_stripped :
    ∃ d e : Document, d.WellFormed [] ∧ d.root = [("name", .string "old"), ("uuid", .string "u")] ∧
      d.setJson rootSlot (.object [("scope", .bool true), ("name", .object [("uuid", .integer 1)])]) true = .ok e ∧
      e.root = [("uuid", .string "u"), ("name", .dict [("uuid", .integer 1)])] ∧
      dictToJson true e.root = .object [("name", .object [("uuid", .integer 1)])] ∧ e.Sound [] := by
  have top (d : Document) : d.follow? (.dict rootSlot) [] = some (.dict rootSlot) := rfl
  have named : Reachable (new.setString rootSlot "name" "old") [] := by
    have run : (Edit.dict (.setString "name" "old")).run? new (.dict rootSlot) =
        some (new.setString rootSlot "name" "old", none) := rfl
    exact .edited .new List.mem_cons_self (top _) run
  have filled : Reachable ((new.setString rootSlot "name" "old").setString rootSlot "uuid" "u") [] := by
    have run : (Edit.dict (.setString "uuid" "u")).run? (new.setString rootSlot "name" "old") (.dict rootSlot) =
        some ((new.setString rootSlot "name" "old").setString rootSlot "uuid" "u", none) := rfl
    exact .edited named List.mem_cons_self (top _) run
  have storable : Storable (.object [("scope", .bool true), ("name", .object [("uuid", .integer 1)])]) := by
    simp [Storable, MembersStorable, Entries.keys]
  obtain ⟨e, added, imported, -, -, json, -, -, -, -, -, sound⟩ :=
    setJson_storable filled.wellFormed List.mem_cons_self (top _) storable true
  have root : e.root = [("uuid", .string "u"), ("name", .dict [("uuid", .integer 1)])] := by
    cases imported
    rfl
  exact ⟨_, e, filled.wellFormed, rfl, imported, root, json, sound⟩

end Document

end EditorBundles.PropertyList
