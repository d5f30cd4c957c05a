import EditorBundles.Proofs.PropertyList.Forest

/-!
# What an edit does to the tree it works on

`Turns d e places cells values` is the shape of all statements here: whatever else is in use, going
from `d` to `e` turns the trees at `places` into trees of the values below the cells, and leaves every
other place in use as it was. Each editing operation on a dictionary or list has one such statement,
which names the list or ordered-map operation that it performs on the value.
-/

namespace EditorBundles.PropertyList
set_option autoImplicit false
open Document (Agrees Uses)

namespace Document

/-- Going from `d` to `e` turns the trees at `places` into trees of `values` below `cells`. -/
def Turns (d e : Document) (places : List Place) (cells : List Cell) (values : List Value) : Prop :=
  ∀ rest, d.Uses (places ++ rest) →
    ∃ places', Forest e cells values places' ∧ e.Uses (places' ++ rest) ∧ d.Agrees e rest

/-- What an operation gives out is what one step from the container leads to; where there is no such
step, it gives out nothing. -/
def Hands (e : Document) (container : Cell) : Option Step → Option Cell → Prop
  | none, none => True
  | some step, some c => e.child? container step = some c
  | _, _ => False

/-- Going from `d` to `e` turns the tree of a container into one of `v` and gives out a cell of it. -/
def TurnsHanding (d e : Document) (places : List Place) (container : Cell) (v : Value) (step : Option Step)
    (handle : Option Cell) : Prop :=
  ∀ rest, d.Uses (places ++ rest) →
    ∃ places', Forest e [container] [v] places' ∧ e.Uses (places' ++ rest) ∧ d.Agrees e rest ∧
      e.Hands container step handle

variable {d e f : Document} {slot : Nat} {c : Cell} {v : Value} {ps new : List Place}

theorem TurnsHanding.turns {container : Cell} {step : Option Step} {handle : Option Cell}
    (h : d.TurnsHanding e ps container v step handle) : d.Turns e ps [container] [v] := by
  intro rest uses
  obtain ⟨places', forest, used, agrees, -⟩ := h rest uses
  exact ⟨places', forest, used, agrees⟩

theorem Turns.handing {container : Cell} (h : d.Turns e ps [container] [v]) :
    d.TurnsHanding e ps container v none none := by
  intro rest uses
  obtain ⟨places', forest, used, agrees⟩ := h rest uses
  exact ⟨places', forest, used, agrees, trivial⟩

theorem Turns.refl {cs : List Cell} {vs : List Value} (h : Forest d cs vs ps) : d.Turns d ps cs vs :=
  fun rest uses => ⟨ps, h, uses, .refl d rest⟩

/-! ## New cells -/

theorem turns_addString (d : Document) (text : String) :
    d.Turns (d.addString text).1 [] [.string (d.addString text).2] [.string text] := by
  intro rest uses
  have took := d.took_addString text
  exact ⟨_, .string (took.holds uses) .nil, took.uses uses, took.agrees uses⟩

theorem turns_addDict (d : Document) : d.Turns d.addDict.1 [] [.dict d.addDict.2] [.dict []] := by
  intro rest uses
  have took := d.took_addDict
  exact ⟨_, .of_dict (took.holds uses) (by simp) rfl .nil, took.uses uses, took.agrees uses⟩

theorem turns_addArray (d : Document) : d.Turns d.addArray.1 [] [.array d.addArray.2] [.array []] := by
  intro rest uses
  have took := d.took_addArray
  exact ⟨_, .of_array (took.holds uses) .nil, took.uses uses, took.agrees uses⟩

/-! ## Dictionaries -/

section Dictionary

variable {entries : List (String × Value)} (h : Forest d [.dict slot] [.dict entries] ps)
include h

/-- Storing a cell at a key, with the cells that the dictionary then has. -/
theorem turns_replace_dict (tree : Forest d [c] [v] new) (key : String) {rest : List Place}
    (uses : d.Uses (ps ++ new ++ rest)) :
    ∃ ps', Forest (d.replace slot key c) [.dict slot] [.dict (Entries.put entries key v)] ps' ∧
      (d.replace slot key c).Uses (ps' ++ rest) ∧ d.Agrees (d.replace slot key c) rest ∧
      (d.replace slot key c).dict slot = Entries.put (d.dict slot) key c := by
  obtain ⟨es, entries, inner, same, rfl, read, distinct, keys, below⟩ := h.dict_inv
  cases same
  have wrote := d.wrote_setDict slot (Entries.put es key c)
  have apart : Place.dict slot ∉ inner ++ new ++ rest := by simpa using (List.nodup_cons.1 uses.nodup).1
  have kept := wrote.agrees apart
  have written := wrote.uses uses (by simp)
  have holds := wrote.read (uses.mem_places (by simp))
  have distinct' := Entries.nodup_keys_put distinct key c
  have keys' : Entries.keys (Entries.put entries key v) = Entries.keys (Entries.put es key c) := by
    rw [Entries.keys_put, Entries.keys_put, keys]
  rw [replace, content?_dict read]
  cases found : Entries.get? es key with
  | none =>
    have absent := Entries.get?_eq_none_iff.1 found
    have absent' : key ∉ Entries.keys entries := keys ▸ absent
    have whole := (below.append tree).frame (kept.mono (by simp))
    refine ⟨_, .of_dict holds distinct' keys' ?_, written, kept.mono (by simp), content?_dict holds⟩
    simpa [Entries.put_of_not_mem absent, Entries.put_of_not_mem absent'] using whole
  | some old =>
    obtain ⟨w, here, others, -, oldTree, perm, refill, -⟩ := below.entry keys found
    have used := uses.of_perm (by grind : List.Perm _ (Place.dict slot :: (here ++ (others ++ new ++ rest))))
    obtain ⟨freed, kept', holds'⟩ := oldTree.releaseAll_wrote wrote used
    obtain ⟨inner', below', perm'⟩ := refill _ c v new (kept'.mono (by simp)) (tree.frame (kept'.mono (by simp)))
    exact ⟨_, .of_dict holds' distinct' keys' below', freed.of_perm (by grind), kept'.mono (by simp),
      content?_dict holds'⟩

theorem turns_replace (tree : Forest d [c] [v] new) (key : String) :
    d.Turns (d.replace slot key c) (ps ++ new) [.dict slot] [.dict (Entries.put entries key v)] := by
  intro rest uses
  obtain ⟨ps', forest, used, agrees, -⟩ := turns_replace_dict h tree key uses
  exact ⟨ps', forest, used, agrees⟩

/-- The dictionary gets a new cell at a key. -/
theorem turnsHanding_replace (take : d.Turns e [] [c] [v]) (key : String) :
    d.TurnsHanding (e.replace slot key c) ps (.dict slot) (.dict (Entries.put entries key v)) (some (.key key))
      (some c) := by
  intro rest uses
  obtain ⟨new, tree, used, agrees⟩ := take (ps ++ rest) uses
  have kept := h.frame (agrees.mono (by simp))
  have moved : e.Uses (ps ++ new ++ rest) := used.of_perm (by grind)
  obtain ⟨ps', forest, used', agrees', dict⟩ := turns_replace_dict kept tree key moved
  exact ⟨ps', forest, used', (agrees.mono (by simp)).trans agrees', by simp [Hands, child?, dict]⟩

theorem turns_setString (key text : String) :
    d.Turns (d.setString slot key text) ps [.dict slot] [.dict (Entries.put entries key (.string text))] := by
  have fresh := (turnsHanding_replace h (d.turns_addString text) key).turns
  intro rest uses
  obtain ⟨es, entries, inner, same, rfl, read, distinct, keys, below⟩ := h.dict_inv
  cases same
  rw [setString, content?_dict read]
  split
  · next old found =>
    -- the text is overwritten in its place, so the cells of the dictionary stay
    obtain ⟨w, here, others, -, tree, perm, refill, -⟩ := below.entry keys found
    cases tree with
    | string _ behind =>
      cases behind
      have wrote := d.wrote_setText old text
      have used := uses.of_perm (by grind : List.Perm _ (Place.string old :: (.dict slot :: others ++ rest)))
      have kept := wrote.agrees (List.nodup_cons.1 used.nodup).1
      have held := wrote.read (used.mem_places (by simp))
      obtain ⟨inner', below', perm'⟩ := refill _ _ (.string text) _ (kept.mono (by simp)) (.string held .nil)
      rw [Entries.put_of_get? found] at below'
      have keys' : Entries.keys (Entries.put entries key (.string text)) = Entries.keys es := by
        rw [Entries.keys_put, keys, if_pos (Entries.mem_keys_of_get? found)]
      exact ⟨_, .of_dict ((kept _ (by simp)).trans read) distinct keys' below',
        (wrote.uses used (by simp)).of_perm (by grind), kept.mono (by simp)⟩
  · exact fresh rest uses

theorem turns_setInteger (key : String) (n : Int64) :
    d.Turns (d.setInteger slot key n) ps [.dict slot] [.dict (Entries.put entries key (.integer n))] := by
  simpa [setInteger] using turns_replace h (.integer n .nil) key

theorem turns_setBool (key : String) (b : Bool) :
    d.Turns (d.setBool slot key b) ps [.dict slot] [.dict (Entries.put entries key (.bool b))] := by
  simpa [setBool] using turns_replace h (.bool b .nil) key

theorem turns_deleteKey (key : String) :
    d.Turns (d.deleteKey slot key) ps [.dict slot] [.dict (Entries.erase entries key)] := by
  intro rest uses
  obtain ⟨es, entries, inner, same, rfl, read, distinct, keys, below⟩ := h.dict_inv
  cases same
  rw [deleteKey, content?_dict read]
  cases found : Entries.get? es key with
  | none =>
    have absent : key ∉ Entries.keys entries := keys ▸ Entries.get?_eq_none_iff.1 found
    rw [Entries.erase_of_not_mem absent]
    exact Turns.refl h rest uses
  | some old =>
    obtain ⟨w, here, others, -, tree, perm, -, without⟩ := below.entry keys found
    have used := uses.of_perm (by grind : List.Perm _ (Place.dict slot :: (here ++ (others ++ rest))))
    obtain ⟨freed, kept, holds⟩ := tree.releaseAll_wrote (d.wrote_setDict slot (Entries.erase es key)) used
    have keys' : Entries.keys (Entries.erase entries key) = Entries.keys (Entries.erase es key) := by
      rw [Entries.keys_erase, Entries.keys_erase, keys]
    exact ⟨_, .of_dict holds (Entries.nodup_keys_erase distinct key) keys' (without _ (kept.mono (by simp))),
      freed, kept.mono (by simp)⟩

/-- A key that the dictionary has leads to a cell with its value. -/
theorem key_cases (key : String) :
    (Entries.get? (d.dict slot) key = none ∧ Entries.get? entries key = none) ∨
      ∃ c v here, Entries.get? (d.dict slot) key = some c ∧ Entries.get? entries key = some v ∧
        Forest d [c] [v] here := by
  obtain ⟨es, entries, inner, same, rfl, read, distinct, keys, below⟩ := h.dict_inv
  cases same
  rw [content?_dict read]
  cases found : Entries.get? es key with
  | none =>
    rw [Entries.get?_eq_none_iff, keys]
    exact .inl ⟨rfl, Entries.get?_eq_none_iff.1 found⟩
  | some c =>
    obtain ⟨v, here, others, found', tree, -⟩ := below.entry keys found
    exact .inr ⟨c, v, here, rfl, found', tree⟩

/-- A dictionary at a key is given out as it is; where there is none, a new one is put. -/
theorem newDict_cases (key : String) :
    (Entries.get? (d.dict slot) key = some (.dict (d.newDict slot key).2) ∧ (d.newDict slot key).1 = d ∧
        Entries.get? entries key = some (.dict (DictEdit.dictAt entries key))) ∨
      (d.newDict slot key = (d.addDict.1.replace slot key (.dict d.addDict.2), d.addDict.2) ∧
        DictEdit.dictAt entries key = []) := by
  rw [newDict, DictEdit.dictAt]
  rcases key_cases h key with ⟨missing, absent⟩ | ⟨c, v, here, found, held, tree⟩
  · rw [missing, absent]
    exact .inr ⟨rfl, rfl⟩
  · rw [found, held]
    cases tree with
    | dict => exact .inl ⟨rfl, rfl, rfl⟩
    | _ => exact .inr ⟨rfl, rfl⟩

theorem turns_newDict (key : String) :
    d.TurnsHanding (d.newDict slot key).1 ps (.dict slot)
      (.dict (Entries.put entries key (.dict (DictEdit.dictAt entries key)))) (some (.key key))
      (some (.dict (d.newDict slot key).2)) := by
  rcases newDict_cases h key with ⟨found, same, held⟩ | ⟨made, empty⟩
  · rw [Entries.put_of_get? held, same]
    exact fun rest uses => ⟨ps, h, uses, .refl d rest, by simp [Hands, child?, found]⟩
  · rw [made, empty]
    exact turnsHanding_replace h d.turns_addDict key

/-- A list at a key is given out as it is; where there is none, a new one is put. -/
theorem newArray_cases (key : String) :
    (Entries.get? (d.dict slot) key = some (.array (d.newArray slot key).2) ∧ (d.newArray slot key).1 = d ∧
        Entries.get? entries key = some (.array (DictEdit.arrayAt entries key))) ∨
      (d.newArray slot key = (d.addArray.1.replace slot key (.array d.addArray.2), d.addArray.2) ∧
        DictEdit.arrayAt entries key = []) := by
  rw [newArray, DictEdit.arrayAt]
  rcases key_cases h key with ⟨missing, absent⟩ | ⟨c, v, here, found, held, tree⟩
  · rw [missing, absent]
    exact .inr ⟨rfl, rfl⟩
  · rw [found, held]
    cases tree with
    | array => exact .inl ⟨rfl, rfl, rfl⟩
    | _ => exact .inr ⟨rfl, rfl⟩

theorem turns_newArray (key : String) :
    d.TurnsHanding (d.newArray slot key).1 ps (.dict slot)
      (.dict (Entries.put entries key (.array (DictEdit.arrayAt entries key)))) (some (.key key))
      (some (.array (d.newArray slot key).2)) := by
  rcases newArray_cases h key with ⟨found, same, held⟩ | ⟨made, empty⟩
  · rw [Entries.put_of_get? held, same]
    exact fun rest uses => ⟨ps, h, uses, .refl d rest, by simp [Hands, child?, found]⟩
  · rw [made, empty]
    exact turnsHanding_replace h d.turns_addArray key

theorem turns_clearDict : d.Turns (d.clearDict slot) ps [.dict slot] [.dict []] := by
  intro rest uses
  obtain ⟨es, entries, inner, same, rfl, read, distinct, keys, below⟩ := h.dict_inv
  obtain ⟨freed, kept, holds⟩ := below.releaseAll_wrote (d.wrote_setDict slot []) uses
  rw [clearDict, content?_dict read]
  exact ⟨_, .of_dict holds (by simp) rfl .nil, freed, kept⟩

end Dictionary

/-! ## Lists -/

theorem insertIdx_length_append {α : Type} (left right : List α) (x : α) :
    (left ++ right).insertIdx left.length x = left ++ x :: right := by
  induction left with
  | nil => simp
  | cons y left ih => simp [ih]

theorem array_addString (d : Document) (text : String) (slot : Nat) :
    (d.addString text).1.array slot = d.array slot := by
  unfold addString
  split <;> rfl

theorem array_addDict (d : Document) (slot : Nat) : d.addDict.1.array slot = d.array slot := by
  unfold addDict
  split <;> rfl

theorem array_addArray (d : Document) (slot : Nat) : d.addArray.1.array slot = d.array slot := by
  unfold addArray
  split
  · rfl
  · by_cases h : slot = d.arrays.size <;> simp [array, Array.getElem?_push, h]

section Array

variable {items : List Value} (h : Forest d [.array slot] [.array items] ps)
include h

theorem length_array_eq : (d.array slot).length = items.length := by
  obtain ⟨cells, items, inner, same, rfl, read, below⟩ := h.array_inv
  cases same
  rw [content?_array read, below.length_eq]

/-- The list gets a new cell at an index. -/
theorem turnsHanding_setArray (take : d.Turns e [] [c] [v]) {index : Nat} (within : index ≤ items.length) :
    d.TurnsHanding (e.setArray slot ((e.array slot).take index ++ c :: (e.array slot).drop index)) ps (.array slot)
      (.array (items.insertIdx index v)) (some (.item index)) (some c) := by
  intro rest uses
  obtain ⟨new, tree, used, agrees⟩ := take (ps ++ rest) uses
  obtain ⟨cells, items, inner, same, rfl, read, below⟩ := (h.frame (agrees.mono (by simp))).array_inv
  cases same
  rw [content?_array read]
  have fits : index ≤ cells.length := by rwa [below.length_eq]
  have moved := used.of_perm (by grind : List.Perm _ (Place.array slot :: (inner ++ new ++ rest)))
  have wrote := e.wrote_setArray slot (cells.take index ++ c :: cells.drop index)
  have kept := wrote.agrees (List.nodup_cons.1 moved.nodup).1
  have written := wrote.uses moved (by simp)
  have holds := wrote.read (moved.mem_places (by simp))
  obtain ⟨left, right, before, behind, rfl, rfl, front, back⟩ : ∃ left right before behind,
      items = left ++ right ∧ inner = before ++ behind ∧ Forest e (cells.take index) left before ∧
        Forest e (cells.drop index) right behind := by
    rw [← List.take_append_drop index cells] at below
    exact below.split
  have length : left.length = index := by
    rw [← front.length_eq, List.length_take, Nat.min_eq_left fits]
  have whole := (front.append (tree.append back)).frame (kept.mono (by grind))
  rw [← length, insertIdx_length_append, length]
  refine ⟨_, .of_array holds whole, written.of_perm (by grind),
    (agrees.mono (by grind)).trans (kept.mono (by grind)), ?_⟩
  have atIndex : (cells.take index ++ c :: cells.drop index)[index]? = some c := by
    rw [List.getElem?_append_right (List.length_take_le index cells)]
    simp [Nat.min_eq_left fits]
  simp [Hands, child?, content?_array holds, atIndex]

theorem turnsHanding_insertCell (take : d.Turns e [] [c] [v]) {index : Nat} (within : index ≤ items.length)
    (same : e.array slot = d.array slot) :
    ∃ f, e.insertCell? slot index c = some f ∧
      d.TurnsHanding f ps (.array slot) (.array (items.insertIdx index v)) (some (.item index)) (some c) := by
  have fits : index ≤ (e.array slot).length := by rwa [same, length_array_eq h]
  exact ⟨_, if_pos fits, turnsHanding_setArray h take within⟩

theorem turnsHanding_pushCell (take : d.Turns e [] [c] [v]) :
    d.TurnsHanding (e.pushCell slot c) ps (.array slot) (.array (items.insertIdx items.length v))
      (some (.item items.length)) (some c) := by
  intro rest uses
  obtain ⟨new, tree, used, agrees⟩ := take (ps ++ rest) uses
  have length := length_array_eq (h.frame (agrees.mono (by simp)))
  have pushed := turnsHanding_setArray h take (Nat.le_refl _) rest uses
  rwa [← length, List.take_length, List.drop_length, length] at pushed

theorem turns_deleteItem (index : Nat) :
    d.Turns (d.deleteItem slot index) ps [.array slot] [.array (items.eraseIdx index)] := by
  intro rest uses
  obtain ⟨cells, items, inner, same, rfl, read, below⟩ := h.array_inv
  cases same
  rw [deleteItem, content?_array read]
  cases found : cells[index]? with
  | none =>
    have past : items.length ≤ index := by
      rw [← below.length_eq]
      exact List.getElem?_eq_none_iff.1 found
    rw [List.eraseIdx_of_length_le past]
    exact Turns.refl h rest uses
  | some old =>
    obtain ⟨w, here, others, -, tree, perm, -, without⟩ := below.item found
    have used := uses.of_perm (by grind : List.Perm _ (Place.array slot :: (here ++ (others ++ rest))))
    obtain ⟨freed, kept, holds⟩ := tree.releaseAll_wrote (d.wrote_setArray slot (cells.eraseIdx index)) used
    exact ⟨_, .of_array holds (without _ (kept.mono (by simp))), freed, kept.mono (by simp)⟩

theorem turns_clearArray : d.Turns (d.clearArray slot) ps [.array slot] [.array []] := by
  intro rest uses
  obtain ⟨cells, items, inner, same, rfl, read, below⟩ := h.array_inv
  obtain ⟨freed, kept, holds⟩ := below.releaseAll_wrote (d.wrote_setArray slot []) uses
  rw [clearArray, content?_array read]
  exact ⟨_, .of_array holds .nil, freed, kept⟩

end Array

/-! ## Any edit -/

theorem turnsHanding_dictEdit {entries : List (String × Value)} (h : Forest d [.dict slot] [.dict entries] ps)
    (edit : DictEdit) :
    d.TurnsHanding (edit.run d slot).1 ps (.dict slot) (.dict (edit.onEntries entries))
      ((edit.handle? entries).map Prod.fst) (edit.run d slot).2 := by
  cases edit with
  | setString key text => exact (turns_setString h key text).handing
  | updateString key text =>
    simp only [DictEdit.run, DictEdit.onEntries, updateString]
    split
    · exact (turns_deleteKey h key).handing
    · exact (turns_setString h key text).handing
  | setInteger key n => exact (turns_setInteger h key n).handing
  | setBool key b => exact (turns_setBool h key b).handing
  | newDict key => exact turns_newDict h key
  | newArray key => exact turns_newArray h key
  | deleteKey key => exact (turns_deleteKey h key).handing
  | clear => exact (turns_clearDict h).handing

theorem turnsHanding_arrayEdit {items items' : List Value} (h : Forest d [.array slot] [.array items] ps)
    {edit : ArrayEdit} (fits : edit.onItems? items = some items') :
    ∃ e handle, edit.run? d slot = some (e, handle) ∧
      d.TurnsHanding e ps (.array slot) (.array items') ((edit.handle? items).map Prod.fst) handle := by
  have within {index : Nat} {v : Value}
      (fits : (if index ≤ items.length then some (items.insertIdx index v) else none) = some items') :
      index ≤ items.length ∧ items.insertIdx index v = items' := by simpa using fits
  cases edit with
  | insertString index text =>
    obtain ⟨bound, rfl⟩ := within fits
    obtain ⟨e, stored, turns⟩ :=
      turnsHanding_insertCell h (d.turns_addString text) bound (array_addString d text slot)
    exact ⟨e, none, by simp [ArrayEdit.run?, insertString?, stored], turns.turns.handing⟩
  | insertInteger index n =>
    obtain ⟨bound, rfl⟩ := within fits
    obtain ⟨e, stored, turns⟩ := turnsHanding_insertCell h (.refl (.integer n .nil)) bound rfl
    exact ⟨e, none, by simp [ArrayEdit.run?, stored], turns.turns.handing⟩
  | insertBool index b =>
    obtain ⟨bound, rfl⟩ := within fits
    obtain ⟨e, stored, turns⟩ := turnsHanding_insertCell h (.refl (.bool b .nil)) bound rfl
    exact ⟨e, none, by simp [ArrayEdit.run?, stored], turns.turns.handing⟩
  | insertDict index =>
    obtain ⟨bound, rfl⟩ := within fits
    obtain ⟨e, stored, turns⟩ := turnsHanding_insertCell h d.turns_addDict bound (array_addDict d slot)
    exact ⟨e, _, by simp [ArrayEdit.run?, insertDict?, stored], turns⟩
  | insertArray index =>
    obtain ⟨bound, rfl⟩ := within fits
    obtain ⟨e, stored, turns⟩ := turnsHanding_insertCell h d.turns_addArray bound (array_addArray d slot)
    exact ⟨e, _, by simp [ArrayEdit.run?, insertArray?, stored], turns⟩
  | pushString text =>
    obtain ⟨-, rfl⟩ := within fits
    have turns := turnsHanding_pushCell h (d.turns_addString text)
    exact ⟨_, _, rfl, turns.turns.handing⟩
  | pushInteger n =>
    obtain ⟨-, rfl⟩ := within fits
    have turns := turnsHanding_pushCell h (.refl (.integer n .nil))
    exact ⟨_, _, rfl, turns.turns.handing⟩
  | pushBool b =>
    obtain ⟨-, rfl⟩ := within fits
    have turns := turnsHanding_pushCell h (.refl (.bool b .nil))
    exact ⟨_, _, rfl, turns.turns.handing⟩
  | pushDict =>
    obtain ⟨-, rfl⟩ := within fits
    exact ⟨_, _, rfl, turnsHanding_pushCell h d.turns_addDict⟩
  | pushArray =>
    obtain ⟨-, rfl⟩ := within fits
    exact ⟨_, _, rfl, turnsHanding_pushCell h d.turns_addArray⟩
  | deleteItem index =>
    obtain rfl := Option.some.inj fits
    exact ⟨_, _, rfl, (turns_deleteItem h index).handing⟩
  | clear =>
    obtain rfl := Option.some.inj fits
    exact ⟨_, _, rfl, (turns_clearArray h).handing⟩

/-- An edit that makes something of a container's value makes a tree of that out of the container's. -/
theorem turnsHanding_edit {container : Cell} {v w : Value} (h : Forest d [container] [v] ps) {edit : Edit}
    (fits : edit.onValue? v = some w) :
    ∃ e handle, edit.run? d container = some (e, handle) ∧
      d.TurnsHanding e ps container w ((edit.handle? v).map Prod.fst) handle := by
  cases edit with
  | dict edit =>
    cases h with
    | @dict slot es entries inner _ _ _ read distinct keys below behind =>
      cases behind
      obtain rfl := Option.some.inj fits
      exact ⟨_, _, rfl, turnsHanding_dictEdit (.dict read distinct keys below .nil) edit⟩
    | _ => cases fits
  | array edit =>
    cases h with
    | @array slot cells items inner _ _ _ read below behind =>
      cases behind
      obtain ⟨items', made, rfl⟩ := Option.map_eq_some_iff.1 fits
      exact turnsHanding_arrayEdit (.array read below .nil) made
    | _ => cases fits

/-- An edit that makes nothing of a container's value does not run on the container. -/
theorem run?_eq_none_of_onValue? {container : Cell} {v : Value} (h : Forest d [container] [v] ps) {edit : Edit}
    (fails : edit.onValue? v = none) : edit.run? d container = none := by
  cases edit with
  | dict edit =>
    cases h with
    | dict => cases fails
    | _ => rfl
  | array edit =>
    cases h with
    | @array slot cells items inner _ _ _ read below behind =>
      cases behind
      have length := length_array_eq (.array read below .nil)
      have past : edit.onItems? items = none := by simpa [Edit.onValue?] using fails
      cases edit with
      | insertString | insertInteger | insertBool | insertDict | insertArray =>
        have beyond := by simpa [ArrayEdit.onItems?, ArrayEdit.inserted?] using past
        simp [Edit.run?, ArrayEdit.run?, insertString?, insertDict?, insertArray?, insertCell?, array_addString,
          array_addDict, array_addArray, length, beyond]
      | pushString | pushInteger | pushBool | pushDict | pushArray =>
        simp [ArrayEdit.onItems?, ArrayEdit.inserted?] at past
      | deleteItem | clear => cases past
    | _ => rfl

end Document

end EditorBundles.PropertyList
