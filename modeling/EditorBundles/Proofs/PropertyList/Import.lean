import EditorBundles.Proofs.PropertyList.Edits

/-!
# What storing and importing whole values does to trees

A nested value is stored from the outside in: a container gets its cell first and its content after
it. `Value.merged` and the `with…` operations say what comes of that as a value: the same value, but
for keys that repeat. A JSON object is written over what a dictionary holds in the same way.
-/

namespace EditorBundles.PropertyList
set_option autoImplicit false
open Document (Agrees Uses)

namespace Value

mutual

/-- The value that a dictionary with repeated keys comes to, at all depths: the last value of a key
stands where the key stood first. -/
def merged : Value → Value
  | .string s => .string s
  | .integer n => .integer n
  | .bool b => .bool b
  | .array items => .array (mergedItems items)
  | .dict entries => .dict (withEntries [] entries)

/-- Every item with its repeated keys merged. -/
def mergedItems : List Value → List Value
  | [] => []
  | v :: rest => merged v :: mergedItems rest

/-- The entries after others have been put, one after the other. -/
def withEntries (entries : List (String × Value)) : List (String × Value) → List (String × Value)
  | [] => entries
  | (key, v) :: rest => withEntries (Entries.put entries key (merged v)) rest

end

mutual

/-- The entries after a JSON value has been written at a key: an object is written over the dictionary
that is there, and an array goes behind the items that are there. -/
def withMember (entries : List (String × Value)) (key : String) : Json → List (String × Value)
  | .string s => Entries.put entries key (.string s)
  | .bool b => Entries.put entries key (.bool b)
  | .integer n => match int64OfInt? n with
    | some n => Entries.put entries key (.integer n)
    | none => entries
  | .object members => Entries.put entries key (.dict (withMembers (DictEdit.dictAt entries key) members))
  | .array items => Entries.put entries key (.array (withItems (DictEdit.arrayAt entries key) items))
  | .null => entries
  | .decimal _ => entries

/-- The entries after the members of a JSON object have been written. -/
def withMembers (entries : List (String × Value)) : List (String × Json) → List (String × Value)
  | [] => entries
  | (key, j) :: rest => withMembers (withMember entries key j) rest

/-- The items after a JSON value has been written behind them. -/
def withItem (items : List Value) : Json → List Value
  | .string s => items ++ [.string s]
  | .bool b => items ++ [.bool b]
  | .integer n => match int64OfInt? n with
    | some n => items ++ [.integer n]
    | none => items
  | .object members => items ++ [.dict (withMembers [] members)]
  | .array elements => items ++ [.array (withItems [] elements)]
  | .null => items
  | .decimal _ => items

/-- The items after the items of a JSON array have been written behind them. -/
def withItems (items : List Value) : List Json → List Value
  | [] => items
  | j :: rest => withItems (withItem items j) rest

end

end Value

namespace Document

variable {d e f : Document} {slot : Nat} {c container : Cell} {v w x x' : Value} {ps : List Place}

/-! ## One turn after another -/

theorem Turns.andThen {cells cells' : List Cell} {values values' : List Value} (first : d.Turns e ps cells values)
    (second : ∀ ps', Forest e cells values ps' → e.Turns f ps' cells' values') : d.Turns f ps cells' values' := by
  intro rest uses
  obtain ⟨ps', forest, used, agrees⟩ := first rest uses
  obtain ⟨ps'', forest', used', agrees'⟩ := second ps' forest rest used
  exact ⟨ps'', forest', used', agrees.trans agrees'⟩

/-- A cell that was handed out is turned in its turn, and the container with it. -/
theorem TurnsHanding.below {step : Step} (first : d.TurnsHanding e ps container w (some step) (some c))
    (child : w.child? step = some x) (deeper : ∀ ps', Forest e [c] [x] ps' → e.Turns f ps' [c] [x']) :
    d.Turns f ps [container] [w.setChild x' step] := by
  intro rest uses
  obtain ⟨ps', forest, used, agrees, hands⟩ := first rest uses
  obtain ⟨x₀, here, others, child₀, tree, perm, refill⟩ := forest.child hands
  obtain rfl : x = x₀ := Option.some.inj (child.symm.trans child₀)
  have moved : e.Uses (here ++ (others ++ rest)) := used.of_perm (by grind)
  obtain ⟨here', tree', used', agrees'⟩ := deeper here tree (others ++ rest) moved
  obtain ⟨-, ps'', whole, perm'⟩ := refill f x' here' (agrees'.mono (by simp)) tree'
  exact ⟨ps'', whole, used'.of_perm (by grind), agrees.trans (agrees'.mono (by simp))⟩

/-! ## Whole values -/

theorem turns_pushCell {items : List Value} (h : Forest d [.array slot] [.array items] ps)
    (take : d.Turns e [] [c] [v]) : d.Turns (e.pushCell slot c) ps [.array slot] [.array (items ++ [v])] := by
  have pushed := (turnsHanding_pushCell h take).turns
  rwa [List.insertIdx_length_self] at pushed

mutual

/-- A stored value takes cells of its own. -/
theorem turns_addValue (d : Document) (v : Value) :
    d.Turns (d.addValue v).1 [] [(d.addValue v).2] [v.merged] := by
  match v with
  | .string s => exact d.turns_addString s
  | .integer n => exact .refl (.integer n .nil)
  | .bool b => exact .refl (.bool b .nil)
  | .array items => exact d.turns_addArray.andThen fun _ tree => turns_addItems _ _ items tree
  | .dict entries => exact d.turns_addDict.andThen fun _ tree => turns_addEntries _ _ entries tree

theorem turns_addItems (d : Document) (slot : Nat) (added : List Value) {items : List Value} {ps : List Place}
    (h : Forest d [.array slot] [.array items] ps) :
    d.Turns (d.addItems slot added) ps [.array slot] [.array (items ++ Value.mergedItems added)] := by
  match added with
  | [] => simpa [addItems, Value.mergedItems] using Turns.refl h
  | v :: rest =>
    have pushed := turns_pushCell h (turns_addValue d v)
    simpa [addItems, Value.mergedItems] using pushed.andThen fun _ tree => turns_addItems _ _ rest tree

theorem turns_addEntries (d : Document) (slot : Nat) (added : List (String × Value))
    {entries : List (String × Value)} {ps : List Place} (h : Forest d [.dict slot] [.dict entries] ps) :
    d.Turns (d.addEntries slot added) ps [.dict slot] [.dict (Value.withEntries entries added)] := by
  match added with
  | [] => exact .refl h
  | (key, v) :: rest =>
    have stored := (turnsHanding_replace h (turns_addValue d v) key).turns
    exact stored.andThen fun _ tree => turns_addEntries _ _ rest tree

end

/-! ## JSON -/

theorem turns_pushString {items : List Value} (h : Forest d [.array slot] [.array items] ps) (text : String) :
    d.Turns (d.pushString slot text) ps [.array slot] [.array (items ++ [.string text])] :=
  turns_pushCell h (d.turns_addString text)

theorem turnsHanding_pushDict {items : List Value} (h : Forest d [.array slot] [.array items] ps) :
    d.TurnsHanding (d.pushDict slot).1 ps (.array slot) (.array (items ++ [.dict []])) (some (.item items.length))
      (some (.dict (d.pushDict slot).2)) := by
  have pushed := turnsHanding_pushCell h d.turns_addDict
  rwa [List.insertIdx_length_self] at pushed

theorem turnsHanding_pushArray {items : List Value} (h : Forest d [.array slot] [.array items] ps) :
    d.TurnsHanding (d.pushArray slot).1 ps (.array slot) (.array (items ++ [.array []])) (some (.item items.length))
      (some (.array (d.pushArray slot).2)) := by
  have pushed := turnsHanding_pushCell h d.turns_addArray
  rwa [List.insertIdx_length_self] at pushed

mutual

theorem turns_importMember (d : Document) (slot : Nat) (key : String) (json : Json)
    {entries : List (String × Value)}
    {ps : List Place} (h : Forest d [.dict slot] [.dict entries] ps) :
    d.Turns (d.importMember slot key json) ps [.dict slot] [.dict (Value.withMember entries key json)] := by
  match json with
  | .string s => exact turns_setString h key s
  | .bool b => exact turns_setBool h key b
  | .integer n =>
    rw [importMember, Value.withMember]
    cases int64OfInt? n with
    | some n => exact turns_setInteger h key n
    | none => exact .refl h
  | .null => exact .refl h
  | .decimal _ => exact .refl h
  | .object members =>
    have imported := (turns_newDict h key).below (Entries.get?_put_self _ _ _)
      fun _ tree => turns_importMembers _ _ members tree
    simpa [importMember, Value.setChild, Value.withMember] using imported
  | .array elements =>
    have imported := (turns_newArray h key).below (Entries.get?_put_self _ _ _)
      fun _ tree => turns_importItems _ _ elements tree
    simpa [importMember, Value.setChild, Value.withMember] using imported

theorem turns_importMembers (d : Document) (slot : Nat) (members : List (String × Json))
    {entries : List (String × Value)} {ps : List Place} (h : Forest d [.dict slot] [.dict entries] ps) :
    d.Turns (d.importMembers slot members) ps [.dict slot] [.dict (Value.withMembers entries members)] := by
  match members with
  | [] => exact .refl h
  | (key, j) :: rest =>
    exact (turns_importMember d slot key j h).andThen fun _ tree => turns_importMembers _ _ rest tree

theorem turns_importItem (d : Document) (slot : Nat) (json : Json) {items : List Value} {ps : List Place}
    (h : Forest d [.array slot] [.array items] ps) :
    d.Turns (d.importItem slot json) ps [.array slot] [.array (Value.withItem items json)] := by
  match json with
  | .string s => exact turns_pushString h s
  | .bool b => exact turns_pushCell h (.refl (.bool b .nil))
  | .integer n =>
    rw [importItem, Value.withItem]
    cases int64OfInt? n with
    | some n => exact turns_pushCell h (.refl (.integer n .nil))
    | none => exact .refl h
  | .null => exact .refl h
  | .decimal _ => exact .refl h
  | .object members =>
    have imported := (turnsHanding_pushDict h).below List.getElem?_concat_length
      fun _ tree => turns_importMembers _ _ members tree
    simpa [importItem, Value.setChild, Value.withItem] using imported
  | .array elements =>
    have imported := (turnsHanding_pushArray h).below List.getElem?_concat_length
      fun _ tree => turns_importItems _ _ elements tree
    simpa [importItem, Value.setChild, Value.withItem] using imported

theorem turns_importItems (d : Document) (slot : Nat) (elements : List Json) {items : List Value}
    {ps : List Place}
    (h : Forest d [.array slot] [.array items] ps) :
    d.Turns (d.importItems slot elements) ps [.array slot] [.array (Value.withItems items elements)] := by
  match elements with
  | [] => exact .refl h
  | j :: rest => exact (turns_importItem d slot j h).andThen fun _ tree => turns_importItems _ _ rest tree

end

theorem turns_deleteKeys {entries : List (String × Value)} (h : Forest d [.dict slot] [.dict entries] ps)
    (keys : List String) :
    d.Turns (keys.foldl (fun d key => d.deleteKey slot key) d) ps [.dict slot] [.dict (keys.foldl Entries.erase entries)] := by
  induction keys generalizing d entries ps with
  | nil => exact .refl h
  | cons key keys ih => exact (turns_deleteKey h key).andThen fun _ tree => ih tree

/-- The keys of a dictionary are those of its value. -/
theorem keys_dict {entries : List (String × Value)} (h : Forest d [.dict slot] [.dict entries] ps) :
    Entries.keys (d.dict slot) = Entries.keys entries ∧ (Entries.keys entries).Nodup := by
  obtain ⟨es, entries, inner, same, rfl, read, distinct, keys, below⟩ := h.dict_inv
  cases same
  rw [content?_dict read, keys]
  exact ⟨rfl, distinct⟩

/-- A JSON object that is imported takes the place of all entries but those that are kept. -/
theorem turns_setJson {entries : List (String × Value)} (h : Forest d [.dict slot] [.dict entries] ps)
    {json : Json} {strip : Bool} (imported : d.setJson slot json strip = .ok e) :
    ∃ members, json = .object members ∧ membersFault? "" members = none ∧
      d.Turns e ps [.dict slot]
        [.dict (Value.withMembers (entries.filter fun entry => strip ∧ entry.1 ∈ identityKeys)
          (members.filter fun member => ¬ (strip ∧ member.1 ∈ identityKeys)))] := by
  cases json with
  | object members =>
    simp only [setJson] at imported
    cases faults : membersFault? "" members with
    | some fault => simp [faults] at imported
    | none =>
      simp only [faults, Except.ok.injEq] at imported
      subst imported
      obtain ⟨keys, distinct⟩ := keys_dict h
      refine ⟨members, rfl, faults, ?_⟩
      have erased := turns_deleteKeys h ((Entries.keys (d.dict slot)).filter
        fun key => ¬ (strip ∧ key ∈ identityKeys))
      rw [keys, Entries.foldl_erase_filter distinct] at erased
      rw [keys]
      simpa using erased.andThen fun _ tree => turns_importMembers _ _ _ tree
  | _ => simp [setJson] at imported

end Document

end EditorBundles.PropertyList
