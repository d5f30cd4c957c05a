import EditorBundles.Proofs.PropertyList.Importing

/-!
# Imports that are refused

A JSON value is refused if it is no object, or if some value inside it, at whatever depth and under whatever key,
is null or a number that is no whole number of 64 bits. The fault tells where the first of these stands in the
order of the text. What is accepted is exactly the JSON of a dictionary, and a document that is edited in place is
left as it was by an import that is refused.
-/

namespace EditorBundles
set_option autoImplicit false
open PropertyList (Step)

namespace Json

/-- What is wrong with a value that no property list can hold, whatever stands inside it. -/
def misfit? : Json → Option String
  | .null => some "null"
  | .decimal _ => some "non-integer number"
  | .integer n => if -0x8000000000000000 ≤ n ∧ n < 0x8000000000000000 then none else some "non-integer number"
  | _ => none

/-- What is wrong with a value that is to be the content of a dictionary and is no object. -/
def shape : Json → String
  | .null => "null"
  | .array _ => "array at the top level"
  | _ => "scalar at the top level"

mutual

/-- A value and the values inside it in the order of the text, each with the steps that lead to it. -/
def places : Json → List (List Step × Json)
  | .array items => ([], .array items) :: itemPlaces 0 items
  | .object members => ([], .object members) :: memberPlaces members
  | j => [([], j)]

/-- The values inside the items of an array from `index` on. -/
def itemPlaces (index : Nat) : List Json → List (List Step × Json)
  | [] => []
  | j :: rest => (places j).map (fun place => (.item index :: place.1, place.2)) ++ itemPlaces (index + 1) rest

/-- The values inside the members of an object. -/
def memberPlaces : List (String × Json) → List (List Step × Json)
  | [] => []
  | (key, j) :: rest => (places j).map (fun place => (.key key :: place.1, place.2)) ++ memberPlaces rest

end

/-- The steps lead from one value to another one inside it. -/
inductive Leads : Json → List Step → Json → Prop where
  | here (j : Json) : Leads j [] j
  | item {items : List Json} {index : Nat} {j inner : Json} {steps : List Step} (found : items[index]? = some j)
      (below : Leads j steps inner) : Leads (.array items) (.item index :: steps) inner
  | member {members : List (String × Json)} {key : String} {j inner : Json} {steps : List Step}
      (found : (key, j) ∈ members) (below : Leads j steps inner) : Leads (.object members) (.key key :: steps) inner

mutual

theorem leads_of_mem_places {j inner : Json} {steps : List Step} (member : (steps, inner) ∈ j.places) :
    j.Leads steps inner := by
  match j with
  | .array items =>
    rw [places, List.mem_cons] at member
    rcases member with same | below
    · cases same
      exact .here _
    · obtain ⟨index, j, rest, found, rfl, leads⟩ := leads_of_mem_itemPlaces below
      rw [Nat.zero_add]
      exact .item found leads
  | .object members =>
    rw [places, List.mem_cons] at member
    rcases member with same | below
    · cases same
      exact .here _
    · obtain ⟨key, j, rest, found, rfl, leads⟩ := leads_of_mem_memberPlaces below
      exact .member found leads
  | .null | .bool _ | .integer _ | .decimal _ | .string _ =>
    cases List.mem_singleton.1 member
    exact .here _

theorem leads_of_mem_itemPlaces {items : List Json} {first : Nat} {inner : Json} {steps : List Step}
    (member : (steps, inner) ∈ itemPlaces first items) :
    ∃ index j rest, items[index]? = some j ∧ steps = .item (first + index) :: rest ∧ j.Leads rest inner := by
  match items with
  | [] => cases member
  | j :: others =>
    rw [itemPlaces, List.mem_append, List.mem_map] at member
    rcases member with ⟨⟨rest, _⟩, below, same⟩ | later
    · cases same
      exact ⟨0, j, rest, rfl, rfl, leads_of_mem_places below⟩
    · obtain ⟨index, j, rest, found, rfl, leads⟩ := leads_of_mem_itemPlaces later
      exact ⟨index + 1, j, rest, found, by rw [Nat.add_assoc, Nat.add_comm 1], leads⟩

theorem leads_of_mem_memberPlaces {members : List (String × Json)} {inner : Json} {steps : List Step}
    (member : (steps, inner) ∈ memberPlaces members) :
    ∃ key j rest, (key, j) ∈ members ∧ steps = .key key :: rest ∧ j.Leads rest inner := by
  match members with
  | [] => cases member
  | (key, j) :: others =>
    rw [memberPlaces, List.mem_append, List.mem_map] at member
    rcases member with ⟨⟨rest, _⟩, below, same⟩ | later
    · cases same
      exact ⟨key, j, rest, List.mem_cons_self, rfl, leads_of_mem_places below⟩
    · obtain ⟨key, j, rest, found, same, leads⟩ := leads_of_mem_memberPlaces later
      exact ⟨key, j, rest, List.mem_cons_of_mem _ found, same, leads⟩

end

/-- What stands inside an item stands inside the array. -/
theorem mem_itemPlaces {items : List Json} {index : Nat} {j inner : Json} {steps : List Step} (first : Nat)
    (found : items[index]? = some j) (below : (steps, inner) ∈ j.places) :
    (.item (first + index) :: steps, inner) ∈ itemPlaces first items := by
  induction items generalizing first index with
  | nil => cases found
  | cons head rest ih =>
    rw [itemPlaces, List.mem_append, List.mem_map]
    cases index with
    | zero =>
      cases found
      exact .inl ⟨_, below, rfl⟩
    | succ index =>
      rw [show first + (index + 1) = first + 1 + index by omega]
      exact .inr (ih (first + 1) found)

/-- What stands inside a member stands inside the object. -/
theorem mem_memberPlaces {members : List (String × Json)} {key : String} {j inner : Json} {steps : List Step}
    (found : (key, j) ∈ members) (below : (steps, inner) ∈ j.places) :
    (.key key :: steps, inner) ∈ memberPlaces members := by
  induction members with
  | nil => cases found
  | cons head rest ih =>
    rw [memberPlaces, List.mem_append, List.mem_map]
    rcases List.mem_cons.1 found with rfl | later
    · exact .inl ⟨_, below, rfl⟩
    · exact .inr (ih later)

/-- The places of a value are those that steps lead to. -/
theorem mem_places_iff {j inner : Json} {steps : List Step} : (steps, inner) ∈ j.places ↔ j.Leads steps inner := by
  refine ⟨leads_of_mem_places, fun leads => ?_⟩
  induction leads with
  | here j => cases j <;> exact List.mem_cons_self
  | @item items index j inner steps found _ ih =>
    have member := mem_itemPlaces 0 found ih
    rw [Nat.zero_add] at member
    exact List.mem_cons_of_mem _ member
  | member found _ ih => exact List.mem_cons_of_mem _ (mem_memberPlaces found ih)

end Json

namespace PropertyList
open Json

/-- How a step is written in a path. -/
def Step.text : Step → String
  | .key name => name
  | .item index => toString index

/-- A path that goes on by steps, with a slash before each. -/
def pathText (path : String) (steps : List Step) : String := steps.foldl (fun path step => path ++ "/" ++ step.text) path

/-- A fault refuses a JSON value: it is no object, or the fault tells of the first misfit inside it. -/
inductive Refused : Json → ImportFault → Prop where
  | shape {json : Json} (other : ∀ members, json ≠ .object members) : Refused json ⟨"", json.shape⟩
  | misfit {members : List (String × Json)} {before behind : List (List Step × Json)} {steps : List Step} {j : Json}
      {kind : String} (order : (Json.object members).places = before ++ (steps, j) :: behind)
      (fitting : ∀ place ∈ before, place.2.misfit? = none) (misfit : j.misfit? = some kind) :
      Refused (.object members) ⟨pathText "" steps, kind⟩

/-! ## The first misfit -/

/-- The fault of a place, seen from a path. -/
def faultAt? (path : String) (place : List Step × Json) : Option ImportFault :=
  place.2.misfit?.map fun kind => ⟨pathText path place.1, kind⟩

theorem findSome?_faultAt?_below (path : String) (step : Step) (places : List (List Step × Json)) :
    (places.map fun place => (step :: place.1, place.2)).findSome? (faultAt? path) =
      places.findSome? (faultAt? (path ++ "/" ++ step.text)) := by
  rw [List.findSome?_map]
  rfl

mutual

/-- The fault of a value is that of the first misfit in the order of the text. -/
theorem importFault?_eq (path : String) (json : Json) :
    importFault? path json = json.places.findSome? (faultAt? path) := by
  match json with
  | .null => rfl
  | .bool _ => rfl
  | .decimal _ => rfl
  | .string _ => rfl
  | .integer n =>
    by_cases fits : -0x8000000000000000 ≤ n ∧ n < 0x8000000000000000
    · simp [importFault?, int64OfInt?, places, faultAt?, misfit?, fits]
    · simp [importFault?, int64OfInt?, places, faultAt?, misfit?, fits, pathText]
  | .array items =>
    rw [importFault?, itemsFault?_eq, places, List.findSome?_cons]
    rfl
  | .object members =>
    rw [importFault?, membersFault?_eq, places, List.findSome?_cons]
    rfl

theorem itemsFault?_eq (path : String) (index : Nat) (items : List Json) :
    itemsFault? path index items = (itemPlaces index items).findSome? (faultAt? path) := by
  match items with
  | [] => rfl
  | j :: rest =>
    rw [itemsFault?, itemPlaces, List.findSome?_append, findSome?_faultAt?_below, Step.text, importFault?_eq,
      itemsFault?_eq]

theorem membersFault?_eq (path : String) (members : List (String × Json)) :
    membersFault? path members = (memberPlaces members).findSome? (faultAt? path) := by
  match members with
  | [] => rfl
  | (key, j) :: rest =>
    rw [membersFault?, memberPlaces, List.findSome?_append, findSome?_faultAt?_below, Step.text, importFault?_eq,
      membersFault?_eq]

end

/-- The fault of an object is that of the first misfit inside it. -/
theorem membersFault?_eq_findSome? (members : List (String × Json)) :
    membersFault? "" members = (Json.object members).places.findSome? (faultAt? "") :=
  importFault?_eq "" (.object members)

/-- An object has the faults that refuse it. -/
theorem membersFault?_eq_some_iff {members : List (String × Json)} {fault : ImportFault} :
    membersFault? "" members = some fault ↔ Refused (.object members) fault := by
  rw [membersFault?_eq_findSome?, List.findSome?_eq_some_iff]
  constructor
  · rintro ⟨before, ⟨steps, j⟩, behind, order, here, earlier⟩
    obtain ⟨kind, misfit, rfl⟩ := Option.map_eq_some_iff.1 here
    exact .misfit order (fun place member => Option.map_eq_none_iff.1 (earlier place member)) misfit
  · intro refused
    cases refused with
    | shape other => exact absurd rfl (other members)
    | misfit order fitting misfit =>
      refine ⟨_, _, _, order, ?_, fun place member => Option.map_eq_none_iff.2 (fitting place member)⟩
      rw [faultAt?, misfit]
      rfl

/-- A value is refused exactly if it is no object or a misfit stands somewhere inside it. -/
theorem exists_refused_iff {json : Json} : (∃ fault, Refused json fault) ↔
    (∀ members, json ≠ .object members) ∨ ∃ steps j kind, json.Leads steps j ∧ j.misfit? = some kind := by
  constructor
  · rintro ⟨fault, refused⟩
    cases refused with
    | shape other => exact .inl other
    | @misfit members before behind steps j kind order _ misfit =>
      have member : (steps, j) ∈ (Json.object members).places := by
        rw [order]
        exact List.mem_append_right _ List.mem_cons_self
      exact .inr ⟨steps, j, kind, mem_places_iff.1 member, misfit⟩
  · rintro (other | ⟨steps, j, kind, leads, misfit⟩)
    · exact ⟨_, .shape other⟩
    · cases json with
      | object members =>
        have some_ : (membersFault? "" members).isSome = true := by
          rw [membersFault?_eq_findSome?, List.findSome?_isSome_iff]
          refine ⟨_, mem_places_iff.2 leads, ?_⟩
          rw [faultAt?, misfit]
          rfl
        obtain ⟨fault, found⟩ := Option.isSome_iff_exists.1 some_
        exact ⟨fault, membersFault?_eq_some_iff.1 found⟩
      | _ => exact ⟨_, .shape (by simp)⟩

/-! ## What is accepted -/

mutual

/-- A value without a misfit inside it is the JSON of a value of a property list. -/
theorem exists_toJson_eq {path : String} {json : Json} (accepted : importFault? path json = none) :
    ∃ v : Value, v.toJson = json := by
  match json with
  | .null => cases accepted
  | .decimal _ => cases accepted
  | .bool b => exact ⟨.bool b, rfl⟩
  | .string s => exact ⟨.string s, rfl⟩
  | .integer n =>
    by_cases fits : -0x8000000000000000 ≤ n ∧ n < 0x8000000000000000
    · obtain ⟨m, -, same⟩ := exists_int64_of_fits fits
      exact ⟨.integer m, congrArg Json.integer same⟩
    · simp [importFault?, int64OfInt?, fits] at accepted
  | .array items =>
    obtain ⟨values, same⟩ := exists_itemsToJson_eq accepted
    exact ⟨.array values, congrArg Json.array same⟩
  | .object members =>
    obtain ⟨entries, same⟩ := exists_entriesToJson_eq accepted
    exact ⟨.dict entries, congrArg Json.object same⟩

theorem exists_itemsToJson_eq {path : String} {index : Nat} {items : List Json}
    (accepted : itemsFault? path index items = none) : ∃ values, Value.itemsToJson values = items := by
  match items with
  | [] => exact ⟨[], rfl⟩
  | j :: rest =>
    obtain ⟨first, later⟩ := Option.or_eq_none_iff.1 accepted
    obtain ⟨v, rfl⟩ := exists_toJson_eq first
    obtain ⟨values, rfl⟩ := exists_itemsToJson_eq later
    exact ⟨v :: values, rfl⟩

theorem exists_entriesToJson_eq {path : String} {members : List (String × Json)}
    (accepted : membersFault? path members = none) : ∃ entries, Value.entriesToJson entries = members := by
  match members with
  | [] => exact ⟨[], rfl⟩
  | (key, j) :: rest =>
    obtain ⟨first, later⟩ := Option.or_eq_none_iff.1 accepted
    obtain ⟨v, rfl⟩ := exists_toJson_eq first
    obtain ⟨entries, rfl⟩ := exists_entriesToJson_eq later
    exact ⟨(key, v) :: entries, rfl⟩

end

mutual

/-- The JSON of a value has no misfit inside it. -/
theorem importFault?_toJson (path : String) (v : Value) : importFault? path v.toJson = none := by
  match v with
  | .string _ => rfl
  | .bool _ => rfl
  | .integer n =>
    have fits : -0x8000000000000000 ≤ n.toInt ∧ n.toInt < 0x8000000000000000 := ⟨n.le_toInt, n.toInt_lt⟩
    simp [Value.toJson, importFault?, int64OfInt?, fits]
  | .array items => exact itemsFault?_itemsToJson path 0 items
  | .dict entries => exact membersFault?_entriesToJson path entries

theorem itemsFault?_itemsToJson (path : String) (index : Nat) (items : List Value) :
    itemsFault? path index (Value.itemsToJson items) = none := by
  match items with
  | [] => rfl
  | v :: rest =>
    rw [Value.itemsToJson, itemsFault?, importFault?_toJson, itemsFault?_itemsToJson]
    rfl

theorem membersFault?_entriesToJson (path : String) (entries : List (String × Value)) :
    membersFault? path (Value.entriesToJson entries) = none := by
  match entries with
  | [] => rfl
  | (key, v) :: rest =>
    rw [Value.entriesToJson, membersFault?, importFault?_toJson, membersFault?_entriesToJson]
    rfl

end

/-- Exactly the JSON of dictionaries is accepted. -/
theorem not_refused_iff {json : Json} : (∀ fault, ¬ Refused json fault) ↔ ∃ entries, dictToJson false entries = json := by
  constructor
  · intro accepted
    cases json with
    | object members =>
      have none_ : membersFault? "" members = none := by
        refine Option.eq_none_iff_forall_ne_some.2 fun fault found => ?_
        exact accepted fault (membersFault?_eq_some_iff.1 found)
      obtain ⟨entries, same⟩ := exists_entriesToJson_eq none_
      exact ⟨entries, congrArg Json.object same⟩
    | _ => exact absurd (.shape (by simp)) (accepted _)
  · rintro ⟨entries, rfl⟩ fault refused
    have found := membersFault?_eq_some_iff.2 refused
    rw [show (if false = true then _ else entries) = entries from rfl, membersFault?_entriesToJson] at found
    cases found

/-! ## Editing in place -/

namespace Document

/-- Replacing the content of a dictionary as a program that edits a document in place: what it has changed before a
fault stays changed. -/
def importInPlace (slot : Nat) (json : Json) (strip : Bool) : ExceptT ImportFault (StateM Document) Unit := do
  let members ← match json with
    | .object members => pure members
    | _ => throw ⟨"", json.shape⟩
  if let some fault := importFault? "" json then
    throw fault
  let kept := fun key => strip ∧ key ∈ identityKeys
  let doomed := (Entries.keys ((← get).dict slot)).filter fun key => ¬ kept key
  doomed.forM fun key => modify fun d => d.deleteKey slot key
  (members.filter fun member => ¬ kept member.1).forM fun member => modify fun d => d.importMember slot member.1 member.2

theorem importMembers_eq_foldl (d : Document) (slot : Nat) (members : List (String × Json)) :
    d.importMembers slot members = members.foldl (fun d member => d.importMember slot member.1 member.2) d := by
  induction members generalizing d with
  | nil => rfl
  | cons member rest ih => exact ih _

/-- Changes that are made one after the other. -/
theorem run_forM_modify {α : Type} (change : Document → α → Document) (steps : List α) (d : Document) :
    (steps.forM fun step => modify fun d => change d step : ExceptT ImportFault (StateM Document) PUnit).run d =
      (.ok (), steps.foldl change d) := by
  induction steps generalizing d with
  | nil => rfl
  | cons step rest ih => exact ih (change d step)

/-- What comes after a step that succeeds starts from the document the step leaves. -/
theorem run_bind_of_ok {α : Type} {first : ExceptT ImportFault (StateM Document) Unit}
    {second : ExceptT ImportFault (StateM Document) α} {d e : Document} (done : first.run d = (.ok (), e)) :
    (first >>= fun _ => second).run d = second.run e := by
  have unfolded : (first >>= fun _ => second).run d =
      ExceptT.bindCont (fun _ => second) (first.run d).1 (first.run d).2 := rfl
  rw [unfolded, done]
  rfl

/-- Editing in place comes to the document that the import gives, or to the document that was there. -/
theorem run_importInPlace (d : Document) (slot : Nat) (json : Json) (strip : Bool) :
    (importInPlace slot json strip).run d =
      match d.setJson slot json strip with
      | .ok e => (.ok (), e)
      | .error fault => (.error fault, d) := by
  cases json with
  | object members =>
    cases faults : membersFault? "" members with
    | some fault =>
      simp [importInPlace, setJson, importFault?, faults]
      rfl
    | none =>
      simp only [importInPlace, setJson, importFault?, faults]
      refine (run_bind_of_ok (run_forM_modify _ _ _)).trans ?_
      rw [run_forM_modify, importMembers_eq_foldl]
  | _ => rfl

/-- The faults of an import are those that refuse the value. -/
theorem setJson_eq_error_iff {d : Document} {slot : Nat} {json : Json} {strip : Bool} {fault : ImportFault} :
    d.setJson slot json strip = .error fault ↔ Refused json fault := by
  cases json with
  | object members =>
    rw [← membersFault?_eq_some_iff, setJson]
    cases membersFault? "" members <;> simp
  | _ =>
    refine ⟨fun failed => ?_, fun refused => ?_⟩
    · cases failed
      exact .shape (by simp)
    · cases refused
      rfl

/-- An import succeeds exactly if nothing refuses the value. -/
theorem exists_setJson_eq_ok_iff {d : Document} {slot : Nat} {json : Json} {strip : Bool} :
    (∃ e, d.setJson slot json strip = .ok e) ↔ ∀ fault, ¬ Refused json fault := by
  cases outcome : d.setJson slot json strip with
  | error fault => simpa using ⟨fault, setJson_eq_error_iff.1 outcome⟩
  | ok e =>
    refine iff_of_true ⟨e, rfl⟩ fun fault refused => ?_
    have failed : d.setJson slot json strip = .error fault := setJson_eq_error_iff.2 refused
    rw [outcome] at failed
    cases failed

/-- An import is refused exactly if the value is no object or a misfit stands somewhere inside it, whatever the
dictionary holds and whether its identity keys stay or not; the fault tells of the first misfit. All other values are
the JSON of a dictionary and are imported. Editing in place comes to the same document, and one whose import is refused
is as it was. -/
theorem setJson_refused_iff (d : Document) (slot : Nat) (json : Json) (strip : Bool) :
    (∀ fault, d.setJson slot json strip = .error fault ↔ Refused json fault) ∧
      ((∃ fault, Refused json fault) ↔
        (∀ members, json ≠ .object members) ∨ ∃ steps j kind, json.Leads steps j ∧ j.misfit? = some kind) ∧
      ((∃ e, d.setJson slot json strip = .ok e) ↔ ∃ entries, dictToJson false entries = json) ∧
      (∀ fault e, (importInPlace slot json strip).run d = (.error fault, e) ↔ Refused json fault ∧ e = d) ∧
      ∀ e, (importInPlace slot json strip).run d = (.ok (), e) ↔ d.setJson slot json strip = .ok e := by
  refine ⟨fun fault => setJson_eq_error_iff, exists_refused_iff, exists_setJson_eq_ok_iff.trans not_refused_iff, ?_, ?_⟩
  · intro fault e
    have refused : Refused json fault ↔ d.setJson slot json strip = .error fault := setJson_eq_error_iff.symm
    rw [run_importInPlace, refused]
    refine Prod.ext_iff.trans ?_
    cases d.setJson slot json strip <;> simp [eq_comm]
  · intro e
    rw [run_importInPlace]
    refine Prod.ext_iff.trans ?_
    cases d.setJson slot json strip <;> simp

example : (Document.create "n" "u").setJson rootSlot
    (.object [("a", .array [.bool true, .decimal "1.5"]), ("uuid", .null)]) true =
      .error ⟨"/a/1", "non-integer number"⟩ := rfl

end Document

end PropertyList

end EditorBundles
