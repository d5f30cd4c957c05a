import EditorBundles.Proofs.PropertyList.Import
import EditorBundles.Proofs.PropertyList.Refinement
import EditorBundles.PropertyList.Files
import Mathlib.Data.Set.Card

/-!
# What holds of every document

`Reachable d handed` says that `d` comes about from a new or a parsed document by operations, and which
cells were handed out on the way without a place that holds them. `Sound` spells out the promises that
such a document keeps about its tables and free stacks. Between the two stands `WellFormed`: every
operation preserves it, and all of `Sound` follows from it.
-/

namespace EditorBundles.PropertyList
set_option autoImplicit false
open Document (Agrees Uses)

/-- The places that a content refers to. -/
def Content.refs (content : Content) : List Place := content.cells.flatMap Cell.places

namespace Document

/-- The places that a place refers to. -/
def refs (d : Document) (p : Place) : List Place := ((d.content? p).map Content.refs).getD []

theorem refs_of_content? {d : Document} {p : Place} {content : Content} (read : d.content? p = some content) :
    d.refs p = content.refs := by simp [refs, read]

/-- A place holds a cell that names another one. -/
def RefersTo (d : Document) (p q : Place) : Prop := q ∈ d.refs p

/-- A place is named by one of the cells, or by what these hold at some depth. -/
def Reaches (d : Document) (cells : List Cell) (p : Place) : Prop :=
  ∃ q ∈ cells.flatMap Cell.places, Relation.ReflTransGen d.RefersTo q p

/-- A place is live while it is not on a free stack. -/
def Live (d : Document) (p : Place) : Prop := p ∈ d.places ∧ p ∉ d.free

/-- The cells that are handed out and the document, after any sequence of operations. -/
inductive Reachable : Document → List Cell → Prop where
  | new : Reachable .new []
  | parsed {octets : ByteArray} {d : Document} (read : parse octets = .ok d) : Reachable d []
  | edited {d e : Document} {handed : List Cell} {owner container : Cell} {path : List Step} {edit : Edit}
      {handle : Option Cell} (before : Reachable d handed) (owned : owner ∈ .dict rootSlot :: handed)
      (found : d.follow? owner path = some container) (run : edit.run? d container = some (e, handle)) :
      Reachable e handed
  | imported {d e : Document} {handed : List Cell} {owner : Cell} {slot : Nat} {path : List Step} {json : Json}
      {strip : Bool} (before : Reachable d handed) (owned : owner ∈ .dict rootSlot :: handed)
      (found : d.follow? owner path = some (.dict slot)) (run : d.setJson slot json strip = .ok e) :
      Reachable e handed
  | addedString {d : Document} {handed : List Cell} (before : Reachable d handed) (text : String) :
      Reachable (d.addString text).1 (.string (d.addString text).2 :: handed)
  | addedDict {d : Document} {handed : List Cell} (before : Reachable d handed) :
      Reachable d.addDict.1 (.dict d.addDict.2 :: handed)
  | addedArray {d : Document} {handed : List Cell} (before : Reachable d handed) :
      Reachable d.addArray.1 (.array d.addArray.2 :: handed)
  | deleted {d : Document} {handed : List Cell} {cell : Cell} (before : Reachable d handed)
      (held : cell ∈ handed) :
      Reachable (d.release cell) (handed.erase cell)

/-- The promises that a document keeps about its tables, given the cells that were handed out and are
not freed yet. -/
structure Sound (d : Document) (handed : List Cell) : Prop where
  root_live : d.Live (.dict rootSlot)
  free_distinct : d.freeStrings.Nodup ∧ d.freeDicts.Nodup ∧ d.freeArrays.Nodup
  free_empty : ∀ p ∈ d.free, p ∈ d.places ∧ d.content? p = some p.blank
  refs_live : ∀ p q, d.Live p → d.RefersTo p q → d.Live q
  refs_once : (d.places.flatMap d.refs).Nodup
  roots_unreferenced : ∀ p, ∀ q ∈ (Cell.dict rootSlot :: handed).flatMap Cell.places, ¬ d.RefersTo p q
  acyclic : ∀ p, d.Live p → ¬ Relation.TransGen d.RefersTo p p
  strings_counted : d.liveCells.strings =
    {slot | d.Reaches [.dict rootSlot] (.string slot)}.ncard + {slot | d.Reaches handed (.string slot)}.ncard
  dicts_counted : d.liveCells.dicts =
    {slot | d.Reaches [.dict rootSlot] (.dict slot)}.ncard + {slot | d.Reaches handed (.dict slot)}.ncard
  arrays_counted : d.liveCells.arrays =
    {slot | d.Reaches [.dict rootSlot] (.array slot)}.ncard + {slot | d.Reaches handed (.array slot)}.ncard

end Document

/-! ## Every operation keeps documents well formed -/

namespace Document.WellFormed

variable {d e : Document} {handed : List Cell} {cell : Cell}

/-- A container below the root or a handed-out cell can be turned. -/
theorem turn (h : d.WellFormed handed) {owner : Cell} (owned : owner ∈ Cell.dict rootSlot :: handed)
    {path : List Step}
    (found : d.follow? owner path = some cell) :
    ∃ v here, Forest d [cell] [v] here ∧ ∀ e w, d.Turns e here [cell] [w] → e.WellFormed handed := by
  obtain ⟨values, places, forest, uses⟩ := h
  obtain ⟨i, bound, rfl⟩ := List.getElem_of_mem owned
  obtain ⟨u, inside, outside, -, tree, perm, refill, -⟩ := forest.item (List.getElem?_eq_getElem bound)
  obtain ⟨v, here, around, -, below, perm', refill'⟩ := tree.follow found
  have moved : d.Uses (here ++ (around ++ outside)) := uses.of_perm (by grind)
  refine ⟨v, here, below, fun e w turns => ?_⟩
  obtain ⟨here', below', used, agrees⟩ := turns _ moved
  obtain ⟨-, inside', tree', same⟩ := refill' e w here' (agrees.mono (by simp)) below'
  obtain ⟨places', forest', same'⟩ := refill e _ _ inside' (agrees.mono (by simp)) tree'
  rw [List.set_getElem_self] at forest'
  exact ⟨_, places', forest', used.of_perm (by grind)⟩

/-- A new cell that no place holds is handed out. -/
theorem hand {v : Value} (h : d.WellFormed handed) (take : d.Turns e [] [cell] [v]) :
    e.WellFormed (cell :: handed) := by
  obtain ⟨values, here, behind, tree, others, uses, -⟩ := h.parts
  obtain ⟨new, fresh, used, agrees⟩ := take (here ++ behind) uses
  have tree' := tree.frame (agrees.mono (by simp))
  have others' := others.frame (agrees.mono (by simp))
  exact ⟨_, _, tree'.append (fresh.append others'), used.of_perm (by grind)⟩

/-- A handed-out cell is freed with all below it. -/
theorem free (h : d.WellFormed handed) (held : cell ∈ handed) :
    (d.release cell).WellFormed (handed.erase cell) := by
  obtain ⟨values, places, forest, uses⟩ := h
  obtain ⟨front, back, -, rfl, erased⟩ := List.exists_erase_eq held
  rw [← List.cons_append] at forest
  obtain ⟨left, v, right, here, others, -, -, tree, perm, -, without⟩ := forest.middle
  obtain ⟨used, agrees⟩ := tree.release (uses.of_perm perm)
  rw [erased]
  exact ⟨_, _, without _ agrees, used⟩

end Document.WellFormed

namespace Document

/-- A document made of entries is well formed, and its root has these entries, but for repeated keys. -/
theorem wellFormed_ofEntries (entries : List (String × Value)) :
    (ofEntries entries).WellFormed [] ∧ (ofEntries entries).root = Value.withEntries [] entries := by
  have root : new.content? (.dict rootSlot) = some (.entries []) := rfl
  have empty : Forest new [.dict rootSlot] [.dict []] [.dict rootSlot] := .of_dict root (by simp) rfl .nil
  have all : new.Uses ([.dict rootSlot] ++ []) := ⟨by decide, by decide⟩
  obtain ⟨here, tree, uses, -⟩ := turns_addEntries new rootSlot entries empty [] all
  refine ⟨⟨_, _, tree, uses.of_perm (by grind)⟩, ?_⟩
  have value := value_dict tree uses
  exact Value.dict.inj value

/-- Every operation keeps the document well formed. -/
theorem Reachable.wellFormed {d : Document} {handed : List Cell} (h : Reachable d handed) :
    d.WellFormed handed := by
  induction h with
  | new => exact wellFormed_new
  | @parsed octets d parsed =>
    rw [parse] at parsed
    cases outcome : read octets with
    | error fault => simp [outcome, Except.map] at parsed
    | ok entries =>
      obtain rfl : ofEntries entries = d := by simpa [outcome, Except.map] using parsed
      exact (wellFormed_ofEntries entries).1
  | @edited d e handed owner container path edit handle _ owned found run ih =>
    obtain ⟨v, here, tree, turn⟩ := ih.turn owned found
    cases fits : edit.onValue? v with
    | none => simp [run?_eq_none_of_onValue? tree fits] at run
    | some w =>
      obtain ⟨e', handle', run', turns⟩ := turnsHanding_edit tree fits
      obtain ⟨rfl, rfl⟩ := Prod.mk.inj (Option.some.inj (run.symm.trans run'))
      exact turn _ _ turns.turns
  | @imported d e handed owner slot path json strip _ owned found run ih =>
    obtain ⟨v, here, tree, turn⟩ := ih.turn owned found
    obtain ⟨es, entries, inner, same, -⟩ := tree.dict_inv
    cases same
    obtain ⟨members, -, -, turns⟩ := turns_setJson tree run
    exact turn _ _ turns
  | @addedString d handed _ text ih => exact ih.hand (d.turns_addString text)
  | @addedDict d handed _ ih => exact ih.hand d.turns_addDict
  | @addedArray d handed _ ih => exact ih.hand d.turns_addArray
  | deleted _ held ih => exact ih.free held

end Document

/-! ## What holds of a well-formed document -/

namespace Forest

variable {d : Document} {cs : List Cell} {vs : List Value} {ps : List Place}

/-- The places of a forest are those that its cells name and those that its places refer to. -/
theorem perm_refs (h : Forest d cs vs ps) : ps.Perm (cs.flatMap Cell.places ++ ps.flatMap d.refs) := by
  induction h with
  | nil => exact .nil
  | integer n _ ih => simpa [Cell.places] using ih
  | bool b _ ih => simpa [Cell.places] using ih
  | @string slot s cs vs ps read _ ih =>
    simpa [Cell.places, Document.refs_of_content? read, Content.refs, Content.cells] using ih
  | @array slot cells items inner cs vs ps read _ _ below behind =>
    simp only [List.flatMap_cons, List.flatMap_append, Cell.places, Document.refs_of_content? read, Content.refs,
      Content.cells]
    grind
  | @dict slot es entries inner cs vs ps read _ _ _ _ below behind =>
    simp only [List.flatMap_cons, List.flatMap_append, Cell.places, Document.refs_of_content? read, Content.refs,
      Content.cells]
    grind

theorem mem_of_refersTo (h : Forest d cs vs ps) {p q : Place} (member : p ∈ ps) (refers : d.RefersTo p q) :
    q ∈ ps :=
  h.perm_refs.symm.subset (List.mem_append_right _ (List.mem_flatMap_of_mem member refers))

/-- A forest takes what its cells reach, and nothing else. -/
theorem reaches_iff (h : Forest d cs vs ps) {p : Place} : d.Reaches cs p ↔ p ∈ ps := by
  constructor
  · rintro ⟨q, named, path⟩
    induction path with
    | refl => exact h.perm_refs.symm.subset (List.mem_append_left _ named)
    | tail _ refers ih => exact h.mem_of_refersTo ih refers
  · have later {c : Cell} {cs : List Cell} (h : d.Reaches cs p) : d.Reaches (c :: cs) p := by
      obtain ⟨q, named, path⟩ := h
      exact ⟨q, by simp [named], path⟩
    have deeper {c : Cell} {q : Place} {content : Content} {cs : List Cell} (read : d.content? q = some content)
        (named : q ∈ c.places) (h : d.Reaches content.cells p) : d.Reaches (c :: cs) p := by
      obtain ⟨r, below, path⟩ := h
      have refers : d.RefersTo q r := by rwa [Document.RefersTo, Document.refs_of_content? read]
      exact ⟨q, by simp [named], .head refers path⟩
    intro member
    induction h with
    | nil => simp at member
    | integer n _ ih => exact later (ih member)
    | bool b _ ih => exact later (ih member)
    | string read _ ih =>
      rcases List.mem_cons.1 member with rfl | member
      · exact ⟨_, by simp [Cell.places], .refl⟩
      · exact later (ih member)
    | array read _ _ below behind =>
      rcases List.mem_cons.1 member with rfl | member
      · exact ⟨_, by simp [Cell.places], .refl⟩
      rcases List.mem_append.1 member with inside | outside
      · exact deeper read (List.mem_singleton_self _) (below inside)
      · exact later (behind outside)
    | dict read _ _ _ _ below behind =>
      rcases List.mem_cons.1 member with rfl | member
      · exact ⟨_, by simp [Cell.places], .refl⟩
      rcases List.mem_append.1 member with inside | outside
      · exact deeper read (List.mem_singleton_self _) (below inside)
      · exact later (behind outside)

/-- References lead down the trees of a forest, and so to an end. -/
theorem acc (h : Forest d cs vs ps) : ∀ p ∈ ps, Acc (fun q p => d.RefersTo p q) p := by
  have holder {q : Place} {content : Content} {values : List Value} {inner : List Place}
      (read : d.content? q = some content) (below : Forest d content.cells values inner)
      (ends : ∀ p ∈ inner, Acc (fun q p => d.RefersTo p q) p) : Acc (fun q p => d.RefersTo p q) q := by
    refine ⟨q, fun r refers => ends r ?_⟩
    rw [Document.RefersTo, Document.refs_of_content? read] at refers
    exact below.perm_refs.symm.subset (List.mem_append_left _ refers)
  induction h with
  | nil => simp
  | integer n _ ih => exact ih
  | bool b _ ih => exact ih
  | string read _ ih => exact List.forall_mem_cons.2 ⟨holder read .nil (by simp), ih⟩
  | array read tree _ below behind =>
    exact List.forall_mem_cons.2 ⟨holder read tree below, List.forall_mem_append.2 ⟨below, behind⟩⟩
  | dict read _ _ tree _ below behind =>
    exact List.forall_mem_cons.2 ⟨holder read tree below, List.forall_mem_append.2 ⟨below, behind⟩⟩

end Forest

/-- The slot of a place in the table of texts. -/
def Place.string? : Place → Option Nat
  | .string slot => some slot
  | _ => none

/-- The slot of a place in the table of dictionaries. -/
def Place.dict? : Place → Option Nat
  | .dict slot => some slot
  | _ => none

/-- The slot of a place in the table of lists. -/
def Place.array? : Place → Option Nat
  | .array slot => some slot
  | _ => none

theorem ncard_slots {ps : List Place} (distinct : ps.Nodup) {make : Nat → Place} {slot? : Place → Option Nat}
    (inverse : ∀ p slot, slot? p = some slot ↔ p = make slot) :
    {slot | make slot ∈ ps}.ncard = (ps.filterMap slot?).length := by
  have same : {slot | make slot ∈ ps} = ((ps.filterMap slot?).toFinset : Set Nat) := by
    ext slot
    simp [inverse]
  have nodup : (ps.filterMap slot?).Nodup := by
    refine distinct.filterMap fun p q slot found found' => ?_
    rw [Option.mem_def, inverse] at found found'
    rw [found, found']
  rw [same, Set.ncard_coe_finset, List.toFinset_card_of_nodup nodup]

namespace Document

/-- The slots of one table that are in use are those of its places in use. -/
theorem Uses.length_slots {d : Document} {here behind : List Place} (uses : d.Uses (here ++ behind))
    {make : Nat → Place} {slot? : Place → Option Nat} (inverse : ∀ p slot, slot? p = some slot ↔ p = make slot)
    {size : Nat} (table : d.places.filterMap slot? = List.range size) {stack : List Nat}
    (free : d.free.filterMap slot? = stack) :
    size - stack.length = {slot | make slot ∈ here}.ncard + {slot | make slot ∈ behind}.ncard := by
  have distinct := uses.nodup
  rw [ncard_slots (List.nodup_append.1 distinct).1 inverse,
    ncard_slots (List.nodup_append.1 distinct).2.1 inverse]
  have perm := (uses.perm.filterMap slot?).length_eq
  rw [table, List.filterMap_append, List.filterMap_append, free] at perm
  simp only [List.length_append, List.length_range] at perm
  omega

theorem Uses.live_iff {d : Document} {ps : List Place} (uses : d.Uses ps) {p : Place} : d.Live p ↔ p ∈ ps := by
  constructor
  · rintro ⟨within, busy⟩
    have member : p ∈ ps ++ d.free := uses.perm.symm.subset within
    exact (List.mem_append.1 member).resolve_right busy
  · intro member
    exact ⟨uses.mem_places member, uses.not_mem_free member⟩

/-- What is free refers to nothing. -/
theorem Uses.perm_refs {d : Document} {ps : List Place} (uses : d.Uses ps) :
    (d.places.flatMap d.refs).Perm (ps.flatMap d.refs) := by
  have silent : d.free.flatMap d.refs = [] := by
    refine List.flatMap_eq_nil_iff.2 fun p member => ?_
    rw [refs_of_content? (uses.blank p member)]
    cases p <;> rfl
  have perm := (uses.perm.flatMap_right d.refs).symm
  rwa [List.flatMap_append, silent, List.append_nil] at perm

/-- All promises follow from the trees of the root and of the handed-out cells. -/
theorem WellFormed.sound {d : Document} {handed : List Cell} (h : d.WellFormed handed) : d.Sound handed := by
  obtain ⟨values, here, behind, tree, others, uses, -⟩ := h.parts
  have forest := tree.append others
  have live {p : Place} : d.Live p ↔ p ∈ here ++ behind := uses.live_iff
  have once := (forest.perm_refs.nodup_iff).1 uses.nodup
  have free : (d.freeStrings.map Place.string ++ d.freeDicts.map Place.dict ++ d.freeArrays.map Place.array).Nodup :=
    (List.nodup_append.1 uses.nodup_append_free).2.1
  have counted {make : Nat → Place} (slot? : Place → Option Nat) {size : Nat} {stack : List Nat}
      (inverse : ∀ p slot, slot? p = some slot ↔ p = make slot)
      (table : d.places.filterMap slot? = List.range size)
      (free : d.free.filterMap slot? = stack) :
      size - stack.length = {slot | d.Reaches [.dict rootSlot] (make slot)}.ncard +
        {slot | d.Reaches handed (make slot)}.ncard := by
    simp only [tree.reaches_iff, others.reaches_iff]
    exact uses.length_slots inverse table free
  constructor
  case root_live =>
    have first : Place.dict rootSlot ∈ here := tree.reaches_iff.1 ⟨_, by simp [Cell.places], .refl⟩
    exact live.2 (List.mem_append_left _ first)
  case free_distinct =>
    obtain ⟨front, arrays, -⟩ := List.nodup_append.1 free
    obtain ⟨strings, dicts, -⟩ := List.nodup_append.1 front
    exact ⟨strings.of_map, dicts.of_map, arrays.of_map⟩
  case free_empty =>
    intro p member
    exact ⟨uses.perm.subset (List.mem_append_right _ member), uses.blank p member⟩
  case refs_live =>
    intro p q alive refers
    exact live.2 (forest.mem_of_refersTo (live.1 alive) refers)
  case refs_once => exact uses.perm_refs.nodup_iff.2 (List.nodup_append.1 once).2.1
  case roots_unreferenced =>
    intro p q root refers
    have within : p ∈ d.places := by
      rw [mem_places]
      cases read : d.content? p with
      | none => simp [RefersTo, refs, read] at refers
      | some content => rfl
    have referred : q ∈ (here ++ behind).flatMap d.refs :=
      uses.perm_refs.subset (List.mem_flatMap_of_mem within refers)
    exact (List.nodup_append.1 once).2.2 q root q referred rfl
  case acyclic =>
    intro p alive cycle
    have ends := (forest.acc p (live.1 alive)).transGen
    have loops : Relation.TransGen (fun q p => d.RefersTo p q) p p := Relation.transGen_swap.1 cycle
    induction ends with
    | intro p _ ih => exact ih p loops alive cycle loops
  case strings_counted =>
    refine counted Place.string? ?_ ?_ ?_
    · intro p slot
      cases p <;> simp [Place.string?]
    · simp [places, Place.string?, Function.comp_def]
    · simp [Document.free, Place.string?, Function.comp_def]
  case dicts_counted =>
    refine counted Place.dict? ?_ ?_ ?_
    · intro p slot
      cases p <;> simp [Place.dict?]
    · simp [places, Place.dict?, Function.comp_def]
    · simp [Document.free, Place.dict?, Function.comp_def]
  case arrays_counted =>
    refine counted Place.array? ?_ ?_ ?_
    · intro p slot
      cases p <;> simp [Place.array?]
    · simp [places, Place.array?, Function.comp_def]
    · simp [Document.free, Place.array?, Function.comp_def]

/-- However a document came about, it keeps its promises. -/
theorem sound_of_reachable {d : Document} {handed : List Cell} (h : Reachable d handed) : d.Sound handed :=
  h.wellFormed.sound

/-- A handed-out dictionary gets a text, which is freed with it. -/
theorem sound_of_reachable_freed :
    ∃ d e, Reachable d [.dict 1] ∧ d.liveCells = ⟨1, 2, 0⟩ ∧ d.Sound [.dict 1] ∧
      Reachable e [] ∧ e.liveCells = ⟨0, 1, 0⟩ ∧ e.Sound [] := by
  have held : Reachable new.addDict.1 [.dict 1] := .addedDict .new
  have found : new.addDict.1.follow? (.dict 1) [] = some (.dict 1) := rfl
  have run : (Edit.dict (.setString "a" "b")).run? new.addDict.1 (.dict 1) =
      some (new.addDict.1.setString 1 "a" "b", none) := rfl
  have filled := Reachable.edited held (List.mem_cons_of_mem _ List.mem_cons_self) found run
  have freed := Reachable.deleted filled List.mem_cons_self
  rw [List.erase_cons_head] at freed
  exact ⟨_, _, filled, by decide, sound_of_reachable filled, freed, by decide, sound_of_reachable freed⟩

end Document

end EditorBundles.PropertyList
