import EditorBundles.PropertyList.Editing

/-!
# The places of a document

A document's three tables are read here as one store: a place is a slot of one of the tables, and
`content?` tells what it holds. `Uses d places` says that the listed places, each once, are exactly
those that are not on a free stack, and that what is free is empty. Taking a place, writing to one
and giving one back are described by what they do to `content?` and `Uses`.
-/

namespace EditorBundles.PropertyList
set_option autoImplicit false

/-- A slot of one of the three tables. -/
inductive Place where
  | string (slot : Nat)
  | dict (slot : Nat)
  | array (slot : Nat)
  deriving DecidableEq, Repr

/-- What a place holds. -/
inductive Content where
  | text (s : String)
  | entries (es : List (String × Cell))
  | items (cells : List Cell)
  deriving DecidableEq, Repr

/-- The place that a cell names; a scalar names none. -/
def Cell.places : Cell → List Place
  | .string slot => [.string slot]
  | .dict slot => [.dict slot]
  | .array slot => [.array slot]
  | .integer _ => []
  | .bool _ => []

/-- What a place holds when it is free. -/
def Place.blank : Place → Content
  | .string _ => .text ""
  | .dict _ => .entries []
  | .array _ => .items []

/-- Does a place hold other cells? -/
def Place.isContainer : Place → Bool
  | .string _ => false
  | .dict _ => true
  | .array _ => true

/-- The cells that a content holds. -/
def Content.cells : Content → List Cell
  | .text _ => []
  | .entries es => es.map Prod.snd
  | .items cells => cells

namespace Document

/-- What a place holds, if the tables reach so far. -/
def content? (d : Document) : Place → Option Content
  | .string slot => d.strings[slot]?.map .text
  | .dict slot => d.dicts[slot]?.map .entries
  | .array slot => d.arrays[slot]?.map .items

/-- All places of the tables. -/
def places (d : Document) : List Place :=
  (List.range d.strings.size).map .string ++ (List.range d.dicts.size).map .dict
    ++ (List.range d.arrays.size).map .array

/-- The places on the free stacks. -/
def free (d : Document) : List Place :=
  d.freeStrings.map .string ++ d.freeDicts.map .dict ++ d.freeArrays.map .array

/-- The listed places, each once, are those in use, and the free ones are empty. -/
structure Uses (d : Document) (used : List Place) : Prop where
  perm : (used ++ d.free).Perm d.places
  blank : ∀ p ∈ d.free, d.content? p = some p.blank

/-- Both documents hold the same in the listed places. -/
def Agrees (d e : Document) (places : List Place) : Prop := ∀ p ∈ places, e.content? p = d.content? p

theorem Agrees.refl (d : Document) (places : List Place) : d.Agrees d places := fun _ _ => rfl

theorem Agrees.trans {d e f : Document} {places : List Place} (first : d.Agrees e places)
    (second : e.Agrees f places) : d.Agrees f places :=
  fun p member => (second p member).trans (first p member)

theorem Agrees.mono {d e : Document} {places fewer : List Place} (h : d.Agrees e places) (sub : fewer ⊆ places) :
    d.Agrees e fewer := fun p member => h p (sub member)

theorem mem_places {d : Document} {p : Place} : p ∈ d.places ↔ (d.content? p).isSome := by
  cases p <;> simp [places, content?]

theorem nodup_places (d : Document) : d.places.Nodup := by
  have distinct (f : Nat → Place) (injective : ∀ a b, f a = f b → a = b) (n : Nat) :
      ((List.range n).map f).Nodup :=
    List.Pairwise.map f (fun a b different same => different (injective a b same)) List.nodup_range
  refine List.nodup_append.2 ⟨List.nodup_append.2 ⟨distinct _ ?_ _, distinct _ ?_ _, ?_⟩, distinct _ ?_ _, ?_⟩
  all_goals simp
  all_goals grind

namespace Uses

variable {d : Document} {used more rest : List Place}

theorem of_perm (h : d.Uses used) (same : used.Perm more) : d.Uses more :=
  ⟨(same.symm.append_right d.free).trans h.perm, h.blank⟩

theorem nodup_append_free (h : d.Uses used) : (used ++ d.free).Nodup := h.perm.nodup_iff.2 d.nodup_places

theorem nodup (h : d.Uses used) : used.Nodup := (List.nodup_append.1 h.nodup_append_free).1

theorem not_mem_free (h : d.Uses used) {p : Place} (member : p ∈ used) : p ∉ d.free :=
  fun free => (List.nodup_append.1 h.nodup_append_free).2.2 p member p free rfl

theorem mem_places (h : d.Uses used) {p : Place} (member : p ∈ used) : p ∈ d.places :=
  h.perm.subset (List.mem_append_left _ member)

/-- There are no more containers in use than the tables of dictionaries and lists have places. -/
theorem countP_isContainer_lt_levels (h : d.Uses used) : used.countP Place.isContainer < d.levels := by
  have within : used.countP Place.isContainer ≤ d.places.countP Place.isContainer := by
    rw [← h.perm.countP_eq, List.countP_append]
    omega
  have strings : ((List.range d.strings.size).map Place.string).countP Place.isContainer = 0 := by
    simp [List.countP_eq_zero, Place.isContainer]
  have dicts : ((List.range d.dicts.size).map Place.dict).countP Place.isContainer ≤ d.dicts.size := by
    simpa using List.countP_le_length (p := Place.isContainer) (l := (List.range d.dicts.size).map Place.dict)
  have arrays : ((List.range d.arrays.size).map Place.array).countP Place.isContainer ≤ d.arrays.size := by
    simpa using List.countP_le_length (p := Place.isContainer) (l := (List.range d.arrays.size).map Place.array)
  simp only [places, List.countP_append] at within
  simp only [levels]
  omega

/-- Whatever keeps what is free and where the tables end keeps what is in use. -/
theorem of_same {e : Document} (h : d.Uses used) (places : e.places = d.places) (free : e.free = d.free)
    (agrees : d.Agrees e d.free) : e.Uses used where
  perm := by rw [places, free]; exact h.perm
  blank := by
    rw [free]
    exact fun p member => (agrees p member).trans (h.blank p member)

end Uses

/-! ## Writing -/

theorem content?_dict {d : Document} {slot : Nat} {es : List (String × Cell)}
    (h : d.content? (.dict slot) = some (.entries es)) : d.dict slot = es := by
  obtain ⟨found, read, same⟩ := Option.map_eq_some_iff.1 h
  cases same
  simp [dict, read]

theorem content?_array {d : Document} {slot : Nat} {cells : List Cell}
    (h : d.content? (.array slot) = some (.items cells)) : d.array slot = cells := by
  obtain ⟨found, read, same⟩ := Option.map_eq_some_iff.1 h
  cases same
  simp [array, read]

theorem content?_string {d : Document} {slot : Nat} {s : String}
    (h : d.content? (.string slot) = some (.text s)) : d.string slot = s := by
  obtain ⟨found, read, same⟩ := Option.map_eq_some_iff.1 h
  cases same
  simp [string, read]

/-- `e` is `d` with other content in one place. -/
structure Wrote (d e : Document) (p : Place) (content : Content) : Prop where
  content? : ∀ q, e.content? q = if q = p then (d.content? q).map fun _ => content else d.content? q
  places : e.places = d.places
  free : e.free = d.free

/-- Reading an array behind a write to it. -/
theorem map_getElem?_setIfInBounds {α β : Type} (xs : Array α) (i j : Nat) (x : α) (f : α → β) :
    (xs.setIfInBounds i x)[j]?.map f = if j = i then (xs[j]?.map f).map fun _ => f x else xs[j]?.map f := by
  by_cases h : j = i
  · subst h
    by_cases bound : j < xs.size <;> simp [bound]
  · simp [h, Ne.symm h]

theorem wrote_setDict (d : Document) (slot : Nat) (es : List (String × Cell)) :
    d.Wrote (d.setDict slot es) (.dict slot) (.entries es) where
  content? q := by cases q <;> simp [content?, setDict, map_getElem?_setIfInBounds]
  places := by simp [Document.places, setDict]
  free := rfl

theorem wrote_setArray (d : Document) (slot : Nat) (cells : List Cell) :
    d.Wrote (d.setArray slot cells) (.array slot) (.items cells) where
  content? q := by cases q <;> simp [content?, setArray, map_getElem?_setIfInBounds]
  places := by simp [Document.places, setArray]
  free := rfl

theorem wrote_setText (d : Document) (slot : Nat) (text : String) :
    d.Wrote (d.setText slot text) (.string slot) (.text text) where
  content? q := by cases q <;> simp [content?, setText, map_getElem?_setIfInBounds]
  places := by simp [Document.places, setText]
  free := rfl

namespace Wrote

variable {d e : Document} {p : Place} {content : Content} {used others : List Place}

/-- What was written is what is read. -/
theorem read (h : d.Wrote e p content) (within : p ∈ d.places) : e.content? p = some content := by
  obtain ⟨old, read⟩ := Option.isSome_iff_exists.1 (Document.mem_places.1 within)
  rw [h.content?, if_pos rfl, read]
  rfl

/-- The other places stay as they are. -/
theorem agrees (h : d.Wrote e p content) (apart : p ∉ others) : d.Agrees e others := by
  intro q member
  rw [h.content?, if_neg fun same : q = p => apart (same ▸ member)]

/-- Writing to a place in use takes no place and frees none. -/
theorem uses (h : d.Wrote e p content) (uses : d.Uses used) (member : p ∈ used) : e.Uses used :=
  uses.of_same h.places h.free (h.agrees (uses.not_mem_free member))

end Wrote

/-! ## Taking and giving back -/

/-- `e` is `d` with one place more in use, which is taken from a free stack or put at the end of a
table. -/
structure Took (d e : Document) (p : Place) (content : Content) : Prop where
  perm : (d.places ++ p :: e.free).Perm (e.places ++ d.free)
  free : e.free ⊆ d.free
  fresh : p ∈ d.free ∨ p ∉ d.places
  content? : ∀ q, q ≠ p → e.content? q = d.content? q
  read : (p ∈ d.free → d.content? p = some p.blank) → e.content? p = some content

theorem content?_push {α β : Type} (xs : Array α) (x : α) (i : Nat) (f : α → β) :
    (xs.push x)[i]?.map f = if i = xs.size then some (f x) else xs[i]?.map f := by
  by_cases h : i = xs.size <;> simp [Array.getElem?_push, h]

theorem took_addString (d : Document) (text : String) :
    d.Took (d.addString text).1 (.string (d.addString text).2) (.text text) := by
  cases stack : d.freeStrings with
  | cons slot rest =>
    simp only [addString, stack]
    have wrote := d.wrote_setText slot text
    refine ⟨?_, ?_, .inl (by simp [free, stack]), fun q different => ?_, fun blank => ?_⟩
    · simp [places, free, stack, setText]
    · simp [free, stack, setText]
    · exact (wrote.content? q).trans (if_neg different)
    · have read := blank (by simp [free, stack])
      exact (wrote.content? (.string slot)).trans (by simp [read])
  | nil =>
    simp only [addString, stack]
    refine ⟨?_, by simp [free, stack], .inr (by simp [places]), fun q different => ?_, fun _ => ?_⟩
    · simp [places, free, stack, List.range_succ]
      grind
    · cases q <;> simp_all [content?, content?_push]
    · simp [content?]

theorem took_addDict (d : Document) : d.Took d.addDict.1 (.dict d.addDict.2) (.entries []) := by
  cases stack : d.freeDicts with
  | cons slot rest =>
    simp only [addDict, stack]
    refine ⟨?_, ?_, .inl (by simp [free, stack]), fun q different => rfl, fun blank => ?_⟩
    · simp [places, free, stack]
      grind
    · simp [free, stack]
    · exact blank (by simp [free, stack])
  | nil =>
    simp only [addDict, stack]
    refine ⟨?_, by simp [free, stack], .inr (by simp [places]), fun q different => ?_, fun _ => ?_⟩
    · simp [places, free, stack, List.range_succ]
      grind
    · cases q <;> simp_all [content?, content?_push]
    · simp [content?]

theorem took_addArray (d : Document) : d.Took d.addArray.1 (.array d.addArray.2) (.items []) := by
  cases stack : d.freeArrays with
  | cons slot rest =>
    simp only [addArray, stack]
    refine ⟨?_, ?_, .inl (by simp [free, stack]), fun q different => rfl, fun blank => ?_⟩
    · simp [places, free, stack]
      grind
    · simp [free, stack]
      grind
    · exact blank (by simp [free, stack])
  | nil =>
    simp only [addArray, stack]
    refine ⟨?_, by simp [free, stack], .inr (by simp [places]), fun q different => ?_, fun _ => ?_⟩
    · simp [places, free, stack, List.range_succ]
    · cases q <;> simp_all [content?, content?_push]
    · simp [content?]

namespace Took

variable {d e : Document} {p : Place} {content : Content} {used : List Place}

theorem not_mem (h : d.Took e p content) (uses : d.Uses used) : p ∉ used := by
  intro member
  rcases h.fresh with free | outside
  · exact uses.not_mem_free member free
  · exact outside (uses.mem_places member)

/-- The places in use before stay as they are. -/
theorem agrees (h : d.Took e p content) (uses : d.Uses used) : d.Agrees e used :=
  fun q member => h.content? q fun same => h.not_mem uses (same ▸ member)

theorem holds (h : d.Took e p content) (uses : d.Uses used) : e.content? p = some content :=
  h.read (uses.blank p)

theorem uses (h : d.Took e p content) (uses : d.Uses used) : e.Uses (p :: used) := by
  have perm : (p :: used ++ e.free).Perm e.places := by
    have before := uses.perm
    have step := h.perm
    rw [List.perm_iff_count] at before step ⊢
    intro q
    have := before q
    have := step q
    simp only [List.count_append, List.count_cons, List.cons_append] at *
    omega
  refine ⟨perm, fun q member => ?_⟩
  have apart : q ≠ p := fun same => by
    have distinct := perm.nodup_iff.2 e.nodup_places
    simp only [List.cons_append, List.nodup_cons, List.mem_append, not_or] at distinct
    exact distinct.1.2 (same ▸ member)
  rw [h.content? q apart]
  exact uses.blank q (h.free member)

end Took

/-- `e` is `d` with an empty place given back to its free stack. -/
structure Gave (d e : Document) (p : Place) : Prop where
  places : e.places = d.places
  free : e.free.Perm (p :: d.free)
  content? : ∀ q, e.content? q = d.content? q

theorem Gave.uses {d e : Document} {p : Place} {used : List Place} (h : d.Gave e p) (uses : d.Uses (p :: used))
    (empty : d.content? p = some p.blank) : e.Uses used := by
  refine ⟨?_, fun q member => ?_⟩
  · rw [h.places]
    refine List.Perm.trans ?_ uses.perm
    have perm := h.free
    grind
  · rw [h.content?]
    rcases List.mem_cons.1 (h.free.subset member) with same | free
    · rw [same, empty]
    · exact uses.blank q free

theorem gave_string (d : Document) (slot : Nat) :
    d.Gave { d with freeStrings := slot :: d.freeStrings } (.string slot) :=
  ⟨rfl, by simp [free], fun _ => rfl⟩

theorem gave_dict (d : Document) (slot : Nat) : d.Gave { d with freeDicts := slot :: d.freeDicts } (.dict slot) :=
  ⟨rfl, by simp [free], fun _ => rfl⟩

theorem gave_array (d : Document) (slot : Nat) :
    d.Gave { d with freeArrays := slot :: d.freeArrays } (.array slot) :=
  ⟨rfl, by simp [free]; grind, fun _ => rfl⟩

end Document

end EditorBundles.PropertyList
