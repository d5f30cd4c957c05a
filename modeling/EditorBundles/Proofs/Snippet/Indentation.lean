import EditorBundles.Proofs.Snippet.TemplateOutline

/-!
# Places in an indented expansion

Putting an indent behind every line feed of an expansion takes each of its places further, by one indent for every line
feed in front of it. Intervals and the end marker so stay on their text: an interval has what it had, with the indent
behind every line feed, and what was in front of what still is.
-/

namespace EditorBundles.Snippet
set_option autoImplicit false
open Text (byteLength IsBoundary slice?)
open Snippet.Part (indentText)

/-- The line feeds of a text that begin in front of an offset. -/
def feedsBefore : List Char → Nat → Nat
  | [], _ => 0
  | c :: cs, n => if n = 0 then 0 else (if c = '\n' then 1 else 0) + feedsBefore cs (n - c.utf8Size)

/-- Where a place of a text is once an indent stands behind every line feed. -/
def movedPlace (indent text : List Char) (n : Nat) : Nat := n + byteLength indent * feedsBefore text n

/-- An interval of a text once an indent stands behind every line feed. -/
def Interval.moved (indent text : List Char) (i : Interval) : Interval :=
  ⟨movedPlace indent text i.start, movedPlace indent text i.stop, i.parent⟩

variable {indent text : List Char} {p q : Nat}

/-! ## Places -/

@[simp] theorem feedsBefore_zero (text : List Char) : feedsBefore text 0 = 0 := by
  cases text <;> simp [feedsBefore]

/-- In front of the end of a first part of a text are the line feeds of that part. -/
theorem feedsBefore_append (front back : List Char) :
    feedsBefore (front ++ back) (byteLength front) = front.count '\n' := by
  induction front with
  | nil => simp
  | cons c front ih =>
    have positive := c.utf8Size_pos
    have inside : ¬ c.utf8Size + byteLength front = 0 := by omega
    have behind : c.utf8Size + byteLength front - c.utf8Size = byteLength front := by omega
    rw [List.cons_append, feedsBefore, Text.byteLength_cons, if_neg inside, behind, ih, List.count_cons]
    simp only [beq_iff_eq]
    omega

theorem feedsBefore_le_feedsBefore (text : List Char) (order : p ≤ q) : feedsBefore text p ≤ feedsBefore text q := by
  induction text generalizing p q with
  | nil => exact Nat.le_refl _
  | cons c text ih =>
    have others : feedsBefore text (p - c.utf8Size) ≤ feedsBefore text (q - c.utf8Size) := ih (by omega)
    rw [feedsBefore, feedsBefore]
    split_ifs <;> omega

/-- Places keep their order. -/
theorem movedPlace_lt (indent text : List Char) : movedPlace indent text p < movedPlace indent text q ↔ p < q := by
  have order {p q : Nat} (order : p ≤ q) :
      byteLength indent * feedsBefore text p ≤ byteLength indent * feedsBefore text q :=
    Nat.mul_le_mul_left _ (feedsBefore_le_feedsBefore text order)
  unfold movedPlace
  constructor
  · intro moved
    by_contra behind
    have := order (Nat.le_of_not_lt behind)
    omega
  · intro ahead
    have := order (Nat.le_of_lt ahead)
    omega

/-- A text is longer by one indent for each of its line feeds. -/
theorem byteLength_indentText (indent s : List Char) :
    byteLength (indentText indent s) = byteLength s + byteLength indent * s.count '\n' := by
  induction s with
  | nil => rfl
  | cons c s ih =>
    rw [← List.singleton_append, Part.indentText_append, Text.byteLength_append, ih, Text.byteLength_append,
      List.count_append, Nat.mul_add]
    by_cases feed : c = '\n'
    · simp [indentText, feed]
      omega
    · simp [indentText, feed]
      omega

/-- The end of a first part of a text goes to the end of what indenting makes of that part. -/
theorem movedPlace_append (indent front back : List Char) :
    movedPlace indent (front ++ back) (byteLength front) = byteLength (indentText indent front) := by
  rw [movedPlace, feedsBefore_append, byteLength_indentText]

/-- What stands between two places stands between them in the indented text, with its own indents. -/
theorem slice?_indentText {s : List Char} (indent : List Char) (read : slice? text p q = some s) :
    slice? (indentText indent text) (movedPlace indent text p) (movedPlace indent text q) = some (indentText indent s) := by
  obtain ⟨l, r, rfl, rfl, rfl⟩ := Text.slice?_eq_some_iff.1 read
  have first : movedPlace indent (l ++ s ++ r) (byteLength l) = byteLength (indentText indent l) := by
    rw [List.append_assoc, movedPlace_append]
  have last : movedPlace indent (l ++ s ++ r) (byteLength l + byteLength s) =
      byteLength (indentText indent l) + byteLength (indentText indent s) := by
    rw [← Text.byteLength_append, movedPlace_append, Part.indentText_append, Text.byteLength_append]
  rw [first, last, Part.indentText_append, Part.indentText_append, Text.slice?_append]

namespace Expansion

/-! ## Line feed by line feed -/

/-- Where a place goes while the indents are put behind the line feeds of `rest`, with `before` in front of it. -/
def placeIn (indent before rest : List Char) (n : Nat) : Nat :=
  n + byteLength indent * feedsBefore rest (n - byteLength before)

theorem placeIn_nil (indent before : List Char) (n : Nat) : placeIn indent before [] n = n := rfl

/-- A line feed takes what is behind it further by the indent, and what remains goes on from there. -/
theorem placeIn_feed (indent before rest : List Char) (n : Nat) :
    placeIn indent (before ++ '\n' :: indent) rest (placed (byteLength before) (byteLength indent) n) =
      placeIn indent before ('\n' :: rest) n := by
  have one : Char.utf8Size '\n' = 1 := rfl
  have longer : byteLength (before ++ '\n' :: indent) = byteLength before + (1 + byteLength indent) := by simp [one]
  unfold placeIn placed
  rw [longer, feedsBefore, one]
  by_cases behind : byteLength before < n
  · have same : n + byteLength indent - (byteLength before + (1 + byteLength indent)) = n - byteLength before - 1 := by
      omega
    rw [if_pos behind, if_neg (by omega), if_pos rfl, same, Nat.mul_add]
    omega
  · have ahead : n - byteLength before = 0 := by omega
    have still : n - (byteLength before + (1 + byteLength indent)) = 0 := by omega
    rw [if_neg behind, if_pos ahead, still, feedsBefore_zero]

theorem placeIn_plain (indent before rest : List Char) {c : Char} (other : c ≠ '\n') (n : Nat) :
    placeIn indent (before ++ [c]) rest n = placeIn indent before (c :: rest) n := by
  unfold placeIn
  rw [feedsBefore, if_neg other, Text.byteLength_append, Text.byteLength_cons, Text.byteLength_nil, Nat.add_zero,
    ← Nat.sub_sub]
  split
  · next first => simp [first]
  · rw [Nat.zero_add]

/-- What a line feed does to an interval. -/
theorem shiftFrom_eq_placed {i : Interval} (order : i.start ≤ i.stop) (position distance : Nat) :
    i.shiftFrom position (distance : Int) = ⟨placed position distance i.start, placed position distance i.stop, i.parent⟩ := by
  obtain ⟨first, last⟩ := shiftFrom_eq order position distance
  rw [← first, ← last, ← parent_shiftFrom i position distance]

/-- Indenting puts an indent behind every line feed that is still to come, and takes each place further as it does. -/
theorem indentFrom_eq (indent rest before : List Char) (intervals : List Interval) (finish : Nat)
    (ordered : ∀ i ∈ intervals, i.start ≤ i.stop) :
    indentFrom indent before intervals finish rest =
      (before ++ indentText indent rest,
        intervals.map fun i => ⟨placeIn indent before rest i.start, placeIn indent before rest i.stop, i.parent⟩,
        placeIn indent before rest finish) := by
  induction rest generalizing before intervals finish with
  | nil => simp [indentFrom, placeIn_nil]
  | cons c rest ih =>
    rw [indentFrom]
    split
    · next feed =>
      subst feed
      have end_ : (if byteLength before < finish then shifted finish (byteLength indent : Int) else finish) =
          placed (byteLength before) (byteLength indent) finish := by
        simp only [placed, shifted]
        split_ifs <;> omega
      have shift : intervals.map (·.shiftFrom (byteLength before) (byteLength indent : Int)) = intervals.map fun i =>
          ⟨placed (byteLength before) (byteLength indent) i.start, placed (byteLength before) (byteLength indent) i.stop,
            i.parent⟩ :=
        List.map_congr_left fun i member => shiftFrom_eq_placed (ordered i member) _ _
      simp only
      rw [end_, shift, ih]
      · simp only [List.map_map, Function.comp_def, placeIn_feed]
        simp [indentText]
      · intro j member
        obtain ⟨i, original, rfl⟩ := List.mem_map.1 member
        exact placed_le_placed (ordered i original)
    · next other =>
      rw [ih _ _ _ ordered]
      simp only [placeIn_plain indent before rest other]
      simp [indentText, other]

/-! ## The whole expansion -/

/-- An expansion as it is once an indent stands behind every line feed. -/
def indented (e : Expansion) (indent : List Char) : Expansion :=
  { e with
    text := indentText indent e.text
    intervals := e.intervals.map (·.moved indent e.text)
    finish := some (movedPlace indent e.text e.finishPosition) }

/-- What holds of the places of an expansion once it is indented: intervals and end marker are on the text they were on,
and keep their order and nesting. -/
structure StaysOnText (indent : List Char) (e e' : Expansion) : Prop where
  reads : ∀ id < e.intervals.length, ∃ s, slice? e.text (e.interval id).start (e.interval id).stop = some s ∧
    slice? e'.text (e'.interval id).start (e'.interval id).stop = some (indentText indent s)
  marks : ∃ fore aft, e.text = fore ++ aft ∧ e.finishPosition = byteLength fore ∧
    e'.text = indentText indent fore ++ indentText indent aft ∧ e'.finishPosition = byteLength (indentText indent fore)
  order : ∀ p q, movedPlace indent e.text p < movedPlace indent e.text q ↔ p < q
  nests : Nested e.interval (· < e.intervals.length) e.text ∧ Nested e'.interval (· < e.intervals.length) e'.text

theorem interval_indented (e : Expansion) (indent : List Char) {id : Nat} (bound : id < e.intervals.length) :
    (e.indented indent).interval id = (e.interval id).moved indent e.text := by
  simp [interval, indented, List.getD_eq_getElem?_getD, bound]

/-- Closed intervals nest on the text of a template's expansion. -/
theorem nested_ofNodes (runner : Runner) (env : Environment) (indentUnit : List Char) (template : List Node) :
    let e := ofNodes runner env indentUnit template
    Nested e.interval (· < e.intervals.length) e.text := by
  obtain ⟨growing, closed⟩ := growing_ofNodes runner env indentUnit template
  have spans := growing.spans
  rw [closed] at spans
  exact spans.nested

/-- Indenting a template's expansion takes each place further by one indent for every line feed in front of it. -/
theorem indentLines_eq_indented (runner : Runner) (env : Environment) (indentUnit : List Char) (template : List Node)
    (indent : List Char) :
    (ofNodes runner env indentUnit template).indentLines indent =
      (ofNodes runner env indentUnit template).indented indent := by
  have nested := nested_ofNodes runner env indentUnit template
  generalize ofNodes runner env indentUnit template = e at *
  have ordered : ∀ i ∈ e.intervals, i.start ≤ i.stop := by
    intro i member
    obtain ⟨id, bound, rfl⟩ := List.mem_iff_getElem.1 member
    have order := nested.start_le_stop id bound
    simpa [interval, List.getD_eq_getElem?_getD, bound] using order
  rw [indentLines, indentFrom_eq indent e.text [] e.intervals e.finishPosition ordered]
  rfl

/-- Indenting takes each place of a template's expansion further by one indent for every line feed in front of it, and so
keeps what is there on its text. -/
theorem indentLines_ofNodes (runner : Runner) (env : Environment) (indentUnit : List Char) (template : List Node)
    (indent : List Char) :
    let e := ofNodes runner env indentUnit template
    e.indentLines indent = e.indented indent ∧ StaysOnText indent e (e.indentLines indent) := by
  intro e
  have nested : Nested e.interval (· < e.intervals.length) e.text := nested_ofNodes runner env indentUnit template
  obtain ⟨growing, closed⟩ := growing_ofNodes runner env indentUnit template
  have whole : e.indentLines indent = e.indented indent := indentLines_eq_indented runner env indentUnit template indent
  refine ⟨whole, whole ▸ ⟨fun id bound => ?_, ?_, fun p q => movedPlace_lt indent e.text, nested, ?_⟩⟩
  · obtain ⟨s, read⟩ := nested.slice?_eq_some bound
    rw [interval_indented e indent bound]
    exact ⟨s, read, slice?_indentText indent read⟩
  · obtain ⟨fore, aft, text, finish⟩ := boundary_finishPosition runner env indentUnit template
    refine ⟨fore, aft, text, finish.symm, ?_, ?_⟩
    · rw [indented, text, Part.indentText_append]
    · rw [indented, finishPosition, Option.getD_some, ← finish, text, movedPlace_append]
  · obtain ⟨again, -, -⟩ := growing.nested_indentLines closed indent
    rwa [whole] at again

end Expansion

end EditorBundles.Snippet
