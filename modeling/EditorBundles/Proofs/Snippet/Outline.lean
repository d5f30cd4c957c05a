import EditorBundles.Proofs.Snippet.EndMarker

/-!
# Outlines

The outline of a snippet is what it is made of outside of all tab stops: texts, and the intervals that lie in
no other, each with all that it holds. Its parts lie one behind the other on the text of the snippet. When the
text of an interval is replaced, the part that holds it grows or shrinks and the parts behind it move, and so a
marker between two parts keeps its place, as long as there is some text between it and the interval behind it.
-/

namespace EditorBundles.Snippet
set_option autoImplicit false
open Text (byteLength IsBoundary)

/-- A part of a snippet: a text that lies in no interval, or an interval with all that it holds. -/
inductive Part where
  | text (s : List Char)
  | interval (id : Nat)
  deriving DecidableEq, Repr

namespace Part

/-- A text with an indent behind every line feed. -/
def indentText (indent s : List Char) : List Char := s.flatMap fun c => if c = '\n' then c :: indent else [c]

/-- A part of a snippet that is indented. -/
def indented (indent : List Char) : Part → Part
  | .text s => .text (indentText indent s)
  | .interval id => .interval id

def id? : Part → Option Nat
  | .text _ => none
  | .interval id => some id

/-- The intervals among parts. -/
def ids (parts : List Part) : List Nat := parts.filterMap id?

@[simp] theorem ids_nil : ids [] = [] := rfl

@[simp] theorem ids_text (s : List Char) (parts : List Part) : ids (.text s :: parts) = ids parts := rfl

@[simp] theorem ids_interval (id : Nat) (parts : List Part) : ids (.interval id :: parts) = id :: ids parts := rfl

@[simp] theorem ids_append (front back : List Part) : ids (front ++ back) = ids front ++ ids back :=
  List.filterMap_append

@[simp] theorem ids_indented (indent : List Char) (parts : List Part) :
    ids (parts.map (indented indent)) = ids parts := by
  rw [ids, ids, List.filterMap_map]
  congr 1
  funext part
  cases part <;> rfl

theorem exists_split_of_mem_ids {id : Nat} {parts : List Part} (member : id ∈ ids parts) :
    ∃ front back, parts = front ++ .interval id :: back := by
  obtain ⟨part, found, same⟩ := List.mem_filterMap.1 member
  cases part with
  | text s => cases same
  | interval other =>
    obtain rfl := Option.some.inj same
    exact List.append_of_mem found

@[simp] theorem indentText_nil (indent : List Char) : indentText indent [] = [] := rfl

theorem indentText_append (indent s t : List Char) :
    indentText indent (s ++ t) = indentText indent s ++ indentText indent t := List.flatMap_append

theorem indentText_ne_nil (indent : List Char) {s : List Char} (some_ : s ≠ []) : indentText indent s ≠ [] := by
  obtain ⟨c, rest, rfl⟩ := List.exists_cons_of_ne_nil some_
  rw [indentText, List.flatMap_cons]
  split <;> simp

/-- Some text comes before the first interval. -/
def Gapped : List Part → Prop
  | [] => True
  | .text s :: rest => s ≠ [] ∨ Gapped rest
  | .interval _ :: _ => False

theorem Gapped.indented (indent : List Char) {parts : List Part} (gap : Gapped parts) :
    Gapped (parts.map (indented indent)) := by
  induction parts with
  | nil => trivial
  | cons part parts ih =>
    cases part with
    | text s => exact gap.imp (indentText_ne_nil indent) ih
    | interval id => exact gap

end Part

open Snippet.Part (ids Gapped)

/-- Parts lie one behind the other from a position on, and make up a text. -/
inductive Laid (f : Nat → Interval) : List Part → Nat → List Char → Prop where
  | nil (position : Nat) : Laid f [] position []
  | text {s more : List Char} {parts : List Part} {position : Nat}
      (rest : Laid f parts (position + byteLength s) more) : Laid f (.text s :: parts) position (s ++ more)
  | interval {id position : Nat} {inner more : List Char} {parts : List Part} (start : (f id).start = position)
      (stop : (f id).stop = position + byteLength inner)
      (rest : Laid f parts (position + byteLength inner) more) :
      Laid f (.interval id :: parts) position (inner ++ more)

variable {f g : Nat → Interval} {parts front back : List Part} {position : Nat} {text fore aft : List Char}

namespace Laid

theorem append (first : Laid f front position fore) (second : Laid f back (position + byteLength fore) aft) :
    Laid f (front ++ back) position (fore ++ aft) := by
  induction first with
  | nil position => simpa using second
  | text rest ih =>
    rw [List.append_assoc]
    refine .text (ih ?_)
    rwa [Nat.add_assoc, ← Text.byteLength_append]
  | interval start stop rest ih =>
    rw [List.append_assoc]
    refine .interval start stop (ih ?_)
    rwa [Nat.add_assoc, ← Text.byteLength_append]

/-- Where some of the parts end the others begin. -/
theorem split (h : Laid f (front ++ back) position text) : ∃ fore aft, text = fore ++ aft ∧
    Laid f front position fore ∧ Laid f back (position + byteLength fore) aft := by
  induction front generalizing position text with
  | nil => exact ⟨[], text, rfl, .nil position, by simpa using h⟩
  | cons part front ih =>
    cases h with
    | text rest =>
      obtain ⟨fore, aft, rfl, first, second⟩ := ih rest
      rw [Nat.add_assoc, ← Text.byteLength_append] at second
      exact ⟨_, aft, (List.append_assoc _ _ _).symm, .text first, second⟩
    | interval start stop rest =>
      obtain ⟨fore, aft, rfl, first, second⟩ := ih rest
      rw [Nat.add_assoc, ← Text.byteLength_append] at second
      exact ⟨_, aft, (List.append_assoc _ _ _).symm, .interval start stop first, second⟩

/-- Parts go elsewhere along with their intervals. -/
theorem shift (h : Laid f parts position text) {position' : Nat} (old new : Nat)
    (place : position' + old = position + new)
    (moved : ∀ i ∈ ids parts, (g i).start + old = (f i).start + new ∧ (g i).stop + old = (f i).stop + new) :
    Laid g parts position' text := by
  induction h generalizing position' with
  | nil position => exact .nil position'
  | text rest ih => exact .text (ih (by omega) moved)
  | @interval id position inner more parts start stop rest ih =>
    obtain ⟨first, last⟩ := moved id (by simp)
    refine .interval (by omega) (by omega) (ih (by omega) fun i member => moved i ?_)
    simp [member]

/-- Parts stay in place as long as their intervals do. -/
theorem congr (h : Laid f parts position text)
    (same : ∀ i ∈ ids parts, (g i).start = (f i).start ∧ (g i).stop = (f i).stop) : Laid g parts position text :=
  h.shift 0 0 rfl same

/-- The intervals among the parts lie on their text. -/
theorem within (h : Laid f parts position text) :
    ∀ i ∈ ids parts, position ≤ (f i).start ∧ (f i).stop ≤ position + byteLength text := by
  induction h with
  | nil position => simp
  | text rest ih =>
    intro i member
    obtain ⟨first, last⟩ := ih i member
    rw [Text.byteLength_append]
    omega
  | interval start stop rest ih =>
    intro i member
    rw [Text.byteLength_append]
    rcases List.mem_cons.1 member with rfl | later
    · omega
    · obtain ⟨first, last⟩ := ih i later
      omega

/-- Parts that are as long as they were make up a text that is as long as it was. -/
theorem length_eq {position' : Nat} {text' : List Char} (h : Laid f parts position text)
    (h' : Laid g parts position' text')
    (same : ∀ i ∈ ids parts, (g i).stop - (g i).start = (f i).stop - (f i).start) :
    byteLength text' = byteLength text := by
  induction h generalizing position' text' with
  | nil position =>
    cases h'
    rfl
  | text rest ih =>
    cases h' with
    | text rest' =>
      have others := ih rest' same
      rw [Text.byteLength_append, Text.byteLength_append, others]
  | @interval id position inner more parts start stop rest ih =>
    cases h' with
    | interval start' stop' rest' =>
      have others := ih rest' fun i member => same i (List.mem_cons_of_mem _ member)
      have here := same id List.mem_cons_self
      rw [Text.byteLength_append, Text.byteLength_append, others]
      omega

/-- With some text in front, the intervals among the parts start behind their position. -/
theorem lt_start (h : Laid f parts position text) (gap : Gapped parts) : ∀ i ∈ ids parts, position < (f i).start := by
  induction h with
  | nil position => simp
  | @text s more parts position rest ih =>
    intro i member
    rcases gap with some_ | gap
    · have first := (rest.within i member).1
      have positive : byteLength s ≠ 0 := fun zero => some_ (Text.eq_nil_of_byteLength_eq_zero zero)
      omega
    · have first := ih gap i member
      omega
  | interval => exact gap.elim

/-- Parts are indented along with their intervals, if the ends of what is indented go to the ends of what
it becomes. -/
theorem indent (h : Laid f parts position text) {indent whole : List Char} {place : Nat → Nat}
    (ends : ∀ x y, whole = x ++ y → place (byteLength x) = byteLength (Part.indentText indent x))
    (moved : ∀ i, (f i).start ≤ (f i).stop → (g i).start = place (f i).start ∧ (g i).stop = place (f i).stop)
    (before after : List Char) (split : whole = before ++ text ++ after) (length : byteLength before = position) :
    Laid g (parts.map (Part.indented indent)) (byteLength (Part.indentText indent before))
      (Part.indentText indent text) := by
  induction h generalizing before with
  | nil position => exact .nil _
  | @text s more parts position rest ih =>
    have here := ih (before ++ s) (by simp [split]) (by simp [length])
    rw [Part.indentText_append, Text.byteLength_append] at here
    rw [Part.indentText_append]
    exact .text here
  | @interval id position inner more parts start stop rest ih =>
    have here := ih (before ++ inner) (by simp [split]) (by simp [length])
    obtain ⟨first, last⟩ := moved id (by omega)
    have opens := ends before (inner ++ more ++ after) (by simp [split])
    have closes := ends (before ++ inner) (more ++ after) (by simp [split])
    rw [Part.indentText_append, Text.byteLength_append] at here
    rw [Part.indentText_append]
    refine .interval ?_ ?_ here
    · rw [first, start, ← length, opens]
    · rw [last, stop, ← length, ← Text.byteLength_append, closes, Part.indentText_append, Text.byteLength_append]

/-- An interval among the parts has its part of the text. -/
theorem inner {id : Nat} (h : Laid f parts position text) (member : id ∈ ids parts) :
    ∃ x m y, text = x ++ m ++ y ∧ (f id).start = position + byteLength x ∧
      (f id).stop = position + byteLength x + byteLength m := by
  obtain ⟨front, back, rfl⟩ := Part.exists_split_of_mem_ids member
  obtain ⟨x, rest, rfl, -, here⟩ := h.split
  cases here with
  | @interval _ _ m y _ start stop _ => exact ⟨x, m, y, by simp, start, stop⟩

/-- Of two intervals among the parts the one with the lower number comes first. -/
theorem stop_le_start {i j : Nat} (h : Laid f parts position text) (ascending : (ids parts).Pairwise (· < ·))
    (one : i ∈ ids parts) (other : j ∈ ids parts) (order : i < j) : (f i).stop ≤ (f j).start := by
  obtain ⟨front, back, rfl⟩ := Part.exists_split_of_mem_ids one
  rw [Part.ids_append, Part.ids_interval] at ascending other
  obtain ⟨-, -, before⟩ := List.pairwise_append.1 ascending
  obtain ⟨x, rest, rfl, -, here⟩ := h.split
  cases here with
  | interval start stop behind =>
    rw [stop]
    rcases List.mem_append.1 other with early | late
    · have := before j early i List.mem_cons_self
      omega
    · rcases List.mem_cons.1 late with rfl | late
      · omega
      · exact (behind.within j late).1

end Laid

/-- A position divides a text into two, which the parts before and behind make up. -/
def Parted (f : Nat → Interval) (front back : List Part) (region : List Char) (finish : Nat) : Prop :=
  ∃ fore aft, region = fore ++ aft ∧ finish = byteLength fore ∧ Laid f front 0 fore ∧
    Laid f back (byteLength fore) aft

/-- The parts before and behind a position make up the whole text. -/
theorem Parted.laid {region : List Char} {finish : Nat} (h : Parted f front back region finish) :
    Laid f (front ++ back) 0 region := by
  obtain ⟨fore, aft, rfl, -, first, second⟩ := h
  exact first.append (by rwa [Nat.zero_add])

/-! ## The outermost intervals -/

/-- The intervals in an outline are the outermost ones among the live ones, and stand in the order of their
numbers. -/
structure Outer (f : Nat → Interval) (live : Nat → Prop) (parts : List Part) : Prop where
  ascending : (ids parts).Pairwise (· < ·)
  top : ∀ i ∈ ids parts, (f i).parent = none
  all : ∀ i, live i → (f i).parent = none → i ∈ ids parts

variable {live : Nat → Prop} {region l old r new : List Char} {id finish i j : Nat}

theorem not_below_of_top (top : (f i).parent = none) : ¬ Below f i j := by
  intro below
  cases below with
  | parent found => simp [top] at found
  | step found _ => simp [top] at found

/-- What is in a live interval is in the outermost interval around that. -/
theorem Nested.exists_root (nested : Nested f live region) (numbered : Numbered f) (alive : live i) :
    ∃ root, live root ∧ (f root).parent = none ∧ (root = i ∨ Below f i root) ∧
      (f root).start ≤ (f i).start ∧ (f i).stop ≤ (f root).stop := by
  induction i using Nat.strongRecOn with
  | ind i ih =>
    cases found : (f i).parent with
    | none => exact ⟨i, alive, found, .inl rfl, Nat.le_refl _, Nat.le_refl _⟩
    | some p =>
      obtain ⟨root, rooted, top, around, first, last⟩ :=
        ih p (numbered.parent_lt i p found) (nested.up i p alive found)
      have here := nested.inside i p alive found
      refine ⟨root, rooted, top, .inr ?_, by omega, by omega⟩
      rcases around with rfl | below
      · exact .parent found
      · exact .step found below

namespace Outer

variable (outer : Outer f live parts)
include outer

/-- Each live interval lies in one of the outline, and so does each of the outline. -/
theorem exists_root (nested : Nested f live region) (numbered : Numbered f) (alive : live i ∨ i ∈ ids parts) :
    ∃ root ∈ ids parts, (root = i ∨ Below f i root) ∧ (f root).start ≤ (f i).start ∧
      (f i).stop ≤ (f root).stop := by
  rcases alive with alive | member
  · obtain ⟨root, rooted, top, around, inside⟩ := nested.exists_root numbered alive
    exact ⟨root, outer.all root rooted top, around, inside⟩
  · exact ⟨i, member, .inl rfl, Nat.le_refl _, Nat.le_refl _⟩

/-- The intervals of an outline nest along with the live ones. A mirror that shows a tab stop inside another one
stays in the outline when it is live no longer. -/
theorem nested (nested : Nested f live region) (numbered : Numbered f) (laid : Laid f parts 0 region) :
    Nested f (fun i => live i ∨ i ∈ ids parts) region := by
  have bounds (i : Nat) (member : i ∈ ids parts) : (f i).start ≤ (f i).stop ∧ IsBoundary region (f i).start ∧
      IsBoundary region (f i).stop := by
    obtain ⟨x, m, y, rfl, start, stop⟩ := laid.inner member
    rw [start, stop, Nat.zero_add]
    refine ⟨Nat.le_add_right _ _, ?_, ?_⟩
    · rw [List.append_assoc]
      exact .length x (m ++ y)
    · rw [← Text.byteLength_append]
      exact .length (x ++ m) y
  constructor
  case start_le_stop => exact fun i alive => alive.elim (nested.start_le_stop i) fun member => (bounds i member).1
  case start_boundary =>
    exact fun i alive => alive.elim (nested.start_boundary i) fun member => (bounds i member).2.1
  case stop_boundary => exact fun i alive => alive.elim (nested.stop_boundary i) fun member => (bounds i member).2.2
  case up =>
    rintro i p (alive | member) found
    · exact .inl (nested.up i p alive found)
    · simp [outer.top i member] at found
  case inside =>
    rintro i p (alive | member) found
    · exact nested.inside i p alive found
    · simp [outer.top i member] at found
  case apart =>
    intro i j one other order
    obtain ⟨root, rooted, around, first, last⟩ := outer.exists_root nested numbered one
    obtain ⟨root', rooted', around', first', last'⟩ := outer.exists_root nested numbered other
    rcases Nat.lt_trichotomy root root' with before | rfl | behind
    · have := laid.stop_le_start outer.ascending rooted rooted' before
      exact .inr (by omega)
    · -- both lie in the same interval of the outline
      rcases around with rfl | below
      · exact .inl (around'.resolve_left (by omega))
      have alive : live i := one.resolve_right fun member => not_below_of_top (outer.top i member) below
      rcases around' with rfl | below'
      · have := numbered.lt below
        omega
      have alive' : live j := other.resolve_right fun member => not_below_of_top (outer.top j member) below'
      exact nested.apart i j alive alive' order
    · have bound : root ≤ i := around.elim Nat.le_of_eq fun below => Nat.le_of_lt (numbered.lt below)
      rcases around' with rfl | below'
      · omega
      · have inner := numbered.between root' root j behind (by omega) below'
        exact absurd inner (not_below_of_top (outer.top root rooted))

end Outer

/-- Where the intervals of an outline go when the text of an interval inside one of them is replaced. -/
theorem Splice.outer (h : Splice f g live id l old new r) {root : Nat} (around : root = id ∨ Below f id root)
    (top : (f root).parent = none) (alive : live i) (outer : (f i).parent = none) :
    (i < root → (g i).start = (f i).start ∧ (g i).stop = (f i).stop) ∧
      (root < i → (g i).start + byteLength old = (f i).start + byteLength new ∧
        (g i).stop + byteLength old = (f i).stop + byteLength new) := by
  have bound : root ≤ id := around.elim Nat.le_of_eq fun below => Nat.le_of_lt (h.numbered.lt below)
  constructor
  · intro before
    refine h.moves.kept i alive (by omega) fun below => not_below_of_top top (j := i) ?_
    rcases around with rfl | holds
    · exact below
    · exact h.numbered.between i root id before (h.numbered.lt holds) below
  · intro behind
    refine h.moves.moved i alive ?_
    by_contra early
    refine not_below_of_top outer (j := root) ?_
    rcases around with rfl | holds
    · omega
    · by_cases same : i = id
      · exact same ▸ holds
      · exact h.numbered.between root i id behind (by omega) holds

/-- When the text of an interval is replaced, the part that holds it has the new text and the others keep theirs. -/
theorem Laid.splice (laid : Laid f parts position text) (h : Splice f g live id l old new r)
    (ascending : (ids parts).Pairwise (· < ·)) (tops : ∀ i ∈ ids parts, live i ∧ (f i).parent = none) {root : Nat}
    (member : root ∈ ids parts) (around : root = id ∨ Below f id root) (ahead behind : List Char)
    (same : l ++ old ++ r = ahead ++ text ++ behind) (length : byteLength ahead = position) :
    ∃ text', l ++ new ++ r = ahead ++ text' ++ behind ∧ Laid g parts position text' ∧
      byteLength text' + byteLength old = byteLength text + byteLength new := by
  obtain ⟨alive, top⟩ := tops root member
  obtain ⟨front, back, rfl⟩ := Part.exists_split_of_mem_ids member
  rw [Part.ids_append, Part.ids_interval] at ascending tops
  obtain ⟨-, others, before⟩ := List.pairwise_append.1 ascending
  obtain ⟨x, rest, rfl, first, here⟩ := laid.split
  cases here with
  | @interval _ _ m y _ start stop last =>
    obtain ⟨start', stop'⟩ := h.moves.grown root alive around
    have holds : (f root).start ≤ byteLength l ∧ byteLength l + byteLength old ≤ (f root).stop := by
      have opens := h.start
      have closes := h.stop
      rcases around with rfl | below
      · omega
      · obtain ⟨-, lower, upper⟩ := h.nested.around h.alive below
        omega
    -- the replaced text lies in that of the part
    obtain ⟨u, rfl, rest⟩ := Text.exists_between (a := ahead ++ x) (b := m ++ (y ++ behind)) (c := l) (d := old ++ r)
      (by simpa using same.symm) (by rw [Text.byteLength_append]; omega)
    obtain ⟨v, rfl, rfl⟩ := Text.exists_between (a := u ++ old) (b := r) (c := m) (d := y ++ behind)
      (by simpa using rest.symm) (by simp only [Text.byteLength_append] at holds ⊢; omega)
    simp only [Text.byteLength_append] at stop stop' last holds
    refine ⟨x ++ ((u ++ new ++ v) ++ y), by simp, ?_, by simp only [Text.byteLength_append]; omega⟩
    refine Laid.append (first.congr fun i early => ?_) (.interval (by omega) ?_ ?_)
    · have lower := before i early root List.mem_cons_self
      obtain ⟨alive', outer⟩ := tops i (List.mem_append_left _ early)
      exact (h.outer around top alive' outer).1 lower
    · simp only [Text.byteLength_append]
      omega
    · refine last.shift (byteLength old) (byteLength new) ?_ fun i late => ?_
      · simp only [Text.byteLength_append]
        omega
      · have lower := (List.pairwise_cons.1 others).1 i late
        obtain ⟨alive', outer⟩ := tops i (List.mem_append_right _ (List.mem_cons_of_mem _ late))
        exact (h.outer around top alive' outer).2 lower

/-- Replacing the text of an interval leaves a marker between the parts that it stands between, if there is some
text between it and the interval behind it. -/
theorem Parted.splice (parted : Parted f front back (l ++ old ++ r) finish) (h : Splice f g live id l old new r)
    (outer : Outer f live (front ++ back)) (tops : ∀ i ∈ ids (front ++ back), live i) (gap : Gapped back) :
    Parted g front back (l ++ new ++ r)
      (if (f id).start ≤ finish then shifted finish ((byteLength new : Int) - byteLength old) else finish) := by
  obtain ⟨fore, aft, same, rfl, first, second⟩ := parted
  obtain ⟨root, member, around, lower, upper⟩ := outer.exists_root h.nested h.numbered (.inl h.alive)
  have top := outer.top root member
  have ascending := outer.ascending
  have live' (i : Nat) (member : i ∈ ids (front ++ back)) : live i ∧ (f i).parent = none :=
    ⟨tops i member, outer.top i member⟩
  have order := h.nested.start_le_stop id h.alive
  rw [Part.ids_append] at member ascending live'
  obtain ⟨ascending₁, ascending₂, apart⟩ := List.pairwise_append.1 ascending
  rcases List.mem_append.1 member with early | late
  · -- the replaced text is in front of the marker, which moves with what is behind it
    obtain ⟨fore', text, laid, length⟩ := first.splice h ascending₁
      (fun i member => live' i (List.mem_append_left _ member)) early around [] aft (by simpa using same) rfl
    have bound := (first.within root early).2
    rw [if_pos (by omega)]
    have moved : shifted (byteLength fore) ((byteLength new : Int) - byteLength old) = byteLength fore' := by
      rw [shifted]
      omega
    refine ⟨fore', aft, by simpa using text, moved, laid, ?_⟩
    refine second.shift (byteLength old) (byteLength new) (by omega) fun i member => ?_
    obtain ⟨alive, outer⟩ := live' i (List.mem_append_right _ member)
    exact (h.outer around top alive outer).2 (apart root early i member)
  · obtain ⟨aft', text, laid, -⟩ := second.splice h ascending₂
      (fun i member => live' i (List.mem_append_right _ member)) late around fore [] (by simpa using same) rfl
    have bound := second.lt_start gap root late
    rw [if_neg (by omega)]
    refine ⟨fore, aft', by simpa using text, rfl, first.congr fun i member => ?_, laid⟩
    obtain ⟨alive, outer⟩ := live' i (List.mem_append_left _ member)
    exact (h.outer around top alive outer).1 (apart i member root late)

/-- A marker between two parts lies in no live interval, if there is some text between it and the interval behind
it. -/
theorem Parted.marked (parted : Parted f front back region finish) (nested : Nested f live region)
    (numbered : Numbered f) (outer : Outer f live (front ++ back)) (gap : Gapped back) :
    Marked f live region finish := by
  obtain ⟨fore, aft, rfl, rfl, first, second⟩ := parted
  refine ⟨.length fore aft, fun i alive => ?_⟩
  obtain ⟨root, member, -, lower, upper⟩ := outer.exists_root nested numbered (.inl alive)
  rw [Part.ids_append] at member
  rcases List.mem_append.1 member with early | late
  · have bound := (first.within root early).2
    exact .inr (by omega)
  · have bound := second.lt_start gap root late
    exact .inl (by omega)

end EditorBundles.Snippet
