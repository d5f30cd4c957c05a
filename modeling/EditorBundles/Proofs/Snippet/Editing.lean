import EditorBundles.Proofs.Snippet.Expansion
import EditorBundles.Proofs.Snippet.Refresh
import EditorBundles.Snippet.Editor

/-!
# Runs of an editor

While a session is going on, the buffer is what stood before the cursor when it was started, the text of
the snippet, and what stood behind the cursor; the live intervals nest on the text of the snippet. Every
command that leaves the session going keeps this, and an edit inside the current tab stop rewrites the
tab stop and what shows it.
-/

namespace EditorBundles.Snippet.Editor
set_option autoImplicit false
open Text (byteLength IsBoundary)

/-- An editor fills in a snippet between `before` and `after` and is at a tab stop with the text `old`. -/
structure Filling (e : Editor) (s : Session) (stop : Stop) (before l old r after : List Char) : Prop where
  session : e.session = some s
  lies : s.Over e.buffer before (l ++ old ++ r) after
  current : s.stops.get? s.current = some stop
  first : (s.interval stop.interval).start = byteLength l
  last : (s.interval stop.interval).stop = byteLength l + byteLength old

/-- What is typed between two texts for `text`: the blanks that the line starts with follow a lone line
feed. -/
def typedAt (front back text : List Char) : List Char :=
  if text = ['\n'] then '\n' :: (Buffer.lineFrom front back).takeWhile fun c => c = ' ' || c = '\t' else text

/-- What typing `text` makes of the text `old` of a tab stop that stands between `front` and `back`: a
selection stands for all of it, and otherwise `text` goes in at the cursor. -/
inductive Typed (b : Buffer) (front old back text : List Char) : List Char → Prop where
  | whole (selected : b.isSelected = true) : Typed b front old back text (typedAt front back text)
  | into {l r : List Char} (unselected : b.isSelected = false) (split : old = l ++ r)
      (cursor : b.cursor = byteLength (front ++ l)) :
      Typed b front old back text (l ++ typedAt (front ++ l) (r ++ back) text ++ r)

/-- The session of an editor is `s` after the text of the current tab stop has become `content`. -/
def Follows (e : Editor) (s : Session) (stop : Stop) (before region after content : List Char) : Prop :=
  ∃ s' region', e.session = some s' ∧ s'.Over e.buffer before region' after ∧
    s.Edited s' region region' s.current stop.interval content

/-- A buffer holds the text of a snippet with the text `content` at the current tab stop. -/
structure Retyped (b : Buffer) (before l content r after : List Char) : Prop where
  text : b.text = before ++ (l ++ content ++ r) ++ after
  cursor : IsBoundary b.text b.cursor
  selection : b.selection = none

/-- `e'` is `e` after the text `old` of the current tab stop has become `content` in the buffer and the session
was brought up to date. -/
def Rewrites (e : Editor) (s : Session) (before l old r after content : List Char) (e' : Editor) : Prop :=
  ∃ b s' b', Retyped b before l content r after ∧
    s.refresh? b s.current ((byteLength content : Int) - byteLength old) true = some (s', b') ∧
    e' = { e with buffer := b', session := some s' }

/-- `e'` is `e` after the session was brought up to date over the buffer `b`, in which the text `old` of the current
tab stop has become `content`. -/
def Refreshes (e : Editor) (s : Session) (old content : List Char) (b : Buffer) (e' : Editor) : Prop :=
  ∃ s' b', s.refresh? b s.current ((byteLength content : Int) - byteLength old) true = some (s', b') ∧
    e' = { e with buffer := b', session := some s' }

variable {e e' : Editor} {s : Session} {stop : Stop} {before l old r after content : List Char}

theorem Refreshes.rewrites {b : Buffer} (h : e.Refreshes s old content b e') (retyped : Retyped b before l content r after) :
    e.Rewrites s before l old r after content e' := by
  obtain ⟨s', b', refreshed, same⟩ := h
  exact ⟨b, s', b', retyped, refreshed, same⟩

/-- What is typed for a text at the cursor, whatever is done with it. -/
theorem bind_typedAt {α : Type} {b : Buffer} {front back : List Char} (split : b.text = front ++ back)
    (cursor : b.cursor = byteLength front) (text : List Char) (k : List Char → Option α) :
    (if text = ['\n'] then b.newline?.bind k else (pure text : Option (List Char)).bind k) =
      k (typedAt front back text) := by
  by_cases lone : text = ['\n']
  · rw [if_pos lone, lone, Buffer.newline?, Buffer.lineIndent?, split, cursor, Text.splitAt?_append]
    rfl
  · rw [if_neg lone, typedAt, if_neg lone]
    rfl

namespace Filling

variable (h : e.Filling s stop before l old r after)
include h

theorem text : e.buffer.text = (before ++ l) ++ old ++ (r ++ after) := by simp [h.lies.text]

/-- Where the current tab stop stands. -/
theorem range :
    s.range stop.interval = (byteLength (before ++ l), byteLength (before ++ l) + byteLength old) := by
  rw [Session.range, h.lies.offset, h.first, h.last, Text.byteLength_append, Nat.add_assoc]

theorem stopRange? : s.stopRange? s.current =
    some (byteLength (before ++ l), byteLength (before ++ l) + byteLength old) := by
  rw [Session.stopRange?, h.current, Option.map_some, h.range]

/-- Once its text has been changed in the buffer, the current tab stop is brought up to date. -/
theorem refreshes {b : Buffer} (retyped : Retyped b before l content r after) {distance : Int}
    (change : distance = (byteLength content : Int) - byteLength old) :
    ∃ s' b', s.refresh? b s.current distance true = some (s', b') ∧
      e.Refreshes s old content b { e with buffer := b', session := some s' } := by
  subst change
  obtain ⟨s', b', -, refreshed, -⟩ :=
    h.lies.tree.refresh?_edited h.lies.offset h.current h.first h.last retyped.text retyped.cursor rfl
  exact ⟨s', b', refreshed, s', b', refreshed, rfl⟩

/-- What shows the current tab stop follows its text. -/
theorem follows (rewrites : e.Rewrites s before l old r after content e') :
    Follows e' s stop before (l ++ old ++ r) after content := by
  obtain ⟨b, s', b', retyped, refreshed, rfl⟩ := rewrites
  obtain ⟨t, b₁, region', refreshed₁, lies, edited⟩ :=
    h.lies.tree.refresh?_edited h.lies.offset h.current h.first h.last retyped.text retyped.cursor rfl
  obtain ⟨rfl, rfl⟩ := Prod.mk.inj (Option.some.inj (refreshed.symm.trans refreshed₁))
  exact ⟨s', region', rfl, lies, edited⟩

/-- Typing over a selection inside the current tab stop. -/
theorem insert?_selected (selected : e.buffer.isSelected = true)
    (inside : holds (s.range stop.interval) e.buffer.cursor = true) (text : List Char) :
    ∃ b e', e.insert? text = some e' ∧ Retyped b before l (typedAt (before ++ l) (r ++ after) text) r after ∧
      b.cursor = byteLength (before ++ l ++ typedAt (before ++ l) (r ++ after) text) ∧
      e.Refreshes s old (typedAt (before ++ l) (r ++ after) text) b e' := by
  have place : e.buffer.deselect.text = (before ++ l) ++ old ++ (r ++ after) := h.text
  obtain ⟨b₁, deleted, text₁, -, selection₁, -⟩ := Buffer.delete?_eq place h.lies.cursor
  have cursor₁ : (b₁.setCursor (byteLength (before ++ l))).cursor = byteLength (before ++ l) := by
    refine Buffer.setCursor_of_le ?_
    rw [text₁]
    exact (IsBoundary.length _ _).le
  have text₁' : (b₁.setCursor (byteLength (before ++ l))).text = (before ++ l) ++ (r ++ after) := text₁
  generalize typing : typedAt (before ++ l) (r ++ after) text = typed
  obtain ⟨b₂, inserted, text₂, cursor₂, selection₂, -⟩ := Buffer.type?_eq text₁' cursor₁ typed
  have bound : IsBoundary b₂.text b₂.cursor := by
    rw [text₂, cursor₂, ← Text.byteLength_append]
    exact .length _ _
  have text₂' : b₂.text = before ++ (l ++ typed ++ r) ++ after := by simp [text₂]
  have retyped : Retyped b₂ before l typed r after := ⟨text₂', bound, selection₂.trans selection₁⟩
  obtain ⟨s', b', refreshed, refreshes⟩ := h.refreshes retyped rfl
  refine ⟨b₂, _, ?_, retyped, by rw [cursor₂, Text.byteLength_append _ typed], refreshes⟩
  have length : byteLength (before ++ l) + byteLength old - byteLength (before ++ l) = byteLength old := by omega
  have emptied : (pure (b₁.setCursor (byteLength (before ++ l))) : Option Buffer) =
      some (b₁.setCursor (byteLength (before ++ l))) := rfl
  rw [h.range] at inside
  rw [insert?, h.session]
  simp only [h.stopRange?, Option.filter_some, inside, if_true, selected, Option.bind_eq_bind, deleted,
    Option.bind_some, length]
  rw [emptied, Option.bind_some, bind_typedAt text₁' cursor₁, typing, inserted, Option.bind_some, refreshed]
  rfl

/-- Typing at the cursor inside the current tab stop. -/
theorem insert?_unselected (unselected : e.buffer.isSelected = false) {left right : List Char}
    (split : old = left ++ right)
    (cursor : e.buffer.cursor = byteLength (before ++ l ++ left)) (text : List Char) {typed : List Char}
    (typing : typedAt (before ++ l ++ left) (right ++ (r ++ after)) text = typed) :
    ∃ b e', e.insert? text = some e' ∧ Retyped b before l (left ++ typed ++ right) r after ∧
      b.cursor = byteLength (before ++ l ++ left ++ typed) ∧ e.Refreshes s old (left ++ typed ++ right) b e' := by
  have place : e.buffer.text = (before ++ l ++ left) ++ (right ++ (r ++ after)) := by simp [h.text, split]
  have inside :
      holds (byteLength (before ++ l), byteLength (before ++ l) + byteLength old) e.buffer.cursor = true := by
    rw [cursor, split]
    simp only [holds, Text.byteLength_append, Bool.and_eq_true, decide_eq_true_eq]
    omega
  obtain ⟨b₁, inserted, text₁, cursor₁, selection₁, -⟩ := Buffer.type?_eq place cursor typed
  have bound : IsBoundary b₁.text b₁.cursor := by
    rw [text₁, cursor₁, ← Text.byteLength_append]
    exact .length _ _
  have change : (byteLength typed : Int) - (0 : Nat) =
      (byteLength (left ++ typed ++ right) : Int) - byteLength old := by
    rw [split]
    simp only [Text.byteLength_append]
    omega
  have text₁' : b₁.text = before ++ (l ++ (left ++ typed ++ right) ++ r) ++ after := by simp [text₁]
  have none_ : e.buffer.selection = none := Option.isNone_iff_eq_none.1 (by simpa [Buffer.isSelected] using unselected)
  have retyped : Retyped b₁ before l (left ++ typed ++ right) r after := ⟨text₁', bound, selection₁.trans none_⟩
  obtain ⟨s', b', refreshed, refreshes⟩ := h.refreshes retyped change
  refine ⟨b₁, _, ?_, retyped, by rw [cursor₁, Text.byteLength_append _ typed], refreshes⟩
  rw [insert?, h.session]
  simp only [h.stopRange?, Option.filter_some, inside, if_true, unselected, Bool.false_eq_true, if_false,
    Option.bind_eq_bind]
  have whole : (pure e.buffer : Option Buffer) = some e.buffer := rfl
  rw [whole, Option.bind_some, bind_typedAt place cursor, typing, inserted, Option.bind_some, refreshed]
  rfl

/-- A cursor inside the current tab stop splits its text. -/
theorem split_cursor (inside : holds (s.range stop.interval) e.buffer.cursor = true) :
    ∃ left right, old = left ++ right ∧ e.buffer.cursor = byteLength (before ++ l ++ left) := by
  have cursor := h.lies.cursor
  rw [h.text] at cursor
  rw [h.range] at inside
  simp only [holds, Bool.and_eq_true, decide_eq_true_eq] at inside
  exact cursor.middle inside.1 inside.2

/-- Typing inside the current tab stop rewrites it. -/
theorem rewrites_insert? (inside : holds (s.range stop.interval) e.buffer.cursor = true) (text : List Char) :
    ∃ e' content, e.insert? text = some e' ∧ Typed e.buffer (before ++ l) old (r ++ after) text content ∧
      e.Rewrites s before l old r after content e' := by
  cases selection : e.buffer.isSelected with
  | true =>
    obtain ⟨b, e', inserted, retyped, -, refreshes⟩ := h.insert?_selected selection inside text
    exact ⟨e', _, inserted, .whole selection, refreshes.rewrites retyped⟩
  | false =>
    obtain ⟨left, right, split, place⟩ := h.split_cursor inside
    obtain ⟨b, e', inserted, retyped, -, refreshes⟩ := h.insert?_unselected selection split place text rfl
    exact ⟨e', _, inserted, .into selection split place, refreshes.rewrites retyped⟩

/-- Typing inside the current tab stop. -/
theorem insert? (inside : holds (s.range stop.interval) e.buffer.cursor = true) (text : List Char) :
    ∃ e' content, e.insert? text = some e' ∧ Typed e.buffer (before ++ l) old (r ++ after) text content ∧
      Follows e' s stop before (l ++ old ++ r) after content := by
  obtain ⟨e', content, inserted, typed, rewrites⟩ := h.rewrites_insert? inside text
  exact ⟨e', content, inserted, typed, h.follows rewrites⟩

/-- Typing elsewhere ends the session. -/
theorem insert?_outside (outside : holds (s.range stop.interval) e.buffer.cursor = false) {text : List Char}
    (inserted : e.insert? text = some e') : e'.session = none := by
  rw [h.range] at outside
  rw [Editor.insert?, h.session] at inserted
  simp only [h.stopRange?, Option.filter_some, outside, Bool.false_eq_true, if_false] at inserted
  obtain ⟨b, -, result⟩ := Option.bind_eq_some_iff.1 inserted
  obtain rfl := Option.some.inj result
  rfl

/-- Deleting some of the text of the current tab stop. -/
theorem delete?_part {left gone right : List Char} (split : old = left ++ gone ++ right) (some_ : gone ≠ []) :
    ∃ b e', e.delete? (byteLength (before ++ l ++ left)) (byteLength (before ++ l ++ left) + byteLength gone) =
        some e' ∧
      e.buffer.deselect.delete? (byteLength (before ++ l ++ left)) (byteLength (before ++ l ++ left) + byteLength gone) =
        some b ∧
      Retyped b before l (left ++ right) r after ∧ e.Refreshes s old (left ++ right) b e' := by
  have positive : 0 < byteLength gone :=
    Nat.pos_of_ne_zero fun zero => some_ (Text.eq_nil_of_byteLength_eq_zero zero)
  have place : e.buffer.deselect.text = (before ++ l ++ left) ++ gone ++ (right ++ (r ++ after)) := by
    show e.buffer.text = _
    simp [h.text, split]
  obtain ⟨b₁, deleted, text₁, cursor₁, selection₁, -⟩ := Buffer.delete?_eq place h.lies.cursor
  have text₁' : b₁.text = before ++ (l ++ (left ++ right) ++ r) ++ after := by simp [text₁]
  have change :
      -((byteLength (before ++ l ++ left) + byteLength gone - byteLength (before ++ l ++ left) : Nat) : Int) =
      (byteLength (left ++ right) : Int) - byteLength old := by
    rw [split]
    simp only [Text.byteLength_append]
    omega
  have retyped : Retyped b₁ before l (left ++ right) r after := ⟨text₁', cursor₁, selection₁⟩
  obtain ⟨s', b', refreshed, refreshes⟩ := h.refreshes retyped change
  refine ⟨b₁, _, ?_, deleted, retyped, refreshes⟩
  have inside : (decide (byteLength (before ++ l) ≤ byteLength (before ++ l ++ left)) &&
      decide (byteLength (before ++ l ++ left) + byteLength gone ≤ byteLength (before ++ l) + byteLength old)) = true := by
    rw [split]
    simp only [Text.byteLength_append, Bool.and_eq_true, decide_eq_true_eq]
    omega
  have nonempty : byteLength (before ++ l ++ left) < byteLength (before ++ l ++ left) + byteLength gone := by omega
  rw [Editor.delete?, h.session]
  simp only [h.stopRange?, Option.filter_some, inside, nonempty, if_true, Option.bind_eq_bind, deleted,
    Option.bind_some, refreshed]
  rfl

/-- Two places inside the current tab stop split its text. -/
theorem split_range {start last : Nat} (order : start ≤ last) (lower : (s.range stop.interval).1 ≤ start)
    (upper : last ≤ (s.range stop.interval).2) (startBound : IsBoundary e.buffer.text start)
    (lastBound : IsBoundary e.buffer.text last) :
    ∃ left gone right, old = left ++ gone ++ right ∧ start = byteLength (before ++ l ++ left) ∧
      last = byteLength (before ++ l ++ left) + byteLength gone := by
  rw [h.text] at startBound lastBound
  rw [h.range] at lower upper
  simp only [← Text.byteLength_append] at lower upper
  have lower' : byteLength (before ++ l) ≤ last := by omega
  have upper' : start ≤ byteLength (before ++ l ++ old) := by omega
  obtain ⟨left, gone, right, split, length, length'⟩ := ((startBound.of_le upper').of_ge lower).parts
    ((lastBound.of_le upper).of_ge lower') (by omega)
  refine ⟨left, gone, right, split, ?_⟩
  rw [Text.byteLength_append, length]
  omega

/-- Deleting between two places inside the current tab stop rewrites it. -/
theorem rewrites_delete? {start last : Nat} (some_ : start < last) (lower : (s.range stop.interval).1 ≤ start)
    (upper : last ≤ (s.range stop.interval).2) (startBound : IsBoundary e.buffer.text start)
    (lastBound : IsBoundary e.buffer.text last) :
    ∃ left gone right e', old = left ++ gone ++ right ∧ start = byteLength (before ++ l ++ left) ∧
      last = byteLength (before ++ l ++ left) + byteLength gone ∧ e.delete? start last = some e' ∧
      e.Rewrites s before l old r after (left ++ right) e' := by
  obtain ⟨left, gone, right, split, rfl, rfl⟩ :=
    h.split_range (Nat.le_of_lt some_) lower upper startBound lastBound
  have gone_ne : gone ≠ [] := by
    rintro rfl
    exact Nat.lt_irrefl _ some_
  obtain ⟨b, e', deleted, -, retyped, refreshes⟩ := h.delete?_part split gone_ne
  exact ⟨left, gone, right, e', split, rfl, rfl, deleted, refreshes.rewrites retyped⟩

/-- Deleting between two places inside the current tab stop. -/
theorem delete? {start last : Nat} (some_ : start < last) (lower : (s.range stop.interval).1 ≤ start)
    (upper : last ≤ (s.range stop.interval).2) (startBound : IsBoundary e.buffer.text start)
    (lastBound : IsBoundary e.buffer.text last) :
    ∃ left gone right e', old = left ++ gone ++ right ∧ start = byteLength (before ++ l ++ left) ∧
      last = byteLength (before ++ l ++ left) + byteLength gone ∧ e.delete? start last = some e' ∧
      Follows e' s stop before (l ++ old ++ r) after (left ++ right) := by
  obtain ⟨left, gone, right, e', split, start_eq, last_eq, deleted, rewrites⟩ :=
    h.rewrites_delete? some_ lower upper startBound lastBound
  exact ⟨left, gone, right, e', split, start_eq, last_eq, deleted, h.follows rewrites⟩

end Filling

/-! ## Steps -/

/-- An editor fills in a snippet between two texts. -/
def InSession (e : Editor) (before after : List Char) : Prop :=
  ∃ s stop l old r, e.Filling s stop before l old r after

/-- An editor fills in a snippet between two texts, and its session has a property on the text of the
snippet. -/
def Upholds (P : Session → List Char → Prop) (e : Editor) (before after : List Char) : Prop :=
  ∃ s stop l old r, e.Filling s stop before l old r after ∧ P s (l ++ old ++ r)

/-- A property that sessions have whichever tab stop is the current one. -/
structure Movable (P : Session → List Char → Prop) : Prop where
  enter : ∀ {s region} number, P s region → P { s with current := number } region

/-- A property that sessions keep when the current tab stop is rewritten. -/
structure Enduring (P : Session → List Char → Prop) : Prop extends Movable P where
  rewrites : ∀ {e e' : Editor} {s : Session} {stop : Stop} {before l old r after content : List Char},
    e.Filling s stop before l old r after → e.Rewrites s before l old r after content e' → P s (l ++ old ++ r) →
      e'.Upholds P before after

/-- A property that sessions start with: they have it once all tab stops are up to date, whichever of them
is the current one. -/
structure Initial (P : Session → List Char → Prop) : Prop extends Movable P where
  start : ∀ {s t : Session} {b b' : Buffer} {before region region' after},
    s.Over b before region after → (Entries.keys s.stops).Pairwise (· < ·) →
      s.refreshAll? b (s.stops.map (·.1)) = some (t, b') → t.Over b' before region' after → P t region'

/-- A property that sessions start with and keep when the current tab stop is edited. -/
structure Lasting (P : Session → List Char → Prop) : Prop extends Initial P where
  edited : ∀ {s t : Session} {region region' content stop}, s.Tree region → t.Tree region' →
    s.stops.get? s.current = some stop →
      P s region → s.Edited t region region' s.current stop.interval content → P t region'

/-- An editor is filling in a snippet if it is at one of its tab stops. -/
theorem filling_of_over {region : List Char} (session : e.session = some s)
    (lies : s.Over e.buffer before region after)
    (current : s.stops.get? s.current = some stop) :
    ∃ l old r, region = l ++ old ++ r ∧ e.Filling s stop before l old r after := by
  have alive := Session.mem_liveIds_of_mem_stopIds (Session.mem_stopIds_of_get? current)
  obtain ⟨l, old, r, rfl, first, last, -⟩ := lies.parts alive
  exact ⟨l, old, r, rfl, session, lies, current, first, last⟩

variable {P : Session → List Char → Prop}

/-- A session may be at any tab stop. -/
theorem over_enter {b : Buffer} {region : List Char} (lies : s.Over b before region after) (number : Nat) :
    ({ s with current := number } : Session).Over b before region after := by
  obtain ⟨numbered, nested, within, distinct, numbers, parent_stop⟩ := lies.tree
  exact ⟨lies.text, lies.offset, lies.cursor, numbered, nested, within, distinct, numbers, parent_stop⟩

/-- A session goes on at another tab stop. -/
theorem filling_enter {region : List Char} (lies : s.Over e.buffer before region after) {number : Nat}
    (found : (number, stop) ∈ s.stops) : ∃ stop' l old r, region = l ++ old ++ r ∧
      (e.enter s number (s.range stop.interval)).Filling { s with current := number } stop' before l old r after := by
  have alive : stop.interval ∈ s.liveIds := Session.mem_liveIds_of_mem_stopIds (List.mem_map_of_mem found)
  have place : IsBoundary e.buffer.text (s.range stop.interval).1 := (lies.boundary_range alive).1
  obtain ⟨stop', current⟩ : ∃ stop', s.stops.get? number = some stop' := by
    refine Option.ne_none_iff_exists'.1 fun missing => ?_
    exact Entries.get?_eq_none_iff.1 missing (List.mem_map_of_mem found)
  have entered : s.Over (e.enter s number (s.range stop.interval)).buffer before region after :=
    ⟨lies.text, lies.offset, Buffer.isBoundary_setCursor place, lies.tree⟩
  obtain ⟨l, old, r, same, filling⟩ := filling_of_over (e := e.enter s number (s.range stop.interval)) rfl
    (over_enter entered number) current
  exact ⟨stop', l, old, r, same, filling⟩

/-- A session keeps at another tab stop what it holds at any. -/
theorem upholds_enter (movable : Movable P) {region : List Char} (lies : s.Over e.buffer before region after)
    (holds : P s region) {number : Nat} (found : (number, stop) ∈ s.stops) :
    (e.enter s number (s.range stop.interval)).Upholds P before after := by
  obtain ⟨stop', l, old, r, same, filling⟩ := filling_enter (e := e) lies found
  exact ⟨_, stop', l, old, r, filling, same ▸ movable.enter number holds⟩

namespace Filling

variable (h : e.Filling s stop before l old r after)
include h

/-- The cursor moves, and the selection changes. -/
theorem withBuffer {b : Buffer} (text : b.text = e.buffer.text) (cursor : IsBoundary b.text b.cursor)
    (calls : List Call) :
    ({ e with buffer := b, calls := calls } : Editor).Filling s stop before l old r after :=
  ⟨h.session, ⟨text.trans h.lies.text, h.lies.offset, cursor, h.lies.tree⟩, h.current, h.first, h.last⟩

/-- Typing goes on with the session only if it is inside the current tab stop. -/
theorem rewrites_of_insert? {text : List Char} (inserted : e.insert? text = some e') (active : e'.isActive = true) :
    ∃ content, e.Rewrites s before l old r after content e' := by
  cases inside : holds (s.range stop.interval) e.buffer.cursor with
  | true =>
    obtain ⟨e'', content, inserted', -, rewrites⟩ := h.rewrites_insert? inside text
    obtain rfl := Option.some.inj (inserted.symm.trans inserted')
    exact ⟨content, rewrites⟩
  | false => simp [isActive, h.insert?_outside inside inserted] at active

theorem follows_insert? {text : List Char} (inserted : e.insert? text = some e') (active : e'.isActive = true) :
    ∃ content, Follows e' s stop before (l ++ old ++ r) after content :=
  (h.rewrites_of_insert? inserted active).imp fun _ => h.follows

/-- Deleting text goes on with the session only if it is inside the current tab stop. -/
theorem rewrites_of_delete? {start last : Nat} (some_ : start < last) (deleted : e.delete? start last = some e')
    (active : e'.isActive = true) : ∃ content, e.Rewrites s before l old r after content e' := by
  have range := h.range
  have asked := deleted
  rw [Editor.delete?, h.session] at deleted
  simp only [h.stopRange?, Option.filter_some, some_, if_true] at deleted
  split at deleted
  · obtain ⟨b, -, result⟩ := Option.bind_eq_some_iff.1 deleted
    obtain rfl := Option.some.inj result
    cases active
  · rename_i inside
    have inside : (s.range stop.interval).1 ≤ start ∧ last ≤ (s.range stop.interval).2 := by
      rw [range]
      simpa using (Option.ite_none_right_eq_some.1 inside).1
    -- the buffer has deleted, so it was asked to between boundaries
    obtain ⟨b, cut, -⟩ := Option.bind_eq_some_iff.1 deleted
    obtain ⟨startBound, lastBound⟩ := Buffer.isBoundary_of_delete? (b := e.buffer.deselect) cut
    obtain ⟨_, _, _, e'', -, -, -, deleted', rewrites⟩ :=
      h.rewrites_delete? some_ inside.1 inside.2 startBound lastBound
    obtain rfl := Option.some.inj (asked.symm.trans deleted')
    exact ⟨_, rewrites⟩

theorem follows_delete? {start last : Nat} (some_ : start < last) (deleted : e.delete? start last = some e')
    (active : e'.isActive = true) : ∃ content, Follows e' s stop before (l ++ old ++ r) after content :=
  (h.rewrites_of_delete? some_ deleted active).imp fun _ => h.follows

/-- After an edit inside the current tab stop the session goes on there. -/
theorem refill (follows : Follows e' s stop before (l ++ old ++ r) after content) :
    ∃ s' stop' l' old' r', e'.Filling s' stop' before l' old' r' after ∧
      s.Edited s' (l ++ old ++ r) (l' ++ old' ++ r') s.current stop.interval content := by
  obtain ⟨s', region', session, lies, edited⟩ := follows
  have kept := h.lies.tree.mem_stopIds_dropNested_self (Session.mem_stopIds_of_get? h.current)
  have outside := (Session.mem_stopIds_dropNested.1 kept).2
  have current := Session.get?_dropNested h.current outside
  rw [← edited.dropped.stops, show s.current = s'.current from edited.dropped.current.symm] at current
  obtain ⟨l', old', r', same, filling⟩ := filling_of_over session lies current
  exact ⟨s', _, l', old', r', filling, same ▸ edited⟩

/-- What is typed once the whole current tab stop is selected stands for its text. -/
theorem typesOver (calls : List Call) (text : List Char) : ∃ e₁ b e',
    e₁ = { e with
      buffer := (e.buffer.setCursor (s.range stop.interval).1).select (s.range stop.interval).1 (s.range stop.interval).2
      calls := calls } ∧
      e₁.Filling s stop before l old r after ∧ e₁.insert? text = some e' ∧
      Retyped b before l (typedAt (before ++ l) (r ++ after) text) r after ∧
      e₁.Refreshes s old (typedAt (before ++ l) (r ++ after) text) b e' := by
  have place := (h.lies.boundary_range
    (Session.mem_liveIds_of_mem_stopIds (Session.mem_stopIds_of_get? h.current))).1
  have selected := h.withBuffer (b := (e.buffer.setCursor (s.range stop.interval).1).select
    (s.range stop.interval).1 (s.range stop.interval).2) rfl (Buffer.isBoundary_setCursor place) calls
  have inside : holds (s.range stop.interval) (e.buffer.setCursor (s.range stop.interval).1).cursor = true := by
    rw [Buffer.setCursor_of_le place.le, h.range]
    simp [holds]
  obtain ⟨b, e', inserted, retyped, -, refreshes⟩ := selected.insert?_selected rfl inside text
  exact ⟨_, b, e', rfl, selected, inserted, retyped, refreshes⟩

/-- A tab stop that is piped through its command is rewritten, if the command prints anything. -/
theorem pipe? (runner : Runner)
    (given : ∀ command, stop.pipe = some command → (s.pipeEnvironment? e.buffer).isSome = true) :
    ∃ e', e.pipe? runner s.current = some e' ∧ ((∃ calls, e' = { e with calls }) ∨
      ∃ (e₁ : Editor) (content : List Char), e₁.Filling s stop before l old r after ∧
        e₁.Rewrites s before l old r after content e') := by
  rw [Editor.pipe?, h.session]
  simp only [h.current]
  cases hasCommand : stop.pipe with
  | none =>
    simp only [Option.pure_def]
    exact ⟨e, rfl, .inl ⟨e.calls, by rw [← h.session]⟩⟩
  | some command =>
    obtain ⟨env, environment⟩ := Option.isSome_iff_exists.1 (given command hasCommand)
    obtain ⟨input, read, -⟩ := h.lies.textOf?_eq
      (Session.mem_liveIds_of_mem_stopIds (Session.mem_stopIds_of_get? h.current))
    simp only [environment, Option.bind_eq_bind, Option.bind_some, read]
    cases printed : (runner ⟨command, input, env⟩).filter (· ≠ []) with
    | none =>
      simp only [Option.pure_def]
      exact ⟨_, rfl, .inl ⟨e.calls ++ [⟨command, input, env⟩], by rw [← h.session]⟩⟩
    | some output =>
      obtain ⟨e₁, b, e', rfl, selected, inserted, retyped, refreshes⟩ :=
        h.typesOver (e.calls ++ [⟨command, input, env⟩]) (chomp output)
      rw [h.session] at inserted
      exact ⟨e', inserted, .inr ⟨_, _, selected, refreshes.rewrites retyped⟩⟩

/-- Piping the current tab stop through its command leaves the text alone or rewrites the tab stop. -/
theorem rewrites_of_pipe? {runner : Runner} (piped : e.pipe? runner s.current = some e') :
    (∃ calls, e' = { e with calls }) ∨ ∃ (e₁ : Editor) (content : List Char),
      e₁.Filling s stop before l old r after ∧ e₁.Rewrites s before l old r after content e' := by
  have given (command : List Char) (found : stop.pipe = some command) :
      (s.pipeEnvironment? e.buffer).isSome = true := by
    rw [Editor.pipe?, h.session] at piped
    simp only [h.current, found] at piped
    obtain ⟨env, environment, -⟩ := Option.bind_eq_some_iff.1 piped
    rw [environment, Option.isSome_some]
  obtain ⟨e'', piped', change⟩ := h.pipe? runner given
  obtain rfl := Option.some.inj (piped.symm.trans piped')
  exact change

variable (holding : P s (l ++ old ++ r))
include holding

theorem upholds : e.Upholds P before after := ⟨_, _, _, _, _, h, holding⟩

theorem upholds_insert? (enduring : Enduring P) {text : List Char} (inserted : e.insert? text = some e')
    (active : e'.isActive = true) : e'.Upholds P before after := by
  obtain ⟨content, rewrites⟩ := h.rewrites_of_insert? inserted active
  exact enduring.rewrites h rewrites holding

theorem upholds_delete? (enduring : Enduring P) {start last : Nat} (deleted : e.delete? start last = some e')
    (active : e'.isActive = true) : e'.Upholds P before after := by
  by_cases some_ : start < last
  · obtain ⟨content, rewrites⟩ := h.rewrites_of_delete? some_ deleted active
    exact enduring.rewrites h rewrites holding
  · rw [Editor.delete?, h.session] at deleted
    simp only [h.stopRange?, Option.filter_some, some_, if_false] at deleted
    split at deleted
    · obtain ⟨b, -, result⟩ := Option.bind_eq_some_iff.1 deleted
      obtain rfl := Option.some.inj result
      cases active
    · obtain rfl := Option.some.inj deleted
      have still := (h.withBuffer (b := e.buffer.deselect) rfl h.lies.cursor e.calls).upholds holding
      rwa [h.session] at still

/-- A session keeps what edits keep when its tab stop is piped through its command. -/
theorem upholds_pipe? (enduring : Enduring P) {runner : Runner} (piped : e.pipe? runner s.current = some e') :
    e'.Upholds P before after := by
  rcases h.rewrites_of_pipe? piped with ⟨calls, rfl⟩ | ⟨e₁, content, filling, rewrites⟩
  · exact (h.withBuffer (b := e.buffer) rfl h.lies.cursor calls).upholds holding
  · exact enduring.rewrites filling rewrites holding

/-- Moving on from a tab stop. -/
theorem upholds_previous (movable : Movable P) : e.previous.Upholds P before after := by
  rw [previous, h.session]
  cases found : s.stops.previous? s.current with
  | none =>
    simp only [found]
    exact h.upholds holding
  | some entry =>
    have member := (List.mem_filter.1 (List.mem_of_getLast? found)).1
    simp only [found]
    exact upholds_enter movable h.lies holding member

end Filling

/-- What edits inside the current tab stop keep is kept when it is rewritten. -/
theorem Lasting.enduring (lasting : Lasting P) : Enduring P where
  enter := lasting.enter
  rewrites h rewrites holding := by
    obtain ⟨s', stop', l', old', r', filling, edited⟩ := h.refill (h.follows rewrites)
    exact filling.upholds (lasting.edited h.lies.tree filling.lies.tree h.current holding edited)

/-- Moves on from tab stop `current`, once it has been piped through its command. -/
def advance? (runner : Runner) (current : Nat) (e : Editor) : Option Editor :=
  match e.session with
  | none => some e
  | some s =>
    let e := { e with buffer := e.buffer.deselect }
    match s.stops.next? ((current + 1) % Node.numberLimit) with
    | none => e.conclude? runner s
    | some (number, stop) =>
      let range := s.range stop.interval
      let isLast := (s.stops.next? ((number + 1) % Node.numberLimit)).isNone
      let atFinish := (s.interval stop.interval).start = s.finish
      let e := e.enter s number range
      some (if range.2 ≤ range.1 ∧ isLast ∧ atFinish ∧ stop.pipe.isNone then e.clear else e)

/-- The next tab stop is moved to in two steps. -/
theorem next?_eq (runner : Runner) (session : e.session = some s) : e.next? runner =
    (if s.current = 0 then some e else e.pipe? runner s.current).bind (advance? runner s.current) := by
  rw [next?, session]
  by_cases zero : s.current = 0
  · simp only [zero, if_true]
    rfl
  · simp only [zero, if_false]
    rfl

/-- A session that has no tab stop left to go to ends. -/
theorem session_conclude? {runner : Runner} (concluded : e.conclude? runner s = some e') : e'.session = none := by
  rw [conclude?] at concluded
  cases last : s.stops.get? 0 with
  | none =>
    simp only [last] at concluded
    obtain rfl := Option.some.inj concluded
    rfl
  | some stop =>
    simp only [last] at concluded
    split at concluded
    · obtain ⟨piped, -, result⟩ := Option.bind_eq_some_iff.1 concluded
      obtain rfl := Option.some.inj result
      rfl
    · obtain rfl := Option.some.inj concluded
      rfl

/-- A session that goes on does so at another tab stop. -/
theorem upholds_advance? (movable : Movable P) {runner : Runner} {current : Nat} {region : List Char}
    (session : e.session = some s) (lies : s.Over e.buffer before region after) (holds : P s region)
    (advanced : e.advance? runner current = some e') (active : e'.isActive = true) :
    e'.Upholds P before after := by
  rw [advance?, session] at advanced
  cases found : s.stops.next? ((current + 1) % Node.numberLimit) with
  | none =>
    simp only [found] at advanced
    simp [isActive, session_conclude? advanced] at active
  | some entry =>
    simp only [found, Option.some.injEq] at advanced
    split at advanced
    · subst advanced
      cases active
    · subst advanced
      exact upholds_enter (e := { e with buffer := e.buffer.deselect }) movable
        ⟨lies.text, lies.offset, lies.cursor, lies.tree⟩ holds (List.mem_of_find?_eq_some found)

theorem Upholds.next? (enduring : Enduring P) {runner : Runner} (h : e.Upholds P before after)
    (moved : e.next? runner = some e') (active : e'.isActive = true) : e'.Upholds P before after := by
  obtain ⟨s, stop, l, old, r, filling, holds⟩ := h
  rw [next?_eq runner filling.session] at moved
  obtain ⟨e₁, piped, advanced⟩ := Option.bind_eq_some_iff.1 moved
  have still : e₁.Upholds P before after := by
    split at piped
    · obtain rfl := Option.some.inj piped
      exact filling.upholds holds
    · exact filling.upholds_pipe? holds enduring piped
  obtain ⟨s₁, stop₁, l₁, old₁, r₁, filling₁, holds₁⟩ := still
  exact upholds_advance? enduring.toMovable filling₁.session filling₁.lies holds₁ advanced active

/-! ## The start of a session -/

/-- The intervals of a whole expansion nest on its text once it is indented. -/
theorem tree_start {e : Expansion} (growing : e.Growing) (closed : e.parent = none) (indent : List Char)
    {s : Session}
    (intervals : s.intervals = (e.indentLines indent).intervals) (stops : s.stops = e.stops)
    (bindings : s.bindings = e.bindings) : s.Tree (e.indentLines indent).text := by
  obtain ⟨nested, length, parent⟩ := growing.nested_indentLines closed indent
  obtain ⟨spans, -, parent_stop, within, distinct, numbers⟩ := growing
  have same : s.interval = Expansion.intervalIn (e.indentLines indent).intervals := by
    funext i
    rw [Session.interval, intervals]
    rfl
  have live : s.liveIds = e.liveIds := by rw [Session.liveIds, stops, bindings, Expansion.liveIds]
  have ids : s.stopIds = e.stopIds := by rw [Session.stopIds, stops, Expansion.stopIds]
  have parent' (i : Nat) : (s.interval i).parent = (e.interval i).parent := by
    rw [same]
    exact parent i
  have holder (i p : Nat) (found : (s.interval i).parent = some p) : p ∈ s.stopIds :=
    ids ▸ parent_stop i p ((parent' i).symm.trans found)
  constructor
  case numbered => exact spans.numbered.congr parent'
  case nested =>
    rw [same, live]
    refine nested.mono within fun i p _ found => ?_
    exact live ▸ Session.mem_liveIds_of_mem_stopIds (holder i p (by rwa [same]))
  case within =>
    intro i alive
    rw [intervals]
    exact Nat.lt_of_lt_of_eq (within i (live ▸ alive)) length.symm
  case distinct => exact live ▸ distinct
  case numbers => exact stops ▸ numbers
  case parent_stop => exact fun i _ p found => holder i p found

/-- The session over an expansion whose text is inserted at an offset, on a line with an indent. -/
def opened (e : Editor) (expansion : Expansion) (indent : List Char) (env : Environment) : Session where
  offset := e.buffer.cursor
  intervals := (expansion.indentLines indent).intervals
  stops := expansion.stops
  bindings := expansion.bindings
  finish := (expansion.indentLines indent).finishPosition
  current := 0
  indent := indent
  indentUnit := e.buffer.indentUnit
  env := env

/-- Starting a snippet puts its indented text at the cursor, brings all tab stops up to date and goes to the
first one. -/
theorem exists_opened {runner : Runner} {template : List Char} {env : Environment}
    (text : e.buffer.text = before ++ after) (cursor : e.buffer.cursor = byteLength before)
    (started : e.start? runner template env = some (none, e')) (active : e'.isActive = true) :
    let expansion := Expansion.ofNodes runner env e.buffer.indentUnit (parseTemplate template)
    ∃ (indent : List Char) (b b' : Buffer) (t : Session) (calls : List Call),
      (e.opened expansion indent env).Over b before (expansion.indentLines indent).text after ∧
      (e.opened expansion indent env).refreshAll? b (expansion.stops.map (·.1)) = some (t, b') ∧
      t.current = 0 ∧
      ({ buffer := b', session := some t, calls := calls } : Editor).advance? runner 0 = some e' ∧
      e.buffer.lineIndent? e.buffer.cursor = some indent := by
  rw [start?] at started
  split at started
  · obtain ⟨-, rfl⟩ := Prod.mk.inj (Option.some.inj started)
    cases active
  obtain ⟨growing, closed⟩ := Expansion.growing_ofNodes runner env e.buffer.indentUnit (parseTemplate template)
  rw [show e.clear.buffer = e.buffer from rfl] at started
  generalize Expansion.ofNodes runner env e.buffer.indentUnit (parseTemplate template) = expansion at *
  cases fault : expansion.fault? with
  | some fault =>
    simp only [fault] at started
    cases started
  | none =>
    simp only [fault] at started
    obtain ⟨indent, line, started⟩ := Option.bind_eq_some_iff.1 started
    obtain ⟨b, inserted, started⟩ := Option.bind_eq_some_iff.1 started
    obtain ⟨⟨t, b'⟩, refreshed, started⟩ := Option.bind_eq_some_iff.1 started
    obtain ⟨e'', moved, result⟩ := Option.bind_eq_some_iff.1 started
    obtain ⟨-, rfl⟩ := Prod.mk.inj (Option.some.inj result)
    have place : IsBoundary e.buffer.text e.buffer.cursor := by
      rw [text, cursor]
      exact .length before after
    obtain ⟨b₁, inserted₁, text₁, bound, -, unit⟩ :=
      Buffer.insert?_eq text place (expansion.indentLines indent).text
    rw [cursor, inserted₁] at inserted
    obtain rfl := Option.some.inj inserted
    have lies : (e.opened expansion indent env).Over b₁ before (expansion.indentLines indent).text after :=
      ⟨text₁, cursor, bound, tree_start growing closed indent rfl rfl rfl⟩
    rw [unit] at refreshed
    have refreshed : (e.opened expansion indent env).refreshAll? b₁ (expansion.stops.map (·.1)) = some (t, b') :=
      refreshed
    obtain ⟨t', b'', _, refreshed', -, writes, -⟩ := lies.refreshAll? (expansion.stops.map (·.1))
    obtain ⟨rfl, rfl⟩ := Prod.mk.inj (Option.some.inj (refreshed.symm.trans refreshed'))
    have current : t.current = 0 := writes.alike.current
    rw [next?_eq runner rfl, if_pos current, Option.bind_some, current] at moved
    exact ⟨indent, b₁, b', t, _, lies, refreshed, current, moved, line⟩

/-- Bringing all tab stops up to date keeps the intervals nested. -/
theorem over_of_refreshAll? (initial : Initial P) {s t : Session} {b b' : Buffer} {region : List Char}
    (refreshed : s.refreshAll? b (s.stops.map (·.1)) = some (t, b')) (lies : s.Over b before region after)
    (ascending : (Entries.keys s.stops).Pairwise (· < ·)) :
    ∃ region', t.Over b' before region' after ∧ s.Alike t ∧ P t region' := by
  obtain ⟨t', b'', region', refreshed', lies', writes, -⟩ := lies.refreshAll? (s.stops.map (·.1))
  obtain ⟨rfl, rfl⟩ := Prod.mk.inj (Option.some.inj (refreshed.symm.trans refreshed'))
  exact ⟨region', lies', writes.alike, initial.start lies ascending refreshed lies'⟩

/-- A snippet starts as the session over its expansion with the intervals elsewhere, and goes to its first tab stop. -/
theorem exists_started {runner : Runner} {template : List Char} {env : Environment}
    (text : e.buffer.text = before ++ after) (cursor : e.buffer.cursor = byteLength before)
    (started : e.start? runner template env = some (none, e')) (active : e'.isActive = true) :
    ∃ (indent : List Char) (t : Session) (b : Buffer) (calls : List Call) (region : List Char),
      e.buffer.lineIndent? e.buffer.cursor = some indent ∧
      (e.opened (.ofNodes runner env e.buffer.indentUnit (parseTemplate template)) indent env).Alike t ∧
      t.Over b before region after ∧
      ({ buffer := b, session := some t, calls := calls } : Editor).advance? runner 0 = some e' := by
  obtain ⟨indent, b, b', t, calls, lies, refreshed, -, advanced, line⟩ := exists_opened text cursor started active
  have any : Initial fun _ _ => True := { enter := fun _ _ => trivial, start := fun _ _ _ _ => trivial }
  obtain ⟨region, lies', alike, -⟩ := over_of_refreshAll? any refreshed lies
    (Expansion.ascending_ofNodes runner env e.buffer.indentUnit (parseTemplate template))
  exact ⟨indent, t, b', calls, region, line, alike, lies', advanced⟩

/-- Starting a snippet puts its text at the cursor. -/
theorem upholds_start? (initial : Initial P) {runner : Runner} {template : List Char} {env : Environment}
    (text : e.buffer.text = before ++ after)
    (cursor : e.buffer.cursor = byteLength before) (started : e.start? runner template env = some (none, e'))
    (active : e'.isActive = true) : e'.Upholds P before after := by
  obtain ⟨indent, b, b', t, calls, lies, refreshed, -, advanced, -⟩ := exists_opened text cursor started active
  obtain ⟨region, lies', -, holds⟩ := over_of_refreshAll? initial refreshed lies
    (Expansion.ascending_ofNodes runner env e.buffer.indentUnit (parseTemplate template))
  exact upholds_advance? initial.toMovable rfl lies' holds advanced active

end EditorBundles.Snippet.Editor
