import EditorBundles.Proofs.Snippet.Editing
import EditorBundles.Proofs.Snippet.Reshaping

/-!
# The end marker of a session

The end marker is an offset that belongs to no interval: when an interval changes its length, the marker
moves along if the interval starts at it or before it. That keeps it on its place in the text as long as
it lies in no live interval, as `Marked` says. Whatever is written then leaves it between characters, and
in no live interval. A marker at the start of a tab stop, or inside one, is carried into the middle of what
is typed there.
-/

namespace EditorBundles.Snippet
set_option autoImplicit false
open Text (byteLength IsBoundary)

/-- The end marker is a place in the text of a region, and each live interval starts behind it or has ended
before it. -/
structure Marked (f : Nat → Interval) (live : Nat → Prop) (region : List Char) (finish : Nat) : Prop where
  boundary : IsBoundary region finish
  apart : ∀ i, live i → finish < (f i).start ∨ (f i).stop ≤ finish

variable {f g : Nat → Interval} {live : Nat → Prop} {region l old r new : List Char} {id finish : Nat}

theorem Marked.mono (h : Marked f live region finish) {fewer : Nat → Prop} (sub : ∀ i, fewer i → live i) :
    Marked f fewer region finish :=
  ⟨h.boundary, fun i alive => h.apart i (sub i alive)⟩

/-- The end marker stays in its place as long as the live intervals stay in theirs. -/
theorem Marked.congr (h : Marked f live region finish) (same : ∀ i, live i → g i = f i) :
    Marked g live region finish where
  boundary := h.boundary
  apart i alive := by
    rw [same i alive]
    exact h.apart i alive

/-- The end marker goes elsewhere along with the intervals if places go to boundaries and stay apart. -/
theorem Marked.map (h : Marked f live region finish) {region' : List Char} {place : Nat → Nat}
    (order : ∀ m n, m ≤ n → place m ≤ place n) (strict : ∀ m n, m < n → place m < place n)
    (bound : ∀ n, IsBoundary region n → IsBoundary region' (place n))
    (ends : ∀ i, live i → (g i).start = place (f i).start ∧ (g i).stop = place (f i).stop) :
    Marked g live region' (place finish) where
  boundary := bound _ h.boundary
  apart i alive := by
    rw [(ends i alive).1, (ends i alive).2]
    exact (h.apart i alive).imp (strict _ _) (order _ _)

/-- Replacing the text of an interval takes the end marker along if the interval starts at it or before
it, and so leaves it in its place. -/
theorem Splice.marked (h : Splice f g live id l old new r) (marked : Marked f live (l ++ old ++ r) finish) :
    Marked g live (l ++ new ++ r)
      (if (f id).start ≤ finish then shifted finish ((byteLength new : Int) - byteLength old) else finish) := by
  obtain ⟨boundary, apart⟩ := marked
  have start := h.start
  have stop := h.stop
  rcases apart id h.alive with ahead | behind
  · -- the marker is in the text before the interval
    rw [if_neg (by omega)]
    refine ⟨?_, fun i alive => ?_⟩
    · rw [List.append_assoc] at boundary ⊢
      exact (boundary.of_le (by omega)).append_right _
    · have order := h.nested.start_le_stop i alive
      rcases apart i alive with before | after <;> rcases h.cases alive with ⟨-, _⟩ | ⟨-, _⟩ | ⟨-, _⟩ <;> omega
  · -- the marker is in the text behind the interval, and moves as that does
    have beyond : byteLength (l ++ old) ≤ finish := by
      rw [Text.byteLength_append]
      omega
    have moved : shifted finish ((byteLength new : Int) - byteLength old) =
        byteLength (l ++ new) + (finish - byteLength (l ++ old)) := by
      simp only [shifted, Text.byteLength_append]
      omega
    rw [if_pos (by omega)]
    refine ⟨?_, fun i alive => ?_⟩
    · rw [moved]
      exact (boundary.of_ge beyond).append_left (l ++ new)
    · rw [moved]
      simp only [Text.byteLength_append]
      have order := h.nested.start_le_stop i alive
      rcases apart i alive with before | after <;> rcases h.cases alive with ⟨-, _⟩ | ⟨-, _⟩ | ⟨-, _⟩ <;> omega

namespace Expansion

/-- Indenting keeps the end marker in its place. -/
theorem marked_indentFrom (indent rest : List Char) {before : List Char} {intervals : List Interval}
    (ordered : ∀ i, live i → (intervalIn intervals i).start ≤ (intervalIn intervals i).stop)
    (h : Marked (intervalIn intervals) live (before ++ rest) finish) :
    let indented := indentFrom indent before intervals finish rest
    Marked (intervalIn indented.2.1) live indented.1 indented.2.2 := by
  induction rest generalizing before intervals finish with
  | nil => simpa [indentFrom] using h
  | cons c rest ih =>
    rw [indentFrom]
    split
    · have moved (i : Nat) (alive : live i) :
          (intervalIn (intervals.map (·.shiftFrom (byteLength before) (byteLength indent : Int))) i).start =
              placed (byteLength before) (byteLength indent) (intervalIn intervals i).start ∧
            (intervalIn (intervals.map (·.shiftFrom (byteLength before) (byteLength indent : Int))) i).stop =
              placed (byteLength before) (byteLength indent) (intervalIn intervals i).stop := by
        rw [intervalIn_shiftFrom]
        exact shiftFrom_eq (ordered i alive) _ _
      have finish_eq : (if byteLength before < finish then shifted finish (byteLength indent : Int) else finish) =
          placed (byteLength before) (byteLength indent) finish := by
        simp only [placed, shifted]
        split_ifs <;> omega
      simp only [finish_eq]
      refine ih (fun i alive => ?_) (h.map (fun m n => placed_le_placed) (fun m n order => ?_)
        (fun n bound => placed_boundary bound indent) moved)
      · rw [(moved i alive).1, (moved i alive).2]
        exact placed_le_placed (ordered i alive)
      · unfold placed
        split_ifs <;> omega
    · have same : before ++ c :: rest = before ++ [c] ++ rest := by simp
      exact ih ordered (same ▸ h)

/-- The bare stop 0 that counts stands in the text that was expanded so far. -/
def EndsInText (e : Expansion) : Prop := ∀ position, e.finish = some position → IsBoundary e.text position

theorem EndsInText.extend {e e' : Expansion} (h : e.EndsInText) {more : List Char} (text : e'.text = e.text ++ more)
    (finish : e'.finish = e.finish) : e'.EndsInText := by
  intro position found
  rw [text]
  exact (h position (finish ▸ found)).append_right more

mutual

/-- Expanding a part of a template leaves the end marker in the text. -/
theorem endsInText_node (runner : Runner) (env : Environment) (indentUnit : List Char) :
    ∀ (n : Node) {e : Expansion}, e.EndsInText → (node runner env indentUnit e n).EndsInText
  | .text s, e, h => by
    rw [node]
    exact h.extend rfl rfl
  | .stop number placeholder pipe, e, h => by
    rw [node]
    split
    · rintro position ⟨⟩
      simpa using IsBoundary.length e.text []
    cases found : e.openInterval.stops.get? number with
    | some stop =>
      simp only [found]
      exact h
    | none =>
      simp only [found]
      exact endsInText_nodes runner env indentUnit placeholder h
  | .stopTransform number t, e, h => by
    rw [node]
    exact h
  | .var name, e, h => by
    rw [node]
    exact h.extend rfl rfl
  | .varOr name fallback, e, h => by
    rw [node]
    split
    · exact h.extend rfl rfl
    · exact endsInText_nodes runner env indentUnit fallback h
  | .varTransform name t, e, h => by
    rw [node]
    exact h.extend rfl rfl
  | .shell command, e, h => by
    rw [node]
    exact h.extend rfl rfl

theorem endsInText_nodes (runner : Runner) (env : Environment) (indentUnit : List Char) :
    ∀ (template : List Node) {e : Expansion}, e.EndsInText → (nodes runner env indentUnit e template).EndsInText
  | [], e, h => by
    rw [nodes]
    exact h
  | n :: rest, e, h => by
    rw [nodes]
    exact endsInText_nodes runner env indentUnit rest (endsInText_node runner env indentUnit n h)

end

/-- The end marker of a template stands between characters of its expansion. -/
theorem boundary_finishPosition (runner : Runner) (env : Environment) (indentUnit : List Char)
    (template : List Node) :
    IsBoundary (ofNodes runner env indentUnit template).text
      (ofNodes runner env indentUnit template).finishPosition := by
  have ends : (ofNodes runner env indentUnit template).EndsInText :=
    endsInText_nodes runner env indentUnit template (e := {}) fun position found => by cases found
  rw [finishPosition]
  cases finish : (ofNodes runner env indentUnit template).finish with
  | none => simpa using IsBoundary.length (ofNodes runner env indentUnit template).text []
  | some position => exact ends position finish

/-- The end marker of a template stands in no interval of its expansion: each starts behind it or has ended
before it. -/
def EndsApart (e : Expansion) : Prop :=
  ∀ interval ∈ e.intervals, e.finishPosition < interval.start ∨ interval.stop ≤ e.finishPosition

end Expansion

namespace Session

/-- The end marker of a session is a place in the text of the snippet that lies in no live interval. -/
def EndMarked (s : Session) (region : List Char) : Prop := Marked s.interval (· ∈ s.liveIds) region s.finish

/-- A buffer holds the text of a session between two texts, with the end marker in its place. -/
structure Standing (s : Session) (b : Buffer) (before region after : List Char) : Prop
    extends s.Over b before region after where
  marked : s.EndMarked region

variable {s t : Session} {b b' : Buffer} {before after content : List Char} {number : Nat}

/-- Resizing an interval takes the end marker along if the interval starts at it or before it. -/
theorem finish_resize (s : Session) (id : Nat) (distance : Int) : (s.resize id distance).finish =
    if (s.interval id).start ≤ s.finish then shifted s.finish distance else s.finish := by
  unfold resize
  split
  · next zero =>
    subst zero
    simp [shifted]
  · rfl

/-- Replacing texts one after the other keeps the end marker in its place. -/
theorem Reshaped.endMarked {region' : List Char} (h : Reshaped s region t region') (marked : s.EndMarked region) :
    t.EndMarked region' := by
  induction h with
  | refl => exact marked
  | write tree alive leaf start stop _ ih =>
    obtain ⟨alike, splice⟩ := tree.splice alive leaf start stop _
    refine ih ?_
    rw [EndMarked, alike.liveIds, finish_resize]
    exact splice.marked marked

namespace Standing

/-- Where the cursor goes when the session ends is a place in the buffer. -/
theorem boundary_finishPosition (h : s.Standing b before region after) : IsBoundary b.text s.finishPosition := by
  rw [h.text, finishPosition, h.offset, List.append_assoc]
  exact (h.marked.boundary.append_right after).append_left before

/-- Bringing tab stops up to date in turn. -/
theorem refreshAll? (h : s.Standing b before region after) {numbers : List Nat}
    (refreshed : s.refreshAll? b numbers = some (t, b')) :
    ∃ region', t.Standing b' before region' after ∧ s.Alike t ∧ b'.selection = b.selection := by
  obtain ⟨region', lies, reshaped, selection⟩ := h.toOver.reshaped_refreshAll? refreshed
  exact ⟨region', ⟨lies, reshaped.endMarked h.marked⟩, reshaped.alike, selection⟩

end Standing

/-- Rewriting a tab stop keeps the end marker in its place, and so does bringing up to date what shows the
tab stop. -/
theorem Tree.standing_refresh? {stop : Stop} (h : s.Tree (l ++ old ++ r)) (marked : s.EndMarked (l ++ old ++ r))
    (offset : s.offset = byteLength before) (found : s.stops.get? number = some stop)
    (first : (s.interval stop.interval).start = byteLength l)
    (last : (s.interval stop.interval).stop = byteLength l + byteLength old)
    (text : b.text = before ++ (l ++ new ++ r) ++ after) (cursor : IsBoundary b.text b.cursor)
    (refreshed : s.refresh? b number ((byteLength new : Int) - byteLength old) true = some (t, b')) :
    ∃ region', t.Standing b' before region' after ∧ b'.selection = b.selection := by
  have stopId := mem_stopIds_of_get? found
  obtain ⟨alike, same, splice⟩ := h.splice_rewritten stopId first last new
  obtain ⟨region', lies, reshaped, selection⟩ :=
    h.reshaped_refresh? offset found first last text cursor refreshed
  have fewer : Marked s.interval (· ∈ (s.dropNested stop.interval).liveIds) (l ++ old ++ r) s.finish :=
    marked.mono fun i alive => (mem_liveIds_dropNested alive).1
  refine ⟨region', ⟨lies, reshaped.endMarked ?_⟩, selection⟩
  have finish : (s.rewritten stop.interval (byteLength old) (byteLength new)).finish =
      (s.resize stop.interval ((byteLength new : Int) - byteLength old)).finish := rfl
  rw [EndMarked, alike.liveIds, finish, finish_resize]
  exact (splice.marked fewer).congr same

end Session

end EditorBundles.Snippet
