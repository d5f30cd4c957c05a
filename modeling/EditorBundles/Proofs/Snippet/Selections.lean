import EditorBundles.Proofs.Snippet.Buffer

/-!
# Selections of a buffer

A buffer goes through any edits at boundaries. The cursor is moved with the text and always stands between characters.
The selection keeps the offsets that it was set with: after edits behind it, it shows what was selected, and after edits
in front of its end it shows what stands between its offsets by then, if these are still boundaries.
-/

namespace EditorBundles.Snippet.Buffer
set_option autoImplicit false
open Text (byteLength IsBoundary)

/-- What can be done to a buffer. -/
inductive Operation where
  | setCursor (position : Nat)
  | select (start stop : Nat)
  | deselect
  | insert (position : Nat) (new : List Char)
  | delete (start stop : Nat)
  | newline

namespace Operation

/-- The buffer after an operation. -/
def run? (b : Buffer) : Operation → Option Buffer
  | setCursor position => some (b.setCursor position)
  | select start stop => some (b.select start stop)
  | deselect => some b.deselect
  | insert position new => b.insert? position new
  | delete start stop => b.delete? start stop
  | newline => do b.type? (← b.newline?)

/-- The offsets that an operation is given are boundaries, and in order. -/
def Fits (b : Buffer) : Operation → Prop
  | setCursor position => IsBoundary b.text position
  | select start stop => start ≤ stop ∧ IsBoundary b.text start ∧ IsBoundary b.text stop
  | deselect => True
  | insert position _ => IsBoundary b.text position
  | delete start stop => start ≤ stop ∧ IsBoundary b.text start ∧ IsBoundary b.text stop
  | newline => True

/-- What is selected after an operation. -/
def selection (old : Option (Nat × Nat)) : Operation → Option (Nat × Nat)
  | select start stop => some (start, stop)
  | deselect => none
  | _ => old

/-- Where an operation starts to change the text. -/
def place? (b : Buffer) : Operation → Option Nat
  | insert position _ => some position
  | delete start _ => some start
  | newline => some b.cursor
  | _ => none

/-- An operation selects nothing else, and changes the text from an offset on at most. -/
def Spares (stop : Nat) (b : Buffer) (op : Operation) : Prop :=
  (∀ old, op.selection old = old) ∧ ∀ place ∈ op.place? b, stop ≤ place

end Operation

/-- The buffer after operations, one after the other. -/
def runAll? (b : Buffer) : List Operation → Option Buffer
  | [] => some b
  | op :: ops => do runAll? (← op.run? b) ops

/-- Something holds of each operation and the buffer that it is done to. -/
def Throughout (P : Buffer → Operation → Prop) (b : Buffer) : List Operation → Prop
  | [] => True
  | op :: ops => P b op ∧ ∀ b', op.run? b = some b' → Throughout P b' ops

variable {b b' : Buffer} {op : Operation} {ops : List Operation} {start stop : Nat} {l m r : List Char}

/-! ## The cursor -/

theorem exists_newline? (cursor : IsBoundary b.text b.cursor) :
    ∃ new l r, b.newline? = some new ∧ b.text = l ++ r ∧ b.cursor = byteLength l := by
  obtain ⟨l, r, text, length⟩ := cursor
  have split : Text.splitAt? b.text b.cursor = some (l, r) := by rw [text, ← length, Text.splitAt?_append]
  refine ⟨'\n' :: (lineFrom l r).takeWhile fun c => c = ' ' || c = '\t', l, r, ?_, text, length.symm⟩
  rw [newline?, lineIndent?, split]
  rfl

/-- An operation at boundaries succeeds, and leaves the cursor between characters. -/
theorem exists_run? (cursor : IsBoundary b.text b.cursor) (fits : op.Fits b) : ∃ b', op.run? b = some b' ∧
    IsBoundary b'.text b'.cursor ∧ b'.selection = op.selection b.selection := by
  cases op with
  | setCursor position => exact ⟨_, rfl, isBoundary_setCursor fits, rfl⟩
  | select start stop => exact ⟨_, rfl, cursor, rfl⟩
  | deselect => exact ⟨_, rfl, cursor, rfl⟩
  | insert position new =>
    obtain ⟨l, r, text, rfl⟩ := fits
    obtain ⟨b', inserted, -, cursor', same, -⟩ := insert?_eq text cursor new
    exact ⟨b', inserted, cursor', same⟩
  | delete start stop =>
    obtain ⟨order, first, last⟩ := fits
    obtain ⟨l, m, r, text, rfl, rfl⟩ := first.parts last order
    obtain ⟨b', deleted, -, cursor', same, -⟩ := delete?_eq text cursor
    exact ⟨b', deleted, cursor', same⟩
  | newline =>
    obtain ⟨new, l, r, indented, text, place⟩ := exists_newline? cursor
    obtain ⟨b', typed, text', place', same, -⟩ := type?_eq text place new
    refine ⟨b', ?_, ?_, same⟩
    · rw [Operation.run?, indented]
      exact typed
    · rw [text', place', ← Text.byteLength_append]
      exact .length _ _

/-- Operations at boundaries succeed, and leave the cursor between characters and the selection as it was set last. -/
theorem exists_runAll? (cursor : IsBoundary b.text b.cursor) (fits : Throughout (fun b op => op.Fits b) b ops) :
    ∃ b', runAll? b ops = some b' ∧ IsBoundary b'.text b'.cursor ∧
      b'.selection = ops.foldl Operation.selection b.selection := by
  induction ops generalizing b with
  | nil => exact ⟨b, rfl, cursor, rfl⟩
  | cons op ops ih =>
    obtain ⟨b₁, ran, cursor₁, same⟩ := exists_run? cursor fits.1
    obtain ⟨b', rest, cursor', selected⟩ := ih cursor₁ (fits.2 b₁ ran)
    refine ⟨b', ?_, cursor', ?_⟩
    · rw [runAll?, ran]
      exact rest
    · rw [selected, same, List.foldl_cons]

/-! ## The selection -/

/-- What is selected has a start that does not come after its end. -/
def Ordered (selection : Option (Nat × Nat)) : Prop :=
  ∀ start stop, selection = some (start, stop) → start ≤ stop

theorem ordered_selection {old : Option (Nat × Nat)} (ordered : Ordered old) (fits : op.Fits b) :
    Ordered (op.selection old) := by
  cases op with
  | select start stop =>
    intro first last same
    obtain ⟨rfl, rfl⟩ := Prod.mk.inj (Option.some.inj same)
    exact fits.1
  | deselect =>
    intro first last same
    cases same
  | setCursor position => exact ordered
  | insert position new => exact ordered
  | delete start stop => exact ordered
  | newline => exact ordered

theorem ordered_runAll? (ordered : Ordered b.selection) (cursor : IsBoundary b.text b.cursor)
    (fits : Throughout (fun b op => op.Fits b) b ops) (ran : runAll? b ops = some b') : Ordered b'.selection := by
  induction ops generalizing b with
  | nil =>
    obtain rfl := Option.some.inj ran
    exact ordered
  | cons op ops ih =>
    obtain ⟨b₁, first, cursor₁, same⟩ := exists_run? cursor fits.1
    rw [runAll?, first] at ran
    exact ih (same ▸ ordered_selection ordered fits.1) cursor₁ (fits.2 b₁ first) ran

/-- Nothing can be shown for a selection just if one of its ends is no boundary. -/
theorem selected?_eq_none_iff (ordered : Ordered b.selection) : b.selected? = none ↔
    ∃ start stop, b.selection = some (start, stop) ∧ ¬(IsBoundary b.text start ∧ IsBoundary b.text stop) := by
  rw [selected?]
  cases selected : b.selection with
  | none => simp
  | some range =>
    obtain ⟨start, stop⟩ := range
    rw [selected] at ordered
    simp only [Option.map_eq_none_iff, Option.some.injEq, Prod.mk.injEq]
    constructor
    · intro nothing
      refine ⟨start, stop, ⟨rfl, rfl⟩, fun ⟨first, last⟩ => ?_⟩
      obtain ⟨l, m, r, text, rfl, rfl⟩ := first.parts last (ordered start stop rfl)
      rw [textOf?, text, Text.slice?_append] at nothing
      cases nothing
    · rintro ⟨_, _, ⟨rfl, rfl⟩, outside⟩
      by_contra shown
      obtain ⟨m, sliced⟩ := Option.ne_none_iff_exists'.1 shown
      obtain ⟨l, r, text, rfl, rfl⟩ := Text.slice?_eq_some_iff.1 sliced
      refine outside ⟨?_, ?_⟩
      · rw [text, List.append_assoc]
        exact .length l _
      · rw [text, ← Text.byteLength_append]
        exact .length _ r

/-- An operation that spares the front of a text leaves it there. -/
theorem exists_text_of_spares (text : b.text = l ++ r) (cursor : IsBoundary b.text b.cursor) (fits : op.Fits b)
    (spares : op.Spares (byteLength l) b) (ran : op.run? b = some b') : ∃ r', b'.text = l ++ r' := by
  cases op with
  | setCursor position => exact ⟨r, Option.some.inj ran ▸ text⟩
  | select start stop => exact ⟨r, Option.some.inj ran ▸ text⟩
  | deselect => exact ⟨r, Option.some.inj ran ▸ text⟩
  | insert position new =>
    obtain ⟨front, back, parts, rfl⟩ := fits
    obtain ⟨e, rfl, -⟩ := Text.exists_between (text.symm.trans parts) (spares.2 _ rfl)
    obtain ⟨_, inserted, text', -⟩ := insert?_eq parts cursor new
    obtain rfl := Option.some.inj (inserted.symm.trans ran)
    exact ⟨e ++ new ++ back, by rw [text']; simp⟩
  | delete start stop =>
    obtain ⟨order, first, last⟩ := fits
    obtain ⟨front, gone, back, parts, rfl, rfl⟩ := first.parts last order
    rw [List.append_assoc] at parts
    obtain ⟨e, rfl, -⟩ := Text.exists_between (text.symm.trans parts) (spares.2 _ rfl)
    rw [← List.append_assoc] at parts
    obtain ⟨_, deleted, text', -⟩ := delete?_eq parts cursor
    obtain rfl := Option.some.inj (deleted.symm.trans ran)
    exact ⟨e ++ back, by rw [text']; simp⟩
  | newline =>
    obtain ⟨new, front, back, indented, parts, place⟩ := exists_newline? cursor
    have behind : byteLength l ≤ byteLength front := place ▸ spares.2 _ rfl
    obtain ⟨e, rfl, -⟩ := Text.exists_between (text.symm.trans parts) behind
    obtain ⟨_, typed, text', -⟩ := type?_eq parts place new
    rw [Operation.run?, indented] at ran
    obtain rfl := Option.some.inj (typed.symm.trans ran)
    exact ⟨e ++ new ++ back, by rw [text']; simp⟩

/-- A selection shows what it showed before, after operations that spare it. -/
theorem selected?_of_spares (cursor : IsBoundary b.text b.cursor) (text : b.text = l ++ m ++ r)
    (selected : b.selection = some (byteLength l, byteLength l + byteLength m))
    (fits : Throughout (fun b op => op.Fits b) b ops)
    (spares : Throughout (Operation.Spares (byteLength l + byteLength m)) b ops) (ran : runAll? b ops = some b') :
    b'.selected? = some (some m) := by
  induction ops generalizing b r with
  | nil =>
    obtain rfl := Option.some.inj ran
    rw [selected?, selected]
    dsimp only
    rw [textOf?, text, Text.slice?_append]
    rfl
  | cons op ops ih =>
    obtain ⟨b₁, first, cursor₁, same⟩ := exists_run? cursor fits.1
    rw [runAll?, first] at ran
    have spared : op.Spares (byteLength (l ++ m)) b := by
      rw [Text.byteLength_append]
      exact spares.1
    obtain ⟨r₁, text₁⟩ := exists_text_of_spares text cursor fits.1 spared first
    refine ih cursor₁ text₁ ?_ (fits.2 b₁ first) (spares.2 b₁ first) ran
    rw [same, spares.1.1, selected]

/-- Over every run of operations at boundaries none of them fails, the cursor stands between characters, and the
selection is the one that was set last. Nothing can be shown for it just if one of its ends is no boundary any more; a
selection shows what was selected for as long as the text up to its end is not edited. -/
theorem selected_of_runAll {text unit : List Char} {ops : List Operation}
    (fits : Throughout (fun b op => op.Fits b) { text, cursor := byteLength text, indentUnit := unit } ops) :
    ∃ b, runAll? { text, cursor := byteLength text, indentUnit := unit } ops = some b ∧
      IsBoundary b.text b.cursor ∧ b.selection = ops.foldl Operation.selection none ∧
      (∀ start stop, b.selection = some (start, stop) → start ≤ stop) ∧
      (b.selected? = none ↔
        ∃ start stop, b.selection = some (start, stop) ∧ ¬(IsBoundary b.text start ∧ IsBoundary b.text stop)) ∧
      ∀ start stop later, Throughout (fun b op => op.Fits b) b (.select start stop :: later) →
        Throughout (Operation.Spares stop) (b.select start stop) later →
          ∃ b' shown, runAll? b (.select start stop :: later) = some b' ∧ b.textOf? start stop = some shown ∧
            b'.selected? = some (some shown) := by
  have start : IsBoundary text (byteLength text) := by
    have last := IsBoundary.length text []
    rwa [List.append_nil] at last
  have unselected : Ordered (none : Option (Nat × Nat)) := fun _ _ same => by cases same
  obtain ⟨b, ran, cursor, selection⟩ := exists_runAll? start fits
  have ordered : Ordered b.selection := ordered_runAll? unselected start fits ran
  refine ⟨b, ran, cursor, selection, ordered, selected?_eq_none_iff ordered, ?_⟩
  intro first last later fits' spares
  obtain ⟨b', ran', -⟩ := exists_runAll? cursor fits'
  obtain ⟨⟨order, low, high⟩, rest⟩ := fits'
  obtain ⟨l, m, r, parts, rfl, rfl⟩ := low.parts high order
  refine ⟨b', m, ran', ?_, ?_⟩
  · rw [textOf?, parts, Text.slice?_append]
  · exact selected?_of_spares (b := b.select _ _) cursor parts rfl (rest _ rfl) spares ran'

/-- The first character of two is selected, then a line is broken behind it and a character typed on it. -/
theorem selected_of_runAll_typed : ∃ b b', runAll? (ofText ['é', 'a']) [.setCursor 2] = some b ∧
    runAll? b [.select 0 2, .newline, .insert 3 ['x']] = some b' ∧ b'.text = ['é', '\n', 'x', 'a'] ∧
    b'.selection = some (0, 2) ∧ b'.selected? = some (some ['é']) := by
  have middle : IsBoundary ['é', 'a'] 2 := .length ['é'] ['a']
  have fits : Throughout (fun b op => op.Fits b) { text := ['é', 'a'], cursor := 3, indentUnit := ['\t'] }
      [.setCursor 2] := ⟨middle, fun _ _ => trivial⟩
  obtain ⟨b, ran, -, -, -, -, kept⟩ := selected_of_runAll fits
  obtain rfl := Option.some.inj ran
  have spared (P : Buffer → Operation → Prop)
      (broken : P ⟨['é', 'a'], 2, some (0, 2), ['\t']⟩ .newline)
      (typed : P ⟨['é', '\n', 'a'], 3, some (0, 2), ['\t']⟩ (.insert 3 ['x'])) :
      Throughout P ⟨['é', 'a'], 2, some (0, 2), ['\t']⟩ [.newline, .insert 3 ['x']] := by
    refine ⟨broken, fun b ran => ?_⟩
    obtain rfl := Option.some.inj ran
    exact ⟨typed, fun _ _ => trivial⟩
  obtain ⟨b', shown, ran', sliced, same⟩ := kept 0 2 [.newline, .insert 3 ['x']]
    ⟨⟨Nat.zero_le 2, .zero _, middle⟩, fun b ran => by
      obtain rfl := Option.some.inj ran
      exact spared _ trivial (.length ['é', '\n'] ['a'])⟩
    (spared _ ⟨fun _ => rfl, by decide⟩ ⟨fun _ => rfl, by decide⟩)
  obtain rfl := Option.some.inj ran'
  obtain rfl := Option.some.inj sliced
  exact ⟨_, _, rfl, ran', rfl, rfl, same⟩

/-- A selected word that is deleted leaves a selection that is not in the text. -/
theorem selected?_deleted : ∃ ops b, Throughout (fun b op => op.Fits b) (ofText ['h', 'e', 'l', 'l', 'o']) ops ∧
    runAll? (ofText ['h', 'e', 'l', 'l', 'o']) ops = some b ∧ b.selection = some (0, 5) ∧ ¬IsBoundary b.text 5 ∧
    b.selected? = none := by
  have whole : IsBoundary ['h', 'e', 'l', 'l', 'o'] 5 := .length ['h', 'e', 'l', 'l', 'o'] []
  refine ⟨[.select 0 5, .delete 0 5], _, ?_, rfl, rfl, fun last => absurd last.le (by decide), rfl⟩
  refine ⟨⟨Nat.zero_le 5, .zero _, whole⟩, fun b ran => ?_⟩
  obtain rfl := Option.some.inj ran
  exact ⟨⟨Nat.zero_le 5, .zero _, whole⟩, fun _ _ => trivial⟩

end EditorBundles.Snippet.Buffer
