import EditorBundles.Proofs.Text.Offset
import EditorBundles.Snippet.Buffer

/-!
# Edits of a buffer at boundaries

Inserting at a boundary and deleting between boundaries give a buffer, and a cursor between characters
stays between characters.
-/

namespace EditorBundles.Snippet.Buffer
set_option autoImplicit false
open Text (byteLength IsBoundary)

variable {b : Buffer} {l m r : List Char}

theorem insert?_eq (text : b.text = l ++ r) (cursor : IsBoundary b.text b.cursor) (new : List Char) :
    ∃ b', b.insert? (byteLength l) new = some b' ∧ b'.text = l ++ new ++ r ∧ IsBoundary b'.text b'.cursor ∧
      b'.selection = b.selection ∧ b'.indentUnit = b.indentUnit := by
  have spliced := Text.splice?_append l [] r new
  rw [List.append_nil, Text.byteLength_nil, Nat.add_zero] at spliced
  have inserted : b.insert? (byteLength l) new = some { b with
      text := l ++ new ++ r
      cursor := if byteLength l < b.cursor then b.cursor + byteLength new else b.cursor } := by
    rw [insert?, text, spliced]
    rfl
  refine ⟨_, inserted, rfl, ?_, rfl, rfl⟩
  rw [text] at cursor
  by_cases behind : byteLength l < b.cursor
  · simp only [behind, if_true]
    have moved := (cursor.of_ge (Nat.le_of_lt behind)).append_left (l ++ new)
    rw [Text.byteLength_append] at moved
    rwa [show b.cursor + byteLength new = byteLength l + byteLength new + (b.cursor - byteLength l) by omega]
  · simp only [behind, if_false]
    have kept := (cursor.of_le (Nat.le_of_not_lt behind)).append_right (new ++ r)
    rwa [List.append_assoc]

theorem delete?_eq (text : b.text = l ++ m ++ r) (cursor : IsBoundary b.text b.cursor) :
    ∃ b', b.delete? (byteLength l) (byteLength l + byteLength m) = some b' ∧ b'.text = l ++ r ∧
      IsBoundary b'.text b'.cursor ∧ b'.selection = b.selection ∧ b'.indentUnit = b.indentUnit := by
  have spliced := Text.splice?_append l m r []
  rw [List.append_nil] at spliced
  have deleted : b.delete? (byteLength l) (byteLength l + byteLength m) = some { b with
      text := l ++ r
      cursor :=
        if byteLength l + byteLength m ≤ b.cursor then b.cursor - (byteLength l + byteLength m - byteLength l)
        else if byteLength l < b.cursor then byteLength l else b.cursor } := by
    rw [delete?, text, spliced]
    rfl
  refine ⟨_, deleted, rfl, ?_, rfl, rfl⟩
  rw [text] at cursor
  simp only
  by_cases behind : byteLength l + byteLength m ≤ b.cursor
  · rw [if_pos behind]
    rw [← Text.byteLength_append] at behind
    have moved := (cursor.of_ge behind).append_left l
    rw [Text.byteLength_append] at moved behind
    rwa [show b.cursor - (byteLength l + byteLength m - byteLength l) =
      byteLength l + (b.cursor - (byteLength l + byteLength m)) by omega]
  rw [if_neg behind]
  by_cases inside : byteLength l < b.cursor
  · rw [if_pos inside]
    exact .length l r
  · rw [if_neg inside]
    rw [List.append_assoc] at cursor
    exact (cursor.of_le (Nat.le_of_not_lt inside)).append_right r

/-- A buffer only deletes between boundaries. -/
theorem isBoundary_of_delete? {b' : Buffer} {start stop : Nat} (h : b.delete? start stop = some b') :
    IsBoundary b.text start ∧ IsBoundary b.text stop := by
  obtain ⟨text, spliced, -⟩ := Option.bind_eq_some_iff.1 h
  exact Text.isBoundary_of_splice? spliced

/-- The cursor goes between characters, if it is put there. -/
theorem isBoundary_setCursor {position : Nat} (h : IsBoundary b.text position) :
    IsBoundary (b.setCursor position).text (b.setCursor position).cursor := by
  show IsBoundary b.text (min position (byteLength b.text))
  rwa [Nat.min_eq_left h.le]

theorem setCursor_of_le {position : Nat} (h : position ≤ byteLength b.text) :
    (b.setCursor position).cursor = position :=
  Nat.min_eq_left h

/-- Typing inserts at the cursor and leaves the cursor behind the text. -/
theorem type?_eq (text : b.text = l ++ r) (cursor : b.cursor = byteLength l) (new : List Char) :
    ∃ b', b.type? new = some b' ∧ b'.text = l ++ new ++ r ∧ b'.cursor = byteLength l + byteLength new ∧
      b'.selection = b.selection ∧ b'.indentUnit = b.indentUnit := by
  have bound : IsBoundary b.text b.cursor := by
    rw [text, cursor]
    exact .length l r
  obtain ⟨b', inserted, text', -, selection, unit⟩ := insert?_eq text bound new
  have typed : b.type? new = some (b'.setCursor (byteLength l + byteLength new)) := by
    rw [type?, cursor, inserted]
    rfl
  refine ⟨_, typed, text', ?_, selection, unit⟩
  rw [setCursor_of_le]
  rw [text']
  simp only [Text.byteLength_append]
  omega

end EditorBundles.Snippet.Buffer
