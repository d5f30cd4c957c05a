import EditorBundles.Xml.Token
import Mathlib.Data.List.TakeWhile

/-!
# How tags and text are cut into tokens

`Token.scanFrom opened pos cs` is what is left to read in the middle of a document: the text `cs`, which
starts at octet `pos`, below the elements that are `opened`. A tag or a run of text in front of it is
one token in front of what is left behind it; at which octet that is does not matter to a reader.
-/

namespace EditorBundles.Xml.Token
set_option autoImplicit false
open Text (byteLength)

/-- The tokens of a text in the middle of a document. -/
def scanFrom (opened : List (List Char)) (pos : Nat) (cs : List Char) : List Token := nest opened (lexFrom pos cs)

/-- A name of letters, as all elements of a property list have it. -/
structure IsName (name : List Char) : Prop where
  nonempty : name ≠ []
  letters : ∀ c ∈ name, c.isAlpha

variable {name raw k content : List Char} {opened : List (List Char)} {token : Token}

namespace IsName

theorem ne {c : Char} (h : IsName name) (member : c ∈ name) (x : Char) (other : x.isAlpha = false) : c ≠ x := by
  intro same
  rw [← same, h.letters c member] at other
  cases other

theorem isBlank (h : IsName name) {c : Char} (member : c ∈ name) : Token.isBlank c = false := by
  have space := h.ne member ' ' rfl
  have tab := h.ne member '\t' rfl
  have back := h.ne member '\r' rfl
  have feed := h.ne member '\n' rfl
  simp [Token.isBlank, space, tab, back, feed]

theorem tagName (h : IsName name) : Token.tagName name = name := by
  rw [Token.tagName, List.takeWhile_eq_self_iff]
  intro c member
  rw [h.isBlank member]
  rfl

theorem trimName (h : IsName name) : Token.trimName name = name := by
  have last : name.reverse.dropWhile Token.isBlank = name.reverse := by
    rw [List.dropWhile_eq_self_iff]
    intro bound blank
    have member : name.reverse[0] ∈ name := List.mem_reverse.1 (List.getElem_mem bound)
    rw [h.isBlank member] at blank
    cases blank
  rw [Token.trimName, last, List.reverse_reverse, ite_self]

theorem ofTag (h : IsName name) : Token.ofTag name = .opening name := by
  have plain : name.getLast? ≠ some '/' := fun slash => h.ne (List.mem_of_getLast? slash) '/' rfl rfl
  rw [Token.ofTag, if_neg plain, h.tagName]

theorem ofTag_slash (h : IsName name) : Token.ofTag (name ++ ['/']) = .empty name := by
  rw [Token.ofTag, if_pos List.getLast?_concat, List.dropLast_concat, h.tagName]

end IsName

/-- Without quotes the text of a tag ends at the first `>`. -/
theorem upToTagEnd_plain (plain : ∀ c ∈ content, c ≠ '>' ∧ c ≠ '"' ∧ c ≠ '\'') :
    upToTagEnd none (content ++ '>' :: k) = some content := by
  induction content with
  | nil => simp [upToTagEnd]
  | cons c content ih =>
    obtain ⟨⟨close, double, single⟩, plain⟩ := List.forall_mem_cons.1 plain
    simp [upToTagEnd, close, double, single, ih plain]

/-- What starts with a letter is a start tag or an empty element. -/
theorem lexMarkup_tag {c : Char} (head : content.head? = some c) (letter : c.isAlpha)
    (ends : upToTagEnd none (content ++ '>' :: k) = some content) :
    lexMarkup (content ++ '>' :: k) = .ok (ofTag content, content) := by
  obtain ⟨rest, rfl⟩ := List.head?_eq_some_iff.1 head
  have first : ∀ x : Char, x.isAlpha = false → ∀ more, c :: rest ++ '>' :: k ≠ x :: more := by
    intro x other more same
    rw [← (List.cons.inj same).1, letter] at other
    cases other
  unfold lexMarkup
  split
  · next same => exact absurd same (first '!' rfl _)
  · next same => exact absurd same (first '/' rfl _)
  · next same => exact absurd same (first '?' rfl _)
  · rw [ends]

namespace IsName

theorem plain (h : IsName name) : ∀ c ∈ name, c ≠ '>' ∧ c ≠ '"' ∧ c ≠ '\'' :=
  fun _ member => ⟨h.ne member '>' rfl, h.ne member '"' rfl, h.ne member '\'' rfl⟩

theorem lexMarkup (h : IsName name) : Token.lexMarkup (name ++ '>' :: k) = .ok (.opening name, name) := by
  obtain ⟨c, rest, rfl⟩ := List.exists_cons_of_ne_nil h.nonempty
  rw [lexMarkup_tag rfl (h.letters c List.mem_cons_self) (upToTagEnd_plain h.plain), h.ofTag]

theorem lexMarkup_slash (h : IsName name) :
    Token.lexMarkup (name ++ ['/'] ++ '>' :: k) = .ok (.empty name, name ++ ['/']) := by
  have plain : ∀ c ∈ name ++ ['/'], c ≠ '>' ∧ c ≠ '"' ∧ c ≠ '\'' :=
    List.forall_mem_append.2 ⟨h.plain, by simp⟩
  rw [← h.ofTag_slash]
  obtain ⟨c, rest, rfl⟩ := List.exists_cons_of_ne_nil h.nonempty
  exact lexMarkup_tag rfl (h.letters c List.mem_cons_self) (upToTagEnd_plain plain)

end IsName

/-- A construct that is closed is one token. -/
theorem lexFrom_markup (pos : Nat) (found : lexMarkup (content ++ '>' :: k) = .ok (token, content)) :
    lexFrom pos ('<' :: (content ++ '>' :: k)) =
      token.stopAt (pos + byteLength content + 2) :: lexFrom (pos + byteLength content + 2) k := by
  have nonempty : (content ++ '>' :: k).isEmpty = false := by simp
  have behind : (content ++ '>' :: k).drop (content.length + 1) = k := by simp [List.drop_append]
  rw [lexFrom]
  simp only [nonempty, Bool.false_eq_true, if_false, found, behind]

/-- A run of text up to a tag or the end is one token. -/
theorem lexFrom_text (pos : Nat) (nonempty : raw ≠ []) (plain : '<' ∉ raw)
    (ends : k = [] ∨ ∃ more, k = '<' :: more) :
    ∃ stop, lexFrom pos (raw ++ k) = .text raw stop :: lexFrom (pos + byteLength raw) k := by
  obtain ⟨c, rest, rfl⟩ := List.exists_cons_of_ne_nil nonempty
  have run : (rest ++ k).takeWhile (· ≠ '<') = rest := by
    have text : ∀ x ∈ rest, decide (x ≠ '<') = true := by
      intro x member
      exact decide_eq_true fun same => plain (List.mem_cons_of_mem c (same ▸ member))
    rw [List.takeWhile_append_of_pos text]
    rcases ends with rfl | ⟨more, rfl⟩ <;> simp
  rw [List.cons_append, lexFrom]
  · simp only [run, List.length_cons, Nat.add_sub_cancel, List.drop_left]
    exact ⟨_, rfl⟩
  · intro same
    exact plain (same ▸ List.mem_cons_self)

theorem scanFrom_nil (opened : List (List Char)) (pos : Nat) : scanFrom opened pos [] = [] := by
  rw [scanFrom, lexFrom, nest]

theorem scanFrom_opening (h : IsName name) (opened : List (List Char)) (pos : Nat) (k : List Char) :
    ∃ pos', scanFrom opened pos ('<' :: (name ++ '>' :: k)) =
      .opening name :: scanFrom (name :: opened) pos' k := by
  rw [scanFrom, lexFrom_markup pos h.lexMarkup, stopAt, nest]
  · exact ⟨_, rfl⟩
  · simp

theorem scanFrom_empty (h : IsName name) (opened : List (List Char)) (pos : Nat) (k : List Char) :
    ∃ pos', scanFrom opened pos ('<' :: (name ++ '/' :: '>' :: k)) = .empty name :: scanFrom opened pos' k := by
  have lexed := lexFrom_markup pos (h.lexMarkup_slash (k := k))
  rw [List.append_assoc, List.singleton_append] at lexed
  rw [scanFrom, lexed, stopAt, nest]
  · exact ⟨_, rfl⟩
  all_goals simp

theorem scanFrom_closing (h : IsName name) (opened : List (List Char)) (pos : Nat) (k : List Char) :
    ∃ pos', scanFrom (name :: opened) pos ('<' :: '/' :: (name ++ '>' :: k)) =
      .closing name :: scanFrom opened pos' k := by
  have run : (name ++ '>' :: k).takeWhile (· ≠ '>') = name := by
    have plain : ∀ x ∈ name, decide (x ≠ '>') = true := fun x member => decide_eq_true (h.ne member '>' rfl)
    rw [List.takeWhile_append_of_pos plain]
    simp
  have found : lexMarkup (('/' :: name) ++ '>' :: k) = .ok (.closing name, '/' :: name) := by
    rw [List.cons_append, lexMarkup]
    simp only [run]
  have lexed := lexFrom_markup pos found
  rw [List.cons_append] at lexed
  rw [scanFrom, lexed, stopAt, nest, h.trimName, if_pos rfl]
  · exact ⟨_, rfl⟩
  · simp

theorem scanFrom_text (opened : List (List Char)) (pos : Nat) (nonempty : raw ≠ []) (plain : '<' ∉ raw)
    (ends : k = [] ∨ ∃ more, k = '<' :: more) :
    ∃ stop pos', scanFrom opened pos (raw ++ k) = .text raw stop :: scanFrom opened pos' k := by
  obtain ⟨stop, lexed⟩ := lexFrom_text pos nonempty plain ends
  rw [scanFrom, lexed, nest]
  · exact ⟨stop, _, rfl⟩
  · simp
  · simp

end EditorBundles.Xml.Token
