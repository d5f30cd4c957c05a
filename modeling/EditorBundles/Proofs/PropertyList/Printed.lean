import EditorBundles.PropertyList.Printer
import EditorBundles.PropertyList.Reader
import EditorBundles.Proofs.Xml.Entity
import EditorBundles.Proofs.Xml.Token

/-!
# Reading what was printed

What the printer writes for a value, an item or an entry is read back from wherever it stands in a text,
and leaves the reader in front of what comes next. The statements follow the printer's own recursion. The
reader's fuel is never short: there is more of it than tokens, and each step down takes a token.
-/

namespace EditorBundles.PropertyList
set_option autoImplicit false
open Xml (Token)
open Xml.Token (IsName scanFrom)

/-! ## Numbers -/

theorem decimal?_toDigits (n : Nat) : decimal? (Nat.toDigits 10 n) = some n := by
  have digits : (Nat.toDigits 10 n).all Char.isDigit := by
    rw [List.all_eq_true]
    exact fun c member => Nat.isDigit_of_mem_toDigits (by omega) (by omega) member
  have number : (Nat.toDigits 10 n).foldl (fun n c => n * 10 + (c.toNat - '0'.toNat)) 0 = n := by
    have read := Nat.ofDigitChars_ten_toDigits (n := n)
    rw [Nat.ofDigitChars_eq_foldl] at read
    simpa only [Nat.mul_comm] using read
  rw [decimal?, if_pos ⟨Nat.toDigits_ne_nil, digits⟩, number]

/-- A digit or a sign is no blank. -/
theorem isBlank_of_isDigit {c : Char} (digit : c.isDigit) : Text.isBlank c = false := by
  simp only [Char.isDigit, Bool.and_eq_true, decide_eq_true_eq] at digit
  obtain ⟨low, high⟩ := digit
  have low : 48 ≤ c.toNat := low
  have high : c.toNat ≤ 57 := high
  simp [Text.isBlank]
  omega

theorem trim_eq_self {cs : List Char} (solid : ∀ c ∈ cs, Text.isBlank c = false) : Text.trim cs = cs := by
  have same (cs : List Char) (solid : ∀ c ∈ cs, Text.isBlank c = false) : cs.dropWhile Text.isBlank = cs := by
    cases cs with
    | nil => rfl
    | cons c cs => rw [List.dropWhile_cons, solid c List.mem_cons_self, if_neg Bool.false_ne_true]
  rw [Text.trim, same cs solid, same cs.reverse fun c member => solid c (List.mem_reverse.1 member),
    List.reverse_reverse]

theorem int64OfInt?_toInt (n : Int64) : int64OfInt? n.toInt = some n := by
  have low := n.le_toInt
  have high := n.toInt_lt
  rw [int64OfInt?, if_pos ⟨by omega, by omega⟩, Int64.ofInt_toInt]

theorem isDigit_of_mem_toDigits {m : Nat} {c : Char} (member : c ∈ Nat.toDigits 10 m) : c.isDigit :=
  Nat.isDigit_of_mem_toDigits (by omega) (by omega) member

theorem int64?_toDigits (m : Nat) : int64? (Nat.toDigits 10 m) = int64OfInt? m := by
  unfold int64?
  split
  · next same => exact absurd (isDigit_of_mem_toDigits (same ▸ List.mem_cons_self)) (by decide)
  · next same => exact absurd (isDigit_of_mem_toDigits (same ▸ List.mem_cons_self)) (by decide)
  · simp -implicitDefEqProofs [decimal?_toDigits]

theorem int64?_minus_toDigits (m : Nat) : int64? ('-' :: Nat.toDigits 10 m) = int64OfInt? (-m) := by
  have signed : int64? ('-' :: Nat.toDigits 10 m) =
      ((decimal? (Nat.toDigits 10 m)).map fun n => -(n : Int)).bind int64OfInt? := rfl
  rw [signed]
  simp -implicitDefEqProofs [decimal?_toDigits]

/-- A printed number is read as it was. -/
theorem int64?_toString (n : Int64) : int64? (Text.trim (toString n.toInt).toList) = some n := by
  rw [← int64OfInt?_toInt n]
  generalize n.toInt = i
  cases i with
  | ofNat m =>
    have text : (toString (Int.ofNat m)).toList = Nat.toDigits 10 m := by simp [Int.repr]
    rw [text, trim_eq_self fun c member => isBlank_of_isDigit (isDigit_of_mem_toDigits member)]
    exact int64?_toDigits m
  | negSucc m =>
    have text : (toString (Int.negSucc m)).toList = '-' :: Nat.toDigits 10 (m + 1) := by simp [Int.repr]
    have solid : ∀ c ∈ '-' :: Nat.toDigits 10 (m + 1), Text.isBlank c = false :=
      List.forall_mem_cons.2 ⟨by decide, fun c member => isBlank_of_isDigit (isDigit_of_mem_toDigits member)⟩
    rw [text, trim_eq_self solid]
    exact int64?_minus_toDigits (m + 1)

/-! ## Tags and text -/

/-- A new line and the tabs behind it. -/
def indent (level : Nat) : List Char := '\n' :: List.replicate level '\t'

theorem toList_line (level : Nat) (content : String) :
    (line level content).toList = indent level ++ content.toList := by
  simp [line, indent]

variable {name k : List Char} {opened : List (List Char)}

/-- An indentation is no content. -/
theorem nextPiece_indent (opened : List (List Char)) (pos level : Nat) (k : List Char) :
    ∃ pos', nextPiece (scanFrom opened pos (indent level ++ '<' :: k)) =
        nextPiece (scanFrom opened pos' ('<' :: k)) ∧
      (scanFrom opened pos (indent level ++ '<' :: k)).length = (scanFrom opened pos' ('<' :: k)).length + 1 := by
  have nonempty : indent level ≠ [] := by simp [indent]
  have plain : '<' ∉ indent level := by simp [indent]
  have blank : (indent level).all Text.isAsciiBlank := by
    simp [indent, Text.isAsciiBlank]
  obtain ⟨stop, pos', scanned⟩ := Token.scanFrom_text opened pos nonempty plain (.inr ⟨k, rfl⟩)
  rw [scanned]
  exact ⟨pos', by rw [nextPiece, if_pos blank], rfl⟩

theorem nextPiece_opening (h : IsName name) (opened : List (List Char)) (pos level : Nat) (k : List Char) :
    ∃ pos', nextPiece (scanFrom opened pos (indent level ++ '<' :: (name ++ '>' :: k))) =
        .ok (.opening (String.ofList name), scanFrom (name :: opened) pos' k) ∧
      (scanFrom opened pos (indent level ++ '<' :: (name ++ '>' :: k))).length =
        (scanFrom (name :: opened) pos' k).length + 2 := by
  obtain ⟨mid, next, length⟩ := nextPiece_indent opened pos level (name ++ '>' :: k)
  obtain ⟨pos', scanned⟩ := Token.scanFrom_opening h opened mid k
  rw [next, length, scanned, nextPiece]
  exact ⟨pos', rfl, rfl⟩

theorem nextPiece_empty (h : IsName name) (opened : List (List Char)) (pos level : Nat) (k : List Char) :
    ∃ pos', nextPiece (scanFrom opened pos (indent level ++ '<' :: (name ++ '/' :: '>' :: k))) =
        .ok (.empty (String.ofList name), scanFrom opened pos' k) ∧
      (scanFrom opened pos (indent level ++ '<' :: (name ++ '/' :: '>' :: k))).length =
        (scanFrom opened pos' k).length + 2 := by
  obtain ⟨mid, next, length⟩ := nextPiece_indent opened pos level (name ++ '/' :: '>' :: k)
  obtain ⟨pos', scanned⟩ := Token.scanFrom_empty h opened mid k
  rw [next, length, scanned, nextPiece]
  exact ⟨pos', rfl, rfl⟩

theorem nextPiece_closing (h : IsName name) (opened : List (List Char)) (pos level : Nat) (k : List Char) :
    ∃ pos', nextPiece (scanFrom (name :: opened) pos (indent level ++ '<' :: '/' :: (name ++ '>' :: k))) =
        .ok (.closing (String.ofList name), scanFrom opened pos' k) ∧
      (scanFrom (name :: opened) pos (indent level ++ '<' :: '/' :: (name ++ '>' :: k))).length =
        (scanFrom opened pos' k).length + 2 := by
  obtain ⟨mid, next, length⟩ := nextPiece_indent (name :: opened) pos level ('/' :: (name ++ '>' :: k))
  obtain ⟨pos', scanned⟩ := Token.scanFrom_closing h opened mid k
  rw [next, length, scanned, nextPiece]
  exact ⟨pos', rfl, rfl⟩

/-- Escaped text is read as it was, up to its end tag. -/
theorem readContent_escape {tag : String} (h : IsName tag.toList) (opened : List (List Char)) (pos : Nat)
    {cs : List Char}
    (nonempty : cs ≠ []) (k : List Char) :
    ∃ pos', readContent tag
        (scanFrom (tag.toList :: opened) pos (Xml.Entity.escape cs ++ '<' :: '/' :: (tag.toList ++ '>' :: k))) =
        .ok (cs, scanFrom opened pos' k) ∧
      (scanFrom (tag.toList :: opened) pos
        (Xml.Entity.escape cs ++ '<' :: '/' :: (tag.toList ++ '>' :: k))).length =
        (scanFrom opened pos' k).length + 2 := by
  obtain ⟨stop, mid, scanned⟩ :=
    Token.scanFrom_text (tag.toList :: opened) pos (Xml.Entity.escape_ne_nil nonempty)
    (Xml.Entity.lt_not_mem_escape cs) (.inr ⟨'/' :: (tag.toList ++ '>' :: k), rfl⟩)
  obtain ⟨pos', closed⟩ := Token.scanFrom_closing h opened mid k
  rw [scanned, closed, readContent, Xml.Entity.unescape_escape, readContent, String.ofList_toList, if_pos rfl]
  simp only [List.append_nil]
  exact ⟨pos', rfl, rfl⟩

/-- An element of text is an empty element, or a start tag behind which the text is read. -/
theorem read_textElement {tag : String} (h : IsName tag.toList) (text : String) (opened : List (List Char))
    (pos level : Nat) (k : List Char) :
    ∃ rest pos', (scanFrom opened pos ((textElement level tag text).toList ++ k)).length = rest.length + 2 ∧
      (scanFrom opened pos' k).length ≤ rest.length ∧
      ((text = "" ∧ rest = scanFrom opened pos' k ∧
          nextPiece (scanFrom opened pos ((textElement level tag text).toList ++ k)) = .ok (.empty tag, rest)) ∨
        (readContent tag rest = .ok (text.toList, scanFrom opened pos' k) ∧
          nextPiece (scanFrom opened pos ((textElement level tag text).toList ++ k)) =
          .ok (.opening tag, rest))) := by
  by_cases none : text = ""
  · subst none
    have printed : (textElement level tag "").toList ++ k =
        indent level ++ '<' :: (tag.toList ++ '/' :: '>' :: k) := by
      simp [textElement, toList_line]
    obtain ⟨pos', next, length⟩ := nextPiece_empty h opened pos level k
    rw [String.ofList_toList] at next
    rw [printed]
    exact ⟨_, pos', length, Nat.le_refl _, .inl ⟨rfl, rfl, next⟩⟩
  · have nonempty : text.toList ≠ [] := by simpa using none
    have printed : (textElement level tag text).toList ++ k = indent level ++
        '<' :: (tag.toList ++ '>' :: (Xml.Entity.escape text.toList ++ '<' :: '/' :: (tag.toList ++ '>' :: k))) := by
      simp [textElement, toList_line, none]
    obtain ⟨mid, next, length⟩ := nextPiece_opening h opened pos level
      (Xml.Entity.escape text.toList ++ '<' :: '/' :: (tag.toList ++ '>' :: k))
    obtain ⟨pos', content, shorter⟩ := readContent_escape h opened mid nonempty k
    rw [String.ofList_toList] at next
    rw [printed]
    exact ⟨_, pos', length, by omega, .inr ⟨content, next⟩⟩

/-! ## Values -/

/-- The tokens start with an element that is read as a value, whatever the fuel as long as there is more
of it than tokens, and others are left behind it. -/
def Reads (tokens : List Token) (v : Value) (left : List Token) : Prop :=
  ∃ name empty rest, nextPiece tokens = .ok (if empty then .empty name else .opening name, rest) ∧
    tokens.length = rest.length + 2 ∧ left.length ≤ rest.length ∧
    ∀ fuel, rest.length < fuel → readValue fuel name empty rest = .ok (v, left)

theorem isName_of_all {name : String} (nonempty : name.toList ≠ []) (letters : name.toList.all Char.isAlpha) :
    IsName name.toList := ⟨nonempty, List.all_eq_true.1 letters⟩

theorem isName_string : IsName "string".toList := isName_of_all (by decide) (by decide)
theorem isName_integer : IsName "integer".toList := isName_of_all (by decide) (by decide)
theorem isName_key : IsName "key".toList := isName_of_all (by decide) (by decide)
theorem isName_array : IsName "array".toList := isName_of_all (by decide) (by decide)
theorem isName_dict : IsName "dict".toList := isName_of_all (by decide) (by decide)

theorem reads_string (s : String) (opened : List (List Char)) (pos level : Nat) (k : List Char) :
    ∃ pos', Reads (scanFrom opened pos ((printValue level (.string s)).toList ++ k)) (.string s)
      (scanFrom opened pos' k) := by
  obtain ⟨rest, pos', length, shorter, read⟩ := read_textElement isName_string s opened pos level k
  rcases read with ⟨rfl, rfl, next⟩ | ⟨content, next⟩
  · refine ⟨pos', "string", true, _, next, length, shorter, fun fuel enough => ?_⟩
    obtain ⟨fuel, rfl⟩ := Nat.exists_eq_add_one_of_ne_zero (Nat.ne_zero_of_lt enough)
    rfl
  · refine ⟨pos', "string", false, rest, next, length, shorter, fun fuel enough => ?_⟩
    obtain ⟨fuel, rfl⟩ := Nat.exists_eq_add_one_of_ne_zero (Nat.ne_zero_of_lt enough)
    simp [readValue, content]

theorem reads_integer (n : Int64) (opened : List (List Char)) (pos level : Nat) (k : List Char) :
    ∃ pos', Reads (scanFrom opened pos ((printValue level (.integer n)).toList ++ k)) (.integer n)
      (scanFrom opened pos' k) := by
  obtain ⟨rest, pos', length, shorter, read⟩ :=
    read_textElement isName_integer (toString n.toInt) opened pos level k
  have number := int64?_toString n
  rcases read with ⟨none, -⟩ | ⟨content, next⟩
  · rw [none] at number
    cases number
  · refine ⟨pos', "integer", false, rest, next, length, shorter, fun fuel enough => ?_⟩
    obtain ⟨fuel, rfl⟩ := Nat.exists_eq_add_one_of_ne_zero (Nat.ne_zero_of_lt enough)
    rw [readValue, if_neg (by decide), if_pos rfl, if_neg Bool.false_ne_true]
    simp only [content, number]

theorem reads_bool (b : Bool) (opened : List (List Char)) (pos level : Nat) (k : List Char) :
    ∃ pos', Reads (scanFrom opened pos ((printValue level (.bool b)).toList ++ k)) (.bool b)
      (scanFrom opened pos' k) := by
  have element (name : String) (h : IsName name.toList) (value : name = if b then "true" else "false")
      (printed : (printValue level (.bool b)).toList ++ k =
        indent level ++ '<' :: (name.toList ++ '/' :: '>' :: k)) :
      ∃ pos', Reads (scanFrom opened pos ((printValue level (.bool b)).toList ++ k)) (.bool b)
        (scanFrom opened pos' k) := by
    obtain ⟨pos', next, length⟩ := nextPiece_empty h opened pos level k
    rw [String.ofList_toList] at next
    rw [printed]
    refine ⟨pos', name, true, _, next, length, Nat.le_refl _, fun fuel enough => ?_⟩
    obtain ⟨fuel, rfl⟩ := Nat.exists_eq_add_one_of_ne_zero (Nat.ne_zero_of_lt enough)
    subst value
    cases b <;> simp [readValue]
  cases b with
  | true => exact element "true" (isName_of_all (by decide) (by decide)) rfl (by simp [printValue, toList_line])
  | false => exact element "false" (isName_of_all (by decide) (by decide)) rfl (by simp [printValue, toList_line])

/-- An empty element that is a container is read as one with nothing in it. -/
theorem reads_blank {name : String} {v : Value} (h : IsName name.toList) (opened : List (List Char))
    (pos level : Nat)
    (k : List Char) (read : ∀ fuel tokens, readValue (fuel + 1) name true tokens = .ok (v, tokens)) :
    ∃ pos', Reads (scanFrom opened pos ((line level ("<" ++ name ++ "/>")).toList ++ k)) v (scanFrom opened pos' k) := by
  have printed : (line level ("<" ++ name ++ "/>")).toList ++ k =
      indent level ++ '<' :: (name.toList ++ '/' :: '>' :: k) := by
    simp [toList_line]
  obtain ⟨pos', next, length⟩ := nextPiece_empty h opened pos level k
  rw [String.ofList_toList] at next
  rw [printed]
  refine ⟨pos', name, true, _, next, length, Nat.le_refl _, fun fuel enough => ?_⟩
  obtain ⟨fuel, rfl⟩ := Nat.exists_eq_add_one_of_ne_zero (Nat.ne_zero_of_lt enough)
  exact read fuel _

/-- The tokens are read as items up to the end of their list. -/
def ReadsItems (tokens : List Token) (items : List Value) (left : List Token) : Prop :=
  left.length < tokens.length ∧ ∀ fuel, tokens.length ≤ fuel → readItems fuel tokens = .ok (items, left)

/-- The tokens are read as entries up to the end of their dictionary. -/
def ReadsEntries (tokens : List Token) (entries : List (String × Value)) (left : List Token) : Prop :=
  left.length < tokens.length ∧ ∀ fuel, tokens.length ≤ fuel → readEntries fuel tokens = .ok (entries, left)

/-- The end tag of a container on a line of its own, and what comes behind it. -/
def endLine (level : Nat) (name : String) (k : List Char) : List Char :=
  indent level ++ '<' :: '/' :: (name.toList ++ '>' :: k)

/-- A container with something in it is read if what is in it is. -/
theorem reads_container {name : String} {v : Value} {content : String} (h : IsName name.toList)
    (opened : List (List Char)) (pos level : Nat) (k : List Char)
    (read : ∀ pos, ∃ pos', (scanFrom opened pos' k).length <
        (scanFrom (name.toList :: opened) pos (content.toList ++ endLine level name k)).length ∧
      ∀ fuel, (scanFrom (name.toList :: opened) pos (content.toList ++ endLine level name k)).length ≤ fuel →
        readValue (fuel + 1) name false (scanFrom (name.toList :: opened) pos (content.toList ++ endLine level name k)) =
          .ok (v, scanFrom opened pos' k)) :
    ∃ pos', Reads (scanFrom opened pos
        ((line level ("<" ++ name ++ ">") ++ content ++ line level ("</" ++ name ++ ">")).toList ++ k))
      v (scanFrom opened pos' k) := by
  have printed : (line level ("<" ++ name ++ ">") ++ content ++ line level ("</" ++ name ++ ">")).toList ++ k =
      indent level ++ '<' :: (name.toList ++ '>' :: (content.toList ++ endLine level name k)) := by
    simp [toList_line, endLine]
  obtain ⟨mid, next, length⟩ := nextPiece_opening h opened pos level (content.toList ++ endLine level name k)
  obtain ⟨pos', shorter, read⟩ := read mid
  rw [String.ofList_toList] at next
  rw [printed]
  refine ⟨pos', name, false, _, next, length, Nat.le_of_lt shorter, fun fuel enough => ?_⟩
  obtain ⟨fuel, rfl⟩ := Nat.exists_eq_add_one_of_ne_zero (Nat.ne_zero_of_lt enough)
  exact read fuel (by omega)

/-! ### One step of the reader -/

section Steps

variable {fuel : Nat} {tokens inner mid rest between left : List Token} {name key : String}
  {empty : Bool} {v : Value}
  {items : List Value} {entries : List (String × Value)}

theorem readValue_array (read : readItems fuel tokens = .ok (items, left)) :
    readValue (fuel + 1) "array" false tokens = .ok (.array items, left) := by
  simp [readValue, read]

theorem readValue_dict (read : readEntries fuel tokens = .ok (entries, left)) :
    readValue (fuel + 1) "dict" false tokens = .ok (.dict entries, left) := by
  simp [readValue, read]

theorem readItems_end (next : nextPiece tokens = .ok (.closing "array", left)) :
    readItems (fuel + 1) tokens = .ok ([], left) := by
  simp [readItems, next, bind, Except.bind, pure, Except.pure]

theorem readItems_element (next : nextPiece tokens = .ok (if empty then .empty name else .opening name, rest))
    (value : readValue fuel name empty rest = .ok (v, between))
    (others : readItems fuel between = .ok (items, left)) :
    readItems (fuel + 1) tokens = .ok (v :: items, left) := by
  cases empty <;> simp_all [readItems, bind, Except.bind, pure, Except.pure]

theorem readEntries_end (next : nextPiece tokens = .ok (.closing "dict", left)) :
    readEntries (fuel + 1) tokens = .ok ([], left) := by
  simp [readEntries, next, bind, Except.bind, pure, Except.pure]

/-- A key is read from an empty element, or from a start tag and the text behind it. -/
def ReadsKey (tokens : List Token) (key : String) (mid : List Token) : Prop :=
  (key = "" ∧ nextPiece tokens = .ok (.empty "key", mid)) ∨
    ∃ inner, nextPiece tokens = .ok (.opening "key", inner) ∧ readContent "key" inner = .ok (key.toList, mid)

theorem readEntries_element (first : ReadsKey tokens key mid)
    (next : nextPiece mid = .ok (if empty then .empty name else .opening name, rest))
    (value : readValue fuel name empty rest = .ok (v, between))
    (others : readEntries fuel between = .ok (entries, left)) :
    readEntries (fuel + 1) tokens = .ok ((key, v) :: entries, left) := by
  rcases first with ⟨rfl, start⟩ | ⟨inner, start, content⟩
  · cases empty <;> simp_all [readEntries, bind, Except.bind, pure, Except.pure]
  · cases empty <;> simp_all [readEntries, bind, Except.bind, pure, Except.pure, Except.map]

end Steps

/-! ### Whole containers -/

theorem readsItems_nil (opened : List (List Char)) (pos level : Nat) (k : List Char) :
    ∃ pos', ReadsItems (scanFrom ("array".toList :: opened) pos (endLine level "array" k)) [] (scanFrom opened pos' k) := by
  obtain ⟨pos', next, length⟩ := nextPiece_closing isName_array opened pos level k
  rw [String.ofList_toList] at next
  rw [endLine]
  refine ⟨pos', by omega, fun fuel enough => ?_⟩
  obtain ⟨fuel, rfl⟩ : ∃ fewer, fuel = fewer + 1 := ⟨fuel - 1, by omega⟩
  exact readItems_end next

theorem readsItems_cons {tokens between left : List Token} {v : Value} {items : List Value}
    (first : Reads tokens v between)
    (others : ReadsItems between items left) : ReadsItems tokens (v :: items) left := by
  obtain ⟨name, empty, rest, next, length, shorter, read⟩ := first
  obtain ⟨less, others⟩ := others
  refine ⟨by omega, fun fuel enough => ?_⟩
  obtain ⟨fuel, rfl⟩ : ∃ fewer, fuel = fewer + 1 := ⟨fuel - 1, by omega⟩
  exact readItems_element next (read fuel (by omega)) (others fuel (by omega))

theorem readsEntries_nil (opened : List (List Char)) (pos level : Nat) (k : List Char) :
    ∃ pos', ReadsEntries (scanFrom ("dict".toList :: opened) pos (endLine level "dict" k)) [] (scanFrom opened pos' k) := by
  obtain ⟨pos', next, length⟩ := nextPiece_closing isName_dict opened pos level k
  rw [String.ofList_toList] at next
  rw [endLine]
  refine ⟨pos', by omega, fun fuel enough => ?_⟩
  obtain ⟨fuel, rfl⟩ : ∃ fewer, fuel = fewer + 1 := ⟨fuel - 1, by omega⟩
  exact readEntries_end next

theorem readsEntries_cons {tokens mid between left : List Token} {key : String} {v : Value}
    {entries : List (String × Value)} (fewer : mid.length < tokens.length) (first : ReadsKey tokens key mid)
    (second : Reads mid v between) (others : ReadsEntries between entries left) :
    ReadsEntries tokens ((key, v) :: entries) left := by
  obtain ⟨name, empty, rest, next, length, shorter, read⟩ := second
  obtain ⟨less, others⟩ := others
  refine ⟨by omega, fun fuel enough => ?_⟩
  obtain ⟨fuel, rfl⟩ : ∃ fewer, fuel = fewer + 1 := ⟨fuel - 1, by omega⟩
  exact readEntries_element first next (read fuel (by omega)) (others fuel (by omega))

theorem readsKey_textElement (key : String) (opened : List (List Char)) (pos level : Nat) (k : List Char) :
    ∃ pos', (scanFrom opened pos' k).length <
        (scanFrom opened pos ((textElement level "key" key).toList ++ k)).length ∧
      ReadsKey (scanFrom opened pos ((textElement level "key" key).toList ++ k)) key (scanFrom opened pos' k) := by
  obtain ⟨rest, pos', length, shorter, read⟩ := read_textElement isName_key key opened pos level k
  refine ⟨pos', by omega, ?_⟩
  rcases read with ⟨none, rfl, next⟩ | ⟨content, next⟩
  · exact .inl ⟨none, next⟩
  · exact .inr ⟨rest, next, content⟩

mutual

/-- What is printed for a value is read as the value. -/
theorem reads_value (v : Value) (opened : List (List Char)) (pos level : Nat) (k : List Char) :
    ∃ pos', Reads (scanFrom opened pos ((printValue level v).toList ++ k)) v (scanFrom opened pos' k) := by
  match v with
  | .string s => exact reads_string s opened pos level k
  | .integer n => exact reads_integer n opened pos level k
  | .bool b => exact reads_bool b opened pos level k
  | .array [] => exact reads_blank isName_array opened pos level k fun _ _ => rfl
  | .dict [] => exact reads_blank isName_dict opened pos level k fun _ _ => rfl
  | .array (v :: items) =>
    refine reads_container isName_array opened pos level k fun mid => ?_
    obtain ⟨pos', shorter, read⟩ := readsItems_print (v :: items) opened mid (level + 1) level k
    exact ⟨pos', shorter, fun fuel enough => readValue_array (read fuel enough)⟩
  | .dict (entry :: entries) =>
    refine reads_container isName_dict opened pos level k fun mid => ?_
    obtain ⟨pos', shorter, read⟩ := readsEntries_print (entry :: entries) opened mid (level + 1) level k
    exact ⟨pos', shorter, fun fuel enough => readValue_dict (read fuel enough)⟩

/-- What is printed for items is read as the items. -/
theorem readsItems_print (items : List Value) (opened : List (List Char)) (pos level outer : Nat)
    (k : List Char) :
    ∃ pos', ReadsItems (scanFrom ("array".toList :: opened) pos
      ((printItems level items).toList ++ endLine outer "array" k)) items (scanFrom opened pos' k) := by
  match items with
  | [] => exact readsItems_nil opened pos outer k
  | v :: items =>
    have printed : (printItems level (v :: items)).toList ++ endLine outer "array" k =
        (printValue level v).toList ++ ((printItems level items).toList ++ endLine outer "array" k) := by
      simp [printItems]
    obtain ⟨mid, first⟩ := reads_value v ("array".toList :: opened) pos level
      ((printItems level items).toList ++ endLine outer "array" k)
    obtain ⟨pos', others⟩ := readsItems_print items opened mid level outer k
    rw [printed]
    exact ⟨pos', readsItems_cons first others⟩

/-- What is printed for entries is read as the entries. -/
theorem readsEntries_print (entries : List (String × Value)) (opened : List (List Char)) (pos level outer : Nat)
    (k : List Char) :
    ∃ pos', ReadsEntries (scanFrom ("dict".toList :: opened) pos
      ((printEntries level entries).toList ++ endLine outer "dict" k)) entries (scanFrom opened pos' k) := by
  match entries with
  | [] => exact readsEntries_nil opened pos outer k
  | (key, v) :: entries =>
    have printed : (printEntries level ((key, v) :: entries)).toList ++ endLine outer "dict" k =
        (textElement level "key" key).toList ++
          ((printValue level v).toList ++ ((printEntries level entries).toList ++ endLine outer "dict" k)) := by
      simp [printEntries]
    obtain ⟨before, fewer, first⟩ := readsKey_textElement key ("dict".toList :: opened) pos level
      ((printValue level v).toList ++ ((printEntries level entries).toList ++ endLine outer "dict" k))
    obtain ⟨mid, second⟩ := reads_value v ("dict".toList :: opened) before level
      ((printEntries level entries).toList ++ endLine outer "dict" k)
    obtain ⟨pos', others⟩ := readsEntries_print entries opened mid level outer k
    rw [printed]
    exact ⟨pos', readsEntries_cons fewer first second others⟩

end

/-! ## Documents -/

/-- The declaration at the start of every text. -/
def declaration : List Char := "?xml version=\"1.0\" encoding=\"UTF-8\"?".toList

/-- The document type behind it. -/
def doctype : List Char :=
  ("!DOCTYPE plist PUBLIC \"-//Apple Computer//DTD PLIST 1.0//EN\" "
    ++ "\"http://www.apple.com/DTDs/PropertyList-1.0.dtd\"").toList

/-- The start tag of the outermost element. -/
def plistTag : List Char := "plist version=\"1.0\"".toList

/-- The characters of a text that stands between others are those in between. -/
theorem toList_between {whole inner : String} {left right cs : List Char} (spelled : inner = String.ofList cs)
    (joined : whole = String.ofList (left ++ (cs ++ right))) : whole.toList = left ++ (inner.toList ++ right) := by
  rw [spelled, joined, String.toList_ofList, String.toList_ofList]

theorem toList_heading :
    heading.toList = '<' :: (declaration ++ '>' :: '\n' :: '<' :: (doctype ++ '>' :: '\n' :: '<' :: (plistTag ++ ['>']))) := by
  have parts (a b c d : String) : (a ++ b ++ c ++ d).toList = a.toList ++ (b.toList ++ (c.toList ++ d.toList)) := by
    simp
  have lines (x f b p : List Char) : ['<'] ++ (x ++ ['>', '\n']) ++
      (['<'] ++ (f ++ []) ++ ([] ++ (b ++ ['>', '\n']) ++ (['<'] ++ (p ++ ['>'])))) =
        '<' :: (x ++ '>' :: '\n' :: '<' :: (f ++ b ++ '>' :: '\n' :: '<' :: (p ++ ['>']))) := by simp
  have declared : "<?xml version=\"1.0\" encoding=\"UTF-8\"?>\n".toList = ['<'] ++ (declaration ++ ['>', '\n']) :=
    toList_between rfl rfl
  have front : "<!DOCTYPE plist PUBLIC \"-//Apple Computer//DTD PLIST 1.0//EN\" ".toList =
      ['<'] ++ ("!DOCTYPE plist PUBLIC \"-//Apple Computer//DTD PLIST 1.0//EN\" ".toList ++ []) := toList_between rfl rfl
  have back : "\"http://www.apple.com/DTDs/PropertyList-1.0.dtd\">\n".toList =
      [] ++ ("\"http://www.apple.com/DTDs/PropertyList-1.0.dtd\"".toList ++ ['>', '\n']) := toList_between rfl rfl
  have tag : "<plist version=\"1.0\">".toList = ['<'] ++ (plistTag ++ ['>']) := toList_between rfl rfl
  have typed : doctype = "!DOCTYPE plist PUBLIC \"-//Apple Computer//DTD PLIST 1.0//EN\" ".toList ++
      "\"http://www.apple.com/DTDs/PropertyList-1.0.dtd\"".toList := String.toList_append
  refine (parts _ _ _ _).trans ?_
  rw [declared, front, back, tag, lines, typed]

theorem lexMarkup_declaration (k : List Char) :
    Token.lexMarkup (declaration ++ '>' :: k) = .ok (.prologue, declaration) := by
  have spelled : declaration = _ := String.toList_ofList
  rw [spelled]
  rfl

theorem lexMarkup_doctype (k : List Char) :
    Token.lexMarkup (doctype ++ '>' :: k) = .ok (.prologue, doctype) := by
  have front : "!DOCTYPE plist PUBLIC \"-//Apple Computer//DTD PLIST 1.0//EN\" ".toList = _ := String.toList_ofList
  have back : "\"http://www.apple.com/DTDs/PropertyList-1.0.dtd\"".toList = _ := String.toList_ofList
  have spelled : doctype = _ := String.toList_append.trans (congrArg₂ (· ++ ·) front back)
  rw [spelled]
  rfl

theorem lexMarkup_plistTag (k : List Char) :
    Token.lexMarkup (plistTag ++ '>' :: k) = .ok (.opening "plist".toList, plistTag) := by
  have spelled : plistTag = _ := String.toList_ofList
  rw [spelled]
  rfl

theorem isName_plist : IsName "plist".toList := isName_of_all (by decide) (by decide)

/-- A reader of structure passes over a construct of the prologue. -/
theorem nextPiece_prologue {content : List Char} (pos : Nat) (k : List Char)
    (found : Token.lexMarkup (content ++ '>' :: k) = .ok (.prologue, content)) :
    ∃ pos', nextPiece (scanFrom [] pos ('<' :: (content ++ '>' :: k))) = nextPiece (scanFrom [] pos' k) := by
  rw [scanFrom, Token.lexFrom_markup pos found, Token.stopAt, Token.nest, nextPiece]
  · exact ⟨_, rfl⟩
  all_goals simp

theorem scan_markup {text : String} {k : List Char} (starts : text.toList = '<' :: k) :
    Token.scan text = scanFrom [] 0 ('<' :: k) := by
  rw [Token.scan, Token.lex, starts]
  rfl

/-- Below the prologue the outermost element starts. -/
theorem nextPiece_heading (text : String) :
    ∃ pos, nextPiece (Token.scan (heading ++ text)) =
      .ok (.opening "plist", scanFrom ["plist".toList] pos text.toList) := by
  have lines (x d p k : List Char) :
      '<' :: (x ++ '>' :: '\n' :: '<' :: (d ++ '>' :: '\n' :: '<' :: (p ++ ['>']))) ++ k =
        '<' :: (x ++ '>' :: (indent 0 ++ '<' :: (d ++ '>' :: (indent 0 ++ '<' :: (p ++ '>' :: k))))) := by simp [indent]
  have parts : (heading ++ text).toList = '<' :: (declaration ++ '>' :: (indent 0 ++
      '<' :: (doctype ++ '>' :: (indent 0 ++ '<' :: (plistTag ++ '>' :: text.toList))))) := by
    rw [String.toList_append, toList_heading, lines]
  obtain ⟨_, declared⟩ := nextPiece_prologue 0 _ (lexMarkup_declaration _)
  obtain ⟨_, line, -⟩ := nextPiece_indent [] _ 0 _
  obtain ⟨_, typed⟩ := nextPiece_prologue _ _ (lexMarkup_doctype _)
  obtain ⟨mid, line', -⟩ := nextPiece_indent [] _ 0 _
  rw [scan_markup parts, declared, line, typed, line', scanFrom, Token.lexFrom_markup mid (lexMarkup_plistTag _),
    Token.stopAt, Token.nest, nextPiece, String.ofList_toList]
  · exact ⟨_, rfl⟩
  · simp

theorem readDocument_of {tokens inner behind left more : List Token} {entries : List (String × Value)}
    (opening : nextPiece tokens = .ok (.opening "plist", inner))
    (root : (entries = [] ∧ nextPiece inner = .ok (.empty "dict", behind)) ∨
      ∃ rest, nextPiece inner = .ok (.opening "dict", rest) ∧
        readEntries (2 * rest.length + 2) rest = .ok (entries, behind))
    (ended : readEnd "plist" behind = .ok left) (finished : nextPiece left = .ok (.finish, more)) :
    readDocument tokens = .ok entries := by
  rcases root with ⟨rfl, empty⟩ | ⟨rest, start, read⟩
  · simp [readDocument, opening, empty, ended, finished, bind, Except.bind, pure, Except.pure]
  · simp [readDocument, opening, start, read, ended, finished, bind, Except.bind, pure, Except.pure]

/-- Behind the value the outermost element ends, and so does the text. -/
theorem readEnd_footing (pos : Nat) :
    ∃ left, readEnd "plist" (scanFrom ["plist".toList] pos footing.toList) = .ok left ∧
      nextPiece left = .ok (.finish, []) := by
  have parts : footing.toList = indent 0 ++ '<' :: '/' :: ("plist".toList ++ '>' :: ['\n']) := by decide
  obtain ⟨mid, next, -⟩ := nextPiece_closing isName_plist [] pos 0 ['\n']
  obtain ⟨stop, last, scanned⟩ :=
    Token.scanFrom_text (k := []) [] mid (List.cons_ne_nil '\n' []) (by decide) (.inl rfl)
  rw [List.append_nil] at scanned
  rw [String.ofList_toList, scanned, Token.scanFrom_nil] at next
  rw [parts, readEnd, next]
  exact ⟨_, rfl, rfl⟩

/-- The entries that were printed are read. -/
theorem readText_print (entries : List (String × Value)) : readText (print entries) = .ok entries := by
  have text : print entries = heading ++ (printValue 1 (.dict entries) ++ footing) := by
    rw [print, String.append_assoc]
  obtain ⟨start, opening⟩ := nextPiece_heading (printValue 1 (.dict entries) ++ footing)
  rw [readText, text]
  cases entries with
  | nil =>
    have parts : (printValue 1 (.dict []) ++ footing).toList =
        indent 1 ++ '<' :: ("dict".toList ++ '/' :: '>' :: footing.toList) := by
      simp [printValue, toList_line]
    obtain ⟨pos, next, -⟩ := nextPiece_empty isName_dict ["plist".toList] start 1 footing.toList
    obtain ⟨left, ended, finished⟩ := readEnd_footing pos
    rw [String.ofList_toList] at next
    rw [parts] at opening
    exact readDocument_of opening (.inl ⟨rfl, next⟩) ended finished
  | cons entry entries =>
    have parts : (printValue 1 (.dict (entry :: entries)) ++ footing).toList = indent 1 ++
        '<' :: ("dict".toList ++ '>' ::
          ((printEntries 2 (entry :: entries)).toList ++ endLine 1 "dict" footing.toList)) := by
      simp [printValue, toList_line, endLine]
    obtain ⟨mid, next, -⟩ := nextPiece_opening isName_dict ["plist".toList] start 1
      ((printEntries 2 (entry :: entries)).toList ++ endLine 1 "dict" footing.toList)
    obtain ⟨pos, -, read⟩ := readsEntries_print (entry :: entries) ["plist".toList] mid 2 1 footing.toList
    obtain ⟨left, ended, finished⟩ := readEnd_footing pos
    rw [String.ofList_toList] at next
    rw [parts] at opening
    exact readDocument_of opening (.inr ⟨_, next, read _ (by omega)⟩) ended finished

end EditorBundles.PropertyList
