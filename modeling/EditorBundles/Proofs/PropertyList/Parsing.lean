import EditorBundles.Proofs.PropertyList.Grammar
import EditorBundles.Proofs.PropertyList.Holding

/-!
# Parsing accepts the grammar

Parsing accepts the texts whose tokens follow the grammar and no others, and the document holds the value
that the rules give (`Document.parse_eq_ok_iff`). Both directions follow the nesting of elements. A reader
that succeeds has read a phrase of the grammar (`sound`), by induction on its fuel. A phrase of the grammar
is read from wherever it stands (`Writes.isRead`), by induction on its derivation, with fuel for every
token of it.
-/

namespace EditorBundles.PropertyList
set_option autoImplicit false
open Xml (Token)

/-! ## Pieces -/

theorem Noise.nil : Noise [] := nofun

theorem Noise.cons {t : Token} {ts : List Token} (first : isNoise t) (others : Noise ts) : Noise (t :: ts) :=
  List.forall_mem_cons.2 ⟨first, others⟩

/-- The token of a piece; the end has none. -/
def Piece.tokens : Piece → List Token
  | .opening name => [.opening name.toList]
  | .empty name => [.empty name.toList]
  | .closing name => [.closing name.toList]
  | .finish => []

theorem nextPiece_noise {space : List Token} (noise : Noise space) (ts : List Token) :
    nextPiece (space ++ ts) = nextPiece ts := by
  induction space with
  | nil => rfl
  | cons t space ih =>
    obtain ⟨first, noise⟩ := List.forall_mem_cons.1 noise
    rw [← ih noise, List.cons_append]
    cases t with
    | comment => rfl
    | prologue => rfl
    | text raw stop => exact if_pos first
    | _ => cases first

/-- What comes before a piece is noise, and behind the end there is nothing. -/
theorem nextPiece_eq_ok_iff {tokens rest : List Token} {piece : Piece} :
    nextPiece tokens = .ok (piece, rest) ↔
      ∃ space, Noise space ∧ tokens = space ++ (piece.tokens ++ rest) ∧ (piece = .finish → rest = []) := by
  constructor
  · intro read
    induction tokens with
    | nil => cases read; exact ⟨[], .nil, rfl, fun _ => rfl⟩
    | cons t tokens ih =>
      have pass (noise : isNoise t) (read : nextPiece tokens = .ok (piece, rest)) :
          ∃ space, Noise space ∧ t :: tokens = space ++ (piece.tokens ++ rest) ∧ (piece = .finish → rest = []) := by
        obtain ⟨space, others, rfl, last⟩ := ih read
        exact ⟨t :: space, others.cons noise, rfl, last⟩
      cases t with
      | comment => exact pass rfl read
      | prologue => exact pass rfl read
      | text raw stop =>
        rw [nextPiece] at read
        split at read
        · next blank => exact pass blank read
        · cases read
      | opening name => cases read; exact ⟨[], .nil, by simp [Piece.tokens], Piece.noConfusion⟩
      | empty name => cases read; exact ⟨[], .nil, by simp [Piece.tokens], Piece.noConfusion⟩
      | closing name => cases read; exact ⟨[], .nil, by simp [Piece.tokens], Piece.noConfusion⟩
      | cdata => cases read
      | broken => cases read
  · rintro ⟨space, noise, rfl, last⟩
    rw [nextPiece_noise noise]
    cases piece with
    | finish => rw [last rfl]; rfl
    | _ => simp [Piece.tokens, nextPiece]

theorem readEnd_eq_ok_iff {tag : String} {tokens rest : List Token} :
    readEnd tag tokens = .ok rest ↔ ∃ space, Noise space ∧ tokens = space ++ .closing tag.toList :: rest := by
  constructor
  · intro read
    rw [readEnd] at read
    split at read
    · cases read
    · next piece left next =>
      split at read
      · next same =>
        cases read
        subst same
        obtain ⟨space, noise, parts, -⟩ := nextPiece_eq_ok_iff.1 next
        exact ⟨space, noise, parts⟩
      · cases read
  · rintro ⟨space, noise, rfl⟩
    simp [readEnd, nextPiece_noise noise, nextPiece]

/-- Content is read up to its end tag exactly where it stands for characters. -/
theorem readContent_eq_ok_iff {tag : String} {tokens rest : List Token} {cs : List Char} :
    readContent tag tokens = .ok (cs, rest) ↔
      ∃ ts, Characters ts cs ∧ tokens = ts ++ .closing tag.toList :: rest := by
  constructor
  · intro read
    induction tokens generalizing cs with
    | nil => cases read
    | cons t tokens ih =>
      cases t with
      | text raw stop =>
        rw [readContent] at read
        split at read
        · cases read
        · next chars meaning =>
          split at read
          · next more left behind =>
            cases read
            obtain ⟨ts, content, rfl⟩ := ih behind
            exact ⟨_, .text meaning content, rfl⟩
          · cases read
      | cdata chars stop =>
        rw [readContent] at read
        split at read
        · next more left behind =>
          cases read
          obtain ⟨ts, content, rfl⟩ := ih behind
          exact ⟨_, .cdata content, rfl⟩
        · cases read
      | comment =>
        obtain ⟨ts, content, rfl⟩ := ih read
        exact ⟨_, .comment content, rfl⟩
      | closing name =>
        rw [readContent] at read
        split at read
        · next same =>
          cases read
          subst same
          exact ⟨[], .nil, by simp⟩
        · cases read
      | _ => cases read
  · rintro ⟨ts, content, rfl⟩
    induction content with
    | nil => simp [readContent]
    | text meaning _ ih => simp [readContent, meaning, ih]
    | cdata _ ih => simp [readContent, ih]
    | comment _ ih => simpa [readContent] using ih

/-! ## What is read follows the grammar -/

section Steps

variable {fuel : Nat} {tokens left : List Token} {entries : List (String × Value)} {items : List Value}

/-- What starts with a piece is a value that goes on, unless the piece starts none. -/
theorem startingValue_inv {α : Type} {piece : Piece} {rest : List Token} {refuse : Piece → ReadFault}
    {next : Value × List Token → Except ReadFault α} {result : α}
    (read : (match piece with
      | .opening name => (readValue fuel name false rest).bind next
      | .empty name => (readValue fuel name true rest).bind next
      | piece => (Except.error (refuse piece)).bind next) = .ok result) :
    ∃ name empty v between, piece = (if empty then .empty name else .opening name) ∧
      readValue fuel name empty rest = .ok (v, between) ∧ next (v, between) = .ok result := by
  cases piece with
  | opening name =>
    obtain ⟨⟨v, between⟩, value, read⟩ := bind_eq_ok read
    exact ⟨name, false, v, between, rfl, value, read⟩
  | empty name =>
    obtain ⟨⟨v, between⟩, value, read⟩ := bind_eq_ok read
    exact ⟨name, true, v, between, rfl, value, read⟩
  | closing name => cases read
  | finish => cases read

theorem readItems_inv (read : readItems (fuel + 1) tokens = .ok (items, left)) :
    (items = [] ∧ nextPiece tokens = .ok (.closing "array", left)) ∨
      ∃ name empty rest v between others, items = v :: others ∧
        nextPiece tokens = .ok (if empty then .empty name else .opening name, rest) ∧
        readValue fuel name empty rest = .ok (v, between) ∧ readItems fuel between = .ok (others, left) := by
  rw [readItems] at read
  obtain ⟨⟨piece, rest⟩, next, read⟩ := bind_eq_ok read
  dsimp only at read
  split at read
  · next closed =>
    cases read
    exact .inl ⟨rfl, closed ▸ next⟩
  · obtain ⟨name, empty, v, between, rfl, value, read⟩ := startingValue_inv read
    obtain ⟨⟨others, left⟩, behind, read⟩ := bind_eq_ok read
    cases read
    exact .inr ⟨name, empty, rest, v, between, others, rfl, next, value, behind⟩

theorem readEntries_inv (read : readEntries (fuel + 1) tokens = .ok (entries, left)) :
    (entries = [] ∧ nextPiece tokens = .ok (.closing "dict", left)) ∨
      ∃ key mid name empty rest v between others, entries = (key, v) :: others ∧ ReadsKey tokens key mid ∧
        nextPiece mid = .ok (if empty then .empty name else .opening name, rest) ∧
        readValue fuel name empty rest = .ok (v, between) ∧ readEntries fuel between = .ok (others, left) := by
  rw [readEntries] at read
  obtain ⟨⟨piece, rest⟩, next, read⟩ := bind_eq_ok read
  dsimp only at read
  split at read
  · next closed =>
    cases read
    exact .inl ⟨rfl, closed ▸ next⟩
  · split at read
    · next opening =>
      subst opening
      obtain ⟨⟨key, mid⟩, content, read⟩ := bind_eq_ok read
      have first : ReadsKey tokens key mid := by
        obtain ⟨⟨cs, mid⟩, text, same⟩ := map_eq_ok content
        cases same
        exact .inr ⟨rest, next, by rw [String.toList_ofList]; exact text⟩
      obtain ⟨⟨piece, rest⟩, next', read⟩ := bind_eq_ok read
      obtain ⟨name, empty, v, between, rfl, value, read⟩ := startingValue_inv read
      obtain ⟨⟨others, left⟩, behind, read⟩ := bind_eq_ok read
      cases read
      exact .inr ⟨key, mid, name, empty, rest, v, between, others, rfl, first, next', value, behind⟩
    · split at read
      · next blank =>
        subst blank
        obtain ⟨⟨key, mid⟩, content, read⟩ := bind_eq_ok read
        cases content
        obtain ⟨⟨piece, rest'⟩, next', read⟩ := bind_eq_ok read
        obtain ⟨name, empty, v, between, rfl, value, read⟩ := startingValue_inv read
        obtain ⟨⟨others, left⟩, behind, read⟩ := bind_eq_ok read
        cases read
        exact .inr ⟨"", rest, name, empty, rest', v, between, others, rfl, .inl ⟨rfl, next⟩, next', value, behind⟩
      · cases read

theorem readDocument_inv (read : readDocument tokens = .ok entries) :
    ∃ inner behind left more, nextPiece tokens = .ok (.opening "plist", inner) ∧
      ((entries = [] ∧ nextPiece inner = .ok (.empty "dict", behind)) ∨
        ∃ fuel rest, nextPiece inner = .ok (.opening "dict", rest) ∧
          readEntries fuel rest = .ok (entries, behind)) ∧
      readEnd "plist" behind = .ok left ∧ nextPiece left = .ok (.finish, more) := by
  rw [readDocument] at read
  obtain ⟨⟨piece, inner⟩, next, read⟩ := bind_eq_ok read
  dsimp only at read
  split at read
  · cases read
  · next opening =>
    obtain rfl := not_not.1 opening
    obtain ⟨⟨piece, rest⟩, next', read⟩ := bind_eq_ok read
    obtain ⟨found, behind, root, read⟩ : ∃ found behind,
        ((found = [] ∧ nextPiece inner = .ok (.empty "dict", behind)) ∨
          ∃ fuel rest, nextPiece inner = .ok (.opening "dict", rest) ∧ readEntries fuel rest = .ok (found, behind)) ∧
        (do
          let rest ← readEnd "plist" behind
          let last ← nextPiece rest
          if last.1 ≠ Piece.finish then throw (ReadFault.trailing last.1)
          return found) = .ok entries := by
      split at read
      · next dict =>
        obtain ⟨⟨found, behind⟩, members, read⟩ := bind_eq_ok read
        exact ⟨found, behind, .inr ⟨_, rest, dict ▸ next', members⟩, read⟩
      · split at read
        · next dict =>
          obtain ⟨⟨found, behind⟩, members, read⟩ := bind_eq_ok read
          cases members
          exact ⟨[], rest, .inl ⟨rfl, dict ▸ next'⟩, read⟩
        · cases read
    obtain ⟨left, ended, read⟩ := bind_eq_ok read
    obtain ⟨⟨piece, more⟩, last, read⟩ := bind_eq_ok read
    dsimp only at read
    split at read
    · cases read
    · next finish =>
      obtain rfl := not_not.1 finish
      cases read
      exact ⟨inner, behind, left, more, next, root, ended, last⟩

end Steps

/-- The token that starts an element and the tokens behind it write a value, and others are left. -/
def Completes (name : String) (empty : Bool) (tokens : List Token) (v : Value) (left : List Token) : Prop :=
  ∃ ts, Writes ((if empty then Piece.empty name else .opening name).tokens ++ ts) (.value v.merged) ∧
    tokens = ts ++ left

/-- What a reader with some fuel has read follows the grammar. -/
structure Sound (fuel : Nat) : Prop where
  value : ∀ {name : String} {empty : Bool} {tokens left : List Token} {v : Value},
    readValue fuel name empty tokens = .ok (v, left) → Completes name empty tokens v left
  members : ∀ {tokens left : List Token} {entries : List (String × Value)},
    readEntries fuel tokens = .ok (entries, left) →
      ∃ ts, Writes ts (.members (mergedEntries entries)) ∧ tokens = ts ++ .closing "dict".toList :: left
  items : ∀ {tokens left : List Token} {items : List Value}, readItems fuel tokens = .ok (items, left) →
    ∃ ts, Writes ts (.items (Value.mergedItems items)) ∧ tokens = ts ++ .closing "array".toList :: left

theorem textElement_of_readsKey {tokens mid : List Token} {key : String} (read : ReadsKey tokens key mid) :
    ∃ space, Noise space ∧ ∃ ts, TextElement "key" ts key ∧ tokens = space ++ ts ++ mid := by
  rcases read with ⟨rfl, next⟩ | ⟨inner, next, content⟩
  · obtain ⟨space, noise, rfl, -⟩ := nextPiece_eq_ok_iff.1 next
    exact ⟨space, noise, _, .empty, by simp [Piece.tokens]⟩
  · obtain ⟨space, noise, rfl, -⟩ := nextPiece_eq_ok_iff.1 next
    obtain ⟨ts, characters, rfl⟩ := readContent_eq_ok_iff.1 content
    have named : TextElement "key" (element "key" ts) (String.ofList key.toList) := .filled characters
    rw [String.ofList_toList] at named
    exact ⟨space, noise, _, named, by simp [Piece.tokens, element]⟩

section Values

variable {fuel : Nat} {empty : Bool} {name : String} {tokens left : List Token} {v : Value}

theorem value_string (read : readValue (fuel + 1) "string" empty tokens = .ok (v, left)) :
    Completes "string" empty tokens v left := by
  rw [readValue, if_pos rfl] at read
  cases empty with
  | true => cases read; exact ⟨[], .string .empty, rfl⟩
  | false =>
    rw [if_neg Bool.false_ne_true] at read
    split at read
    · next content =>
      cases read
      obtain ⟨ts, characters, rfl⟩ := readContent_eq_ok_iff.1 content
      exact ⟨ts ++ [.closing "string".toList], .string (.filled characters), by simp⟩
    · cases read

theorem value_integer (read : readValue (fuel + 1) "integer" empty tokens = .ok (v, left)) :
    Completes "integer" empty tokens v left := by
  rw [readValue, if_neg (by decide), if_pos rfl] at read
  cases empty with
  | true => cases read
  | false =>
    rw [if_neg Bool.false_ne_true] at read
    split at read
    · cases read
    · next content =>
      split at read
      · next number =>
        cases read
        obtain ⟨ts, characters, rfl⟩ := readContent_eq_ok_iff.1 content
        obtain ⟨front, digits, behind, rfl, blank, numeral⟩ := int64?_trim_eq_some_iff.1 number
        exact ⟨ts ++ [.closing "integer".toList], .integer characters blank numeral, by simp⟩
      · cases read

theorem value_bool (truth : name = "true" ∨ name = "false")
    (read : readValue (fuel + 1) name empty tokens = .ok (v, left)) :
    Completes name empty tokens v left := by
  have tag : boolTag (name = "true") = name := by rcases truth with rfl | rfl <;> rfl
  have other : name ≠ "string" ∧ name ≠ "integer" := by rcases truth with rfl | rfl <;> decide
  rw [readValue, if_neg other.1, if_neg other.2, if_pos truth] at read
  cases empty with
  | true =>
    cases read
    have element := Writes.emptyBool (name = "true")
    rw [tag] at element
    exact ⟨[], element, rfl⟩
  | false =>
    rw [if_neg Bool.false_ne_true] at read
    split at read
    · next ended =>
      cases read
      obtain ⟨space, noise, rfl⟩ := readEnd_eq_ok_iff.1 ended
      have element := Writes.bool (name = "true") noise
      rw [tag] at element
      exact ⟨space ++ [.closing name.toList], element, by simp⟩
    · cases read

end Values

namespace Sound

variable {fuel : Nat} (h : Sound fuel)
include h

theorem value_dict {empty : Bool} {tokens left : List Token} {v : Value}
    (read : readValue (fuel + 1) "dict" empty tokens = .ok (v, left)) :
    Completes "dict" empty tokens v left := by
  rw [readValue, if_neg (by decide), if_neg (by decide), if_neg (by decide), if_pos rfl] at read
  cases empty with
  | true => cases read; exact ⟨[], .emptyDict, rfl⟩
  | false =>
    rw [if_neg Bool.false_ne_true] at read
    split at read
    · next entries _ below =>
      cases read
      obtain ⟨ts, members, rfl⟩ := h.members below
      exact ⟨ts ++ [.closing "dict".toList], .dict members (gathers_iff_withEntries.2 rfl), by simp⟩
    · cases read

theorem value_array {empty : Bool} {tokens left : List Token} {v : Value}
    (read : readValue (fuel + 1) "array" empty tokens = .ok (v, left)) :
    Completes "array" empty tokens v left := by
  rw [readValue, if_neg (by decide), if_neg (by decide), if_neg (by decide), if_neg (by decide), if_pos rfl] at read
  cases empty with
  | true => cases read; exact ⟨[], .emptyArray, rfl⟩
  | false =>
    rw [if_neg Bool.false_ne_true] at read
    split at read
    · next below =>
      cases read
      obtain ⟨ts, items, rfl⟩ := h.items below
      exact ⟨ts ++ [.closing "array".toList], .array items, by simp⟩
    · cases read

theorem value_step {name : String} {empty : Bool} {tokens left : List Token} {v : Value}
    (read : readValue (fuel + 1) name empty tokens = .ok (v, left)) :
    Completes name empty tokens v left := by
  by_cases string : name = "string"
  · subst string
    exact value_string read
  by_cases integer : name = "integer"
  · subst integer
    exact value_integer read
  by_cases truth : name = "true" ∨ name = "false"
  · exact value_bool truth read
  by_cases dict : name = "dict"
  · subst dict
    exact h.value_dict read
  by_cases array : name = "array"
  · subst array
    exact h.value_array read
  · simp [readValue, string, integer, truth, dict, array] at read

theorem members_step {tokens left : List Token} {entries : List (String × Value)}
    (read : readEntries (fuel + 1) tokens = .ok (entries, left)) :
    ∃ ts, Writes ts (.members (mergedEntries entries)) ∧ tokens = ts ++ .closing "dict".toList :: left := by
  rcases readEntries_inv read with
    ⟨rfl, next⟩ | ⟨key, mid, name, empty, rest, v, between, others, rfl, first, next, value, behind⟩
  · obtain ⟨space, noise, rfl, -⟩ := nextPiece_eq_ok_iff.1 next
    exact ⟨space, .noMember noise, rfl⟩
  · obtain ⟨front, noise, keyTokens, named, rfl⟩ := textElement_of_readsKey first
    obtain ⟨space, noise', rfl, -⟩ := nextPiece_eq_ok_iff.1 next
    obtain ⟨ts, element, rfl⟩ := h.value value
    obtain ⟨others, follow, rfl⟩ := h.members behind
    exact ⟨_, .member noise named noise' element follow, by simp⟩

theorem items_step {tokens left : List Token} {items : List Value}
    (read : readItems (fuel + 1) tokens = .ok (items, left)) :
    ∃ ts, Writes ts (.items (Value.mergedItems items)) ∧ tokens = ts ++ .closing "array".toList :: left := by
  rcases readItems_inv read with ⟨rfl, next⟩ | ⟨name, empty, rest, v, between, others, rfl, next, value, behind⟩
  · obtain ⟨space, noise, rfl, -⟩ := nextPiece_eq_ok_iff.1 next
    exact ⟨space, .noItem noise, rfl⟩
  · obtain ⟨space, noise, rfl, -⟩ := nextPiece_eq_ok_iff.1 next
    obtain ⟨ts, element, rfl⟩ := h.value value
    obtain ⟨others, follow, rfl⟩ := h.items behind
    exact ⟨_, .item noise element follow, by simp⟩

end Sound

theorem sound (fuel : Nat) : Sound fuel := by
  induction fuel with
  | zero => exact ⟨nofun, nofun, nofun⟩
  | succ fuel ih => exact ⟨ih.value_step, ih.members_step, ih.items_step⟩

/-- What is read as a document follows the grammar. -/
theorem writesDocument_of_readDocument {tokens : List Token} {entries : List (String × Value)}
    (read : readDocument tokens = .ok entries) : WritesDocument tokens (Value.withEntries [] entries) := by
  obtain ⟨inner, behind, left, more, opening, root, ended, finished⟩ := readDocument_inv read
  obtain ⟨before, noise, rfl, -⟩ := nextPiece_eq_ok_iff.1 opening
  obtain ⟨between, apart, rfl⟩ := readEnd_eq_ok_iff.1 ended
  obtain ⟨after, silent, rfl, last⟩ := nextPiece_eq_ok_iff.1 finished
  obtain rfl := last rfl
  obtain ⟨space, blank, dict, value, rfl⟩ : ∃ space, Noise space ∧
      ∃ dict, Writes dict (.value (.dict (Value.withEntries [] entries))) ∧
        inner = space ++ dict ++ (between ++ .closing "plist".toList :: (after ++ [])) := by
    rcases root with ⟨rfl, empty⟩ | ⟨fuel, rest, start, members⟩
    · obtain ⟨space, blank, rfl, -⟩ := nextPiece_eq_ok_iff.1 empty
      exact ⟨space, blank, _, .emptyDict, by simp [Piece.tokens]⟩
    · obtain ⟨space, blank, rfl, -⟩ := nextPiece_eq_ok_iff.1 start
      obtain ⟨ts, follow, rfl⟩ := (sound fuel).members members
      exact ⟨space, blank, _, .dict follow (gathers_iff_withEntries.2 rfl), by simp [Piece.tokens, element]⟩
  have whole := WritesDocument.root noise blank value apart silent
  simpa [Piece.tokens, element] using whole

/-! ## What follows the grammar is read -/

/-- With fuel for its tokens, a phrase is read from wherever it stands, up to the merging of keys. -/
def IsRead (ts : List Token) : Phrase → Prop
  | .value v => ∃ name empty inner raw, raw.merged = v ∧
      ts = (if empty then Piece.empty name else .opening name).tokens ++ inner ∧
      ∀ fuel left, ts.length ≤ fuel → readValue fuel name empty (inner ++ left) = .ok (raw, left)
  | .members entries => ∃ raw, mergedEntries raw = entries ∧
      ∀ fuel left, ts.length < fuel → readEntries fuel (ts ++ .closing "dict".toList :: left) = .ok (raw, left)
  | .items vs => ∃ raw, Value.mergedItems raw = vs ∧
      ∀ fuel left, ts.length < fuel → readItems fuel (ts ++ .closing "array".toList :: left) = .ok (raw, left)

theorem readsKey_of_textElement {space ts mid : List Token} {key : String} (noise : Noise space)
    (named : TextElement "key" ts key) : ReadsKey (space ++ ts ++ mid) key mid := by
  cases named with
  | empty => exact .inl ⟨rfl, nextPiece_eq_ok_iff.2 ⟨space, noise, by simp [Piece.tokens], Piece.noConfusion⟩⟩
  | @filled ts cs characters =>
    refine .inr ⟨ts ++ .closing "key".toList :: mid, ?_, ?_⟩
    · exact nextPiece_eq_ok_iff.2 ⟨space, noise, by simp [Piece.tokens, element], nofun⟩
    · exact readContent_eq_ok_iff.2 ⟨ts, by simpa using characters, rfl⟩

theorem TextElement.length_pos {tag : String} {ts : List Token} {s : String} (h : TextElement tag ts s) :
    0 < ts.length := by
  cases h <;> simp [element]

theorem length_start (empty : Bool) (name : String) :
    (if empty then Piece.empty name else .opening name).tokens.length = 1 := by
  cases empty <;> rfl

/-- Behind noise the reader meets the token that starts a value. -/
theorem nextPiece_start {space : List Token} (noise : Noise space) (empty : Bool) (name : String) (ts : List Token) :
    nextPiece (space ++ ((if empty then Piece.empty name else .opening name).tokens ++ ts)) =
      .ok (if empty then .empty name else .opening name, ts) := by
  refine nextPiece_eq_ok_iff.2 ⟨space, noise, rfl, ?_⟩
  cases empty <;> exact nofun

theorem isRead_empty {name : String} {v : Value} (raw : Value) (merged : raw.merged = v)
    (read : ∀ fuel tokens, readValue (fuel + 1) name true tokens = .ok (raw, tokens)) :
    IsRead [.empty name.toList] (.value v) := by
  refine ⟨name, true, [], raw, merged, rfl, fun fuel left enough => ?_⟩
  obtain ⟨fuel, rfl⟩ := Nat.exists_eq_add_one_of_ne_zero (Nat.ne_zero_of_lt enough)
  exact read fuel left

theorem isRead_element {name : String} {ts : List Token} {v : Value} (raw : Value) (merged : raw.merged = v)
    (read : ∀ fuel left, ts.length < fuel →
      readValue (fuel + 1) name false (ts ++ .closing name.toList :: left) = .ok (raw, left)) :
    IsRead (element name ts) (.value v) := by
  refine ⟨name, false, ts ++ [.closing name.toList], raw, merged, rfl, fun fuel left enough => ?_⟩
  obtain ⟨fuel, rfl⟩ := Nat.exists_eq_add_one_of_ne_zero (Nat.ne_zero_of_lt enough)
  have enough : ts.length < fuel := by simp [element] at enough; omega
  simpa using read fuel left enough

theorem isRead_string {ts : List Token} {s : String} (text : TextElement "string" ts s) :
    IsRead ts (.value (.string s)) := by
  cases text with
  | empty => exact isRead_empty (.string "") rfl fun _ _ => rfl
  | @filled ts cs characters =>
    refine isRead_element (.string (String.ofList cs)) rfl fun fuel left _ => ?_
    have content : readContent "string" (ts ++ .closing "string".toList :: left) = .ok (cs, left) :=
      readContent_eq_ok_iff.2 ⟨ts, characters, rfl⟩
    rw [readValue, if_pos rfl, if_neg Bool.false_ne_true, content]

theorem isRead_integer {ts : List Token} {cs : List Char} {n : Int64} (characters : Characters ts cs)
    (number : int64? (Text.trim cs) = some n) : IsRead (element "integer" ts) (.value (.integer n)) := by
  refine isRead_element (.integer n) rfl fun fuel left _ => ?_
  have content : readContent "integer" (ts ++ .closing "integer".toList :: left) = .ok (cs, left) :=
    readContent_eq_ok_iff.2 ⟨ts, characters, rfl⟩
  rw [readValue, if_neg (by decide), if_pos rfl, if_neg Bool.false_ne_true]
  simp only [content, number]

theorem isRead_bool (b : Bool) {space : List Token} (noise : Noise space) :
    IsRead (element (boolTag b) space) (.value (.bool b)) := by
  refine isRead_element (.bool b) rfl fun fuel left _ => ?_
  have ended : readEnd (boolTag b) (space ++ .closing (boolTag b).toList :: left) = .ok left :=
    readEnd_eq_ok_iff.2 ⟨space, noise, rfl⟩
  cases b <;> simp_all [readValue, boolTag]

/-- By induction on the derivation: an element needs one step of the reader more than what is in it, and
its tags are two tokens. -/
theorem Writes.isRead {ts : List Token} {phrase : Phrase} (h : Writes ts phrase) : IsRead ts phrase := by
  induction h with
  | string text => exact isRead_string text
  | integer characters blank number =>
    exact isRead_integer characters (int64?_trim_eq_some_iff.2 ⟨_, _, _, rfl, blank, number⟩)
  | emptyBool b => exact isRead_empty (.bool b) rfl fun fuel tokens => by cases b <;> simp [readValue, boolTag]
  | bool b noise => exact isRead_bool b noise
  | emptyDict => exact isRead_empty (.dict []) rfl fun _ _ => rfl
  | dict _ gathers ih =>
    obtain ⟨raw, rfl, read⟩ := ih
    refine isRead_element (.dict raw) ?_ fun fuel left enough => readValue_dict (read fuel left enough)
    rw [Value.merged, gathers_iff_withEntries.1 gathers]
  | emptyArray => exact isRead_empty (.array []) rfl fun _ _ => rfl
  | array _ ih =>
    obtain ⟨raw, rfl, read⟩ := ih
    exact isRead_element (.array raw) rfl fun fuel left enough => readValue_array (read fuel left enough)
  | noMember noise =>
    refine ⟨[], rfl, fun fuel left enough => ?_⟩
    obtain ⟨fuel, rfl⟩ := Nat.exists_eq_add_one_of_ne_zero (Nat.ne_zero_of_lt enough)
    exact readEntries_end (nextPiece_eq_ok_iff.2 ⟨_, noise, rfl, Piece.noConfusion⟩)
  | @member space key between value ts k v entries noise named apart _ _ first others =>
    obtain ⟨tag, empty, inner, raw, rfl, rfl, read⟩ := first
    obtain ⟨raws, rfl, behind⟩ := others
    refine ⟨(k, raw) :: raws, rfl, fun fuel left enough => ?_⟩
    obtain ⟨fuel, rfl⟩ := Nat.exists_eq_add_one_of_ne_zero (Nat.ne_zero_of_lt enough)
    have some := named.length_pos
    simp only [List.length_append] at enough read
    have whole := readEntries_element (readsKey_of_textElement noise named) (nextPiece_start apart empty tag _)
      (read fuel (ts ++ .closing "dict".toList :: left) (by omega)) (behind fuel left (by omega))
    simpa using whole
  | noItem noise =>
    refine ⟨[], rfl, fun fuel left enough => ?_⟩
    obtain ⟨fuel, rfl⟩ := Nat.exists_eq_add_one_of_ne_zero (Nat.ne_zero_of_lt enough)
    exact readItems_end (nextPiece_eq_ok_iff.2 ⟨_, noise, rfl, Piece.noConfusion⟩)
  | @item space value ts v vs noise _ _ first others =>
    obtain ⟨tag, empty, inner, raw, rfl, rfl, read⟩ := first
    obtain ⟨raws, rfl, behind⟩ := others
    refine ⟨raw :: raws, rfl, fun fuel left enough => ?_⟩
    obtain ⟨fuel, rfl⟩ := Nat.exists_eq_add_one_of_ne_zero (Nat.ne_zero_of_lt enough)
    have some := length_start empty tag
    simp only [List.length_append] at enough read
    have whole := readItems_element (nextPiece_start noise empty tag _)
      (read fuel (ts ++ .closing "array".toList :: left) (by omega)) (behind fuel left (by omega))
    simpa using whole

/-- What follows the grammar is read as a document. -/
theorem readDocument_of_writesDocument {tokens : List Token} {map : List (String × Value)}
    (h : WritesDocument tokens map) : ∃ raw, readDocument tokens = .ok raw ∧ Value.withEntries [] raw = map := by
  obtain @⟨before, space, dict, between, after, map, noise, blank, value, apart, silent⟩ := h
  have opening : nextPiece (before ++ element "plist" (space ++ dict ++ between) ++ after) =
      .ok (.opening "plist", space ++ (dict ++ (between ++ .closing "plist".toList :: after))) :=
    nextPiece_eq_ok_iff.2 ⟨before, noise, by simp [Piece.tokens, element], nofun⟩
  have ended : readEnd "plist" (between ++ .closing "plist".toList :: after) = .ok after :=
    readEnd_eq_ok_iff.2 ⟨between, apart, rfl⟩
  have finished : nextPiece after = .ok (.finish, []) :=
    nextPiece_eq_ok_iff.2 ⟨after, silent, by simp [Piece.tokens], fun _ => rfl⟩
  cases value with
  | emptyDict =>
    have empty := nextPiece_start blank true "dict" (between ++ .closing "plist".toList :: after)
    exact ⟨[], readDocument_of opening (.inl ⟨rfl, empty⟩) ended finished, rfl⟩
  | @dict ts entries map members gathers =>
    obtain ⟨raw, rfl, read⟩ := members.isRead
    have start := nextPiece_start blank false "dict"
      (ts ++ .closing "dict".toList :: (between ++ .closing "plist".toList :: after))
    have same : element "dict" ts ++ (between ++ .closing "plist".toList :: after) =
        (Piece.opening "dict").tokens ++
          (ts ++ .closing "dict".toList :: (between ++ .closing "plist".toList :: after)) := by
      simp [element, Piece.tokens]
    rw [same] at opening
    refine ⟨raw, readDocument_of opening (.inr ⟨_, start, read _ _ ?_⟩) ended finished, ?_⟩
    · simp only [List.length_append]
      omega
    · exact (gathers_iff_withEntries.1 gathers).symm

/-! ## Documents -/

section Intact

variable {fault : Xml.Fault} {ts : List Token}

theorem Noise.intact (h : Noise ts) : .broken fault ∉ ts := fun member => nomatch h _ member

theorem Characters.intact {cs : List Char} (h : Characters ts cs) : .broken fault ∉ ts := by
  induction h with
  | nil => exact List.not_mem_nil
  | text _ _ ih => simpa using ih
  | cdata _ ih => simpa using ih
  | comment _ ih => simpa using ih

theorem intact_element {tag : String} (h : .broken fault ∉ ts) : .broken fault ∉ element tag ts := by
  simpa [element] using h

theorem TextElement.intact {tag s : String} (h : TextElement tag ts s) : .broken fault ∉ ts := by
  cases h with
  | empty => simp
  | filled characters => exact intact_element characters.intact

theorem Writes.intact {phrase : Phrase} (h : Writes ts phrase) : .broken fault ∉ ts := by
  induction h with
  | string text => exact text.intact
  | integer characters => exact intact_element characters.intact
  | emptyBool b => simp
  | bool b noise => exact intact_element noise.intact
  | emptyDict => simp
  | dict _ _ ih => exact intact_element ih
  | emptyArray => simp
  | array _ ih => exact intact_element ih
  | noMember noise => exact noise.intact
  | member noise named apart _ _ first others =>
    simp [noise.intact, named.intact, apart.intact, first, others]
  | noItem noise => exact noise.intact
  | item noise _ _ first others => simp [noise.intact, first, others]

/-- Tokens of the grammar hold no fault. -/
theorem WritesDocument.intact {map : List (String × Value)} (h : WritesDocument ts map) : .broken fault ∉ ts := by
  obtain @⟨before, space, dict, between, after, map, noise, blank, value, apart, silent⟩ := h
  have inner : .broken fault ∉ space ++ dict ++ between := by simp [blank.intact, value.intact, apart.intact]
  have around : .broken fault ∉ element "plist" (space ++ dict ++ between) := intact_element inner
  simp only [List.mem_append, noise.intact, around, silent.intact, or_self, not_false_eq_true]

end Intact

namespace Document

/-- Octets parse to a document with the given root exactly if they are UTF-8 text whose tokens hold no
fault and write that root. -/
theorem parse_eq_ok_iff (octets : ByteArray) (entries : List (String × Value)) :
    (∃ d, parse octets = .ok d ∧ d.root = entries) ↔
      ∃ text, text.toUTF8 = octets ∧ (∀ fault, .broken fault ∉ Token.scan text) ∧
        WritesDocument (Token.scan text) entries := by
  constructor
  · rintro ⟨d, parsed, rfl⟩
    obtain ⟨raw, read, rfl⟩ := map_eq_ok parsed
    rw [PropertyList.read] at read
    split at read
    · next text decoded =>
      have writes := writesDocument_of_readDocument read
      rw [(wellFormed_ofEntries raw).2]
      exact ⟨text, Text.Utf8.decode_eq_ok_iff.1 decoded, fun _ => writes.intact, writes⟩
    · cases read
  · rintro ⟨text, rfl, -, writes⟩
    obtain ⟨raw, read, rfl⟩ := readDocument_of_writesDocument writes
    refine ⟨ofEntries raw, ?_, (wellFormed_ofEntries raw).2⟩
    rw [parse, PropertyList.read, Text.Utf8.decode_toUTF8]
    exact congrArg (Except.map ofEntries) read

end Document

end EditorBundles.PropertyList
