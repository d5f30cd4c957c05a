import EditorBundles.Proofs.PropertyList.Invariant
import EditorBundles.Proofs.PropertyList.Printed

/-!
# The grammar of property lists

Which tokens write a property list, and which value they write, is said here by rules that know nothing
of a reader: elements around elements, noise between them, and characters in the innermost. Numbers and
repeated keys are compared here with what the reader makes of them.
-/

namespace EditorBundles.PropertyList
set_option autoImplicit false
open Xml (Token)

/-! ## Rules -/

/-- Does a token count for nothing between elements? -/
def isNoise : Token → Bool
  | .comment => true
  | .prologue => true
  | .text raw _ => raw.all Text.isAsciiBlank
  | _ => false

/-- Tokens that count for nothing between elements. -/
def Noise (ts : List Token) : Prop := ∀ t ∈ ts, isNoise t

/-- The tokens stand for characters: text for what its entities mean, character data for itself, comments
for nothing. -/
inductive Characters : List Token → List Char → Prop where
  | nil : Characters [] []
  | text {raw chars : List Char} {stop : Nat} {ts : List Token} {more : List Char}
      (meaning : Xml.Entity.unescape raw = .ok chars) (behind : Characters ts more) :
      Characters (.text raw stop :: ts) (chars ++ more)
  | cdata {chars : List Char} {stop : Nat} {ts : List Token} {more : List Char} (behind : Characters ts more) :
      Characters (.cdata chars stop :: ts) (chars ++ more)
  | comment {ts : List Token} {cs : List Char} (behind : Characters ts cs) : Characters (.comment :: ts) cs

/-- An element around tokens. -/
def element (tag : String) (ts : List Token) : List Token :=
  .opening tag.toList :: (ts ++ [.closing tag.toList])

/-- The tokens are an element with nothing but characters in it. -/
inductive TextElement (tag : String) : List Token → String → Prop where
  | empty : TextElement tag [.empty tag.toList] ""
  | filled {ts : List Token} {cs : List Char} (content : Characters ts cs) :
      TextElement tag (element tag ts) (String.ofList cs)

/-- The characters are decimal digits with or without a sign, and the number is theirs. -/
inductive Numeral : List Char → Int → Prop where
  | plain {digits : List Char} (nonempty : digits ≠ []) (decimal : ∀ c ∈ digits, c.isDigit) :
      Numeral digits (Nat.ofDigitChars 10 digits 0)
  | plus {digits : List Char} (nonempty : digits ≠ []) (decimal : ∀ c ∈ digits, c.isDigit) :
      Numeral ('+' :: digits) (Nat.ofDigitChars 10 digits 0)
  | minus {digits : List Char} (nonempty : digits ≠ []) (decimal : ∀ c ∈ digits, c.isDigit) :
      Numeral ('-' :: digits) (-(Nat.ofDigitChars 10 digits 0 : Nat))

/-- A map holds each key of some entries once, where it comes first, with the value that it has last. -/
structure Gathers (entries map : List (String × Value)) : Prop where
  keys : Entries.keys map = (Entries.keys entries).eraseDups
  values : ∀ key, Entries.get? map key = Entries.get? entries.reverse key

/-- The name of the element that a truth value is. -/
def boolTag (b : Bool) : String := if b then "true" else "false"

/-- What tokens can write: a value, the entries of a dictionary or the items of an array. -/
inductive Phrase where
  | value (v : Value)
  | members (entries : List (String × Value))
  | items (vs : List Value)

/-- The tokens write a phrase. -/
inductive Writes : List Token → Phrase → Prop where
  | string {ts : List Token} {s : String} (text : TextElement "string" ts s) : Writes ts (.value (.string s))
  | integer {ts : List Token} {front digits behind : List Char} {n : Int64}
      (content : Characters ts (front ++ digits ++ behind)) (blank : ∀ c ∈ front ++ behind, Text.isBlank c)
      (number : Numeral digits n.toInt) : Writes (element "integer" ts) (.value (.integer n))
  | emptyBool (b : Bool) : Writes [.empty (boolTag b).toList] (.value (.bool b))
  | bool (b : Bool) {space : List Token} (noise : Noise space) :
      Writes (element (boolTag b) space) (.value (.bool b))
  | emptyDict : Writes [.empty "dict".toList] (.value (.dict []))
  | dict {ts : List Token} {entries map : List (String × Value)} (members : Writes ts (.members entries))
      (gathers : Gathers entries map) : Writes (element "dict" ts) (.value (.dict map))
  | emptyArray : Writes [.empty "array".toList] (.value (.array []))
  | array {ts : List Token} {vs : List Value} (items : Writes ts (.items vs)) :
      Writes (element "array" ts) (.value (.array vs))
  | noMember {space : List Token} (noise : Noise space) : Writes space (.members [])
  | member {space key between value ts : List Token} {k : String} {v : Value} {entries : List (String × Value)}
      (noise : Noise space) (named : TextElement "key" key k) (apart : Noise between)
      (meaning : Writes value (.value v)) (others : Writes ts (.members entries)) :
      Writes (space ++ key ++ between ++ value ++ ts) (.members ((k, v) :: entries))
  | noItem {space : List Token} (noise : Noise space) : Writes space (.items [])
  | item {space value ts : List Token} {v : Value} {vs : List Value} (noise : Noise space)
      (meaning : Writes value (.value v)) (others : Writes ts (.items vs)) :
      Writes (space ++ value ++ ts) (.items (v :: vs))

/-- The tokens write a whole document: a `plist` element around one dictionary and nothing more. -/
inductive WritesDocument : List Token → List (String × Value) → Prop where
  | root {before space dict between behind : List Token} {map : List (String × Value)} (noise : Noise before)
      (blank : Noise space) (value : Writes dict (.value (.dict map))) (apart : Noise between)
      (silent : Noise behind) :
      WritesDocument (before ++ element "plist" (space ++ dict ++ between) ++ behind) map

/-! ## Numbers -/

theorem decimal?_eq_some_iff {digits : List Char} {m : Nat} :
    decimal? digits = some m ↔
      digits ≠ [] ∧ (∀ c ∈ digits, c.isDigit) ∧ Nat.ofDigitChars 10 digits 0 = m := by
  rw [decimal?, Nat.ofDigitChars_eq_foldl]
  simp only [List.all_eq_true, Nat.mul_comm 10]
  split
  · next decimal => exact ⟨fun same => ⟨decimal.1, decimal.2, Option.some.inj same⟩, fun h => congrArg some h.2.2⟩
  · next other => exact ⟨fun read => (by cases read), fun h => absurd ⟨h.1, h.2.1⟩ other⟩

theorem int64OfInt?_eq_some_iff {i : Int} {n : Int64} : int64OfInt? i = some n ↔ n.toInt = i := by
  refine ⟨fun read => ?_, fun same => same ▸ int64OfInt?_toInt n⟩
  rw [int64OfInt?] at read
  split at read
  · next range =>
    obtain rfl := Option.some.inj read
    exact Int64.toInt_ofInt_of_le range.1 range.2
  · cases read

/-- A number is read exactly where one stands that 64 bits hold. -/
theorem int64?_eq_some_iff {cs : List Char} {n : Int64} : int64? cs = some n ↔ Numeral cs n.toInt := by
  constructor
  · intro read
    obtain ⟨i, signed, small⟩ := Option.bind_eq_some_iff.1 read
    rw [int64OfInt?_eq_some_iff.1 small]
    split at signed <;> obtain ⟨_, read, rfl⟩ := Option.map_eq_some_iff.1 signed <;>
      obtain ⟨m, number, same⟩ := Option.bind_eq_some_iff.1 read <;> cases same <;>
      obtain ⟨nonempty, decimal, rfl⟩ := decimal?_eq_some_iff.1 number
    · exact .minus nonempty decimal
    · exact .plus nonempty decimal
    · exact .plain nonempty decimal
  · generalize value : n.toInt = i
    intro numeral
    have small : int64OfInt? i = some n := int64OfInt?_eq_some_iff.2 value
    cases numeral with
    | plain nonempty decimal =>
      have number := decimal?_eq_some_iff.2 ⟨nonempty, decimal, rfl⟩
      unfold int64?
      split
      · exact absurd (decimal _ List.mem_cons_self) (by decide)
      · exact absurd (decimal _ List.mem_cons_self) (by decide)
      · simpa -implicitDefEqProofs [number] using small
    | plus nonempty decimal =>
      have number := decimal?_eq_some_iff.2 ⟨nonempty, decimal, rfl⟩
      simpa -implicitDefEqProofs [int64?, number] using small
    | minus nonempty decimal =>
      have number := decimal?_eq_some_iff.2 ⟨nonempty, decimal, rfl⟩
      simpa -implicitDefEqProofs [int64?, number] using small

/-- A numeral holds no blank. -/
theorem Numeral.solid {cs : List Char} {i : Int} (h : Numeral cs i) : ∀ c ∈ cs, Text.isBlank c = false := by
  have digit {digits : List Char} (decimal : ∀ c ∈ digits, c.isDigit) (c : Char) (member : c ∈ digits) :
      Text.isBlank c = false := isBlank_of_isDigit (decimal c member)
  cases h with
  | plain _ decimal => exact digit decimal
  | plus _ decimal => exact List.forall_mem_cons.2 ⟨by decide, digit decimal⟩
  | minus _ decimal => exact List.forall_mem_cons.2 ⟨by decide, digit decimal⟩

theorem trim_blanks {front core behind : List Char} (blank : ∀ c ∈ front ++ behind, Text.isBlank c)
    (nonempty : core ≠ []) (solid : ∀ c ∈ core, Text.isBlank c = false) :
    Text.trim (front ++ core ++ behind) = core := by
  have before : ∀ c ∈ front, Text.isBlank c := fun c member => blank c (List.mem_append_left _ member)
  have after : ∀ c ∈ behind.reverse, Text.isBlank c := fun c member =>
    blank c (List.mem_append_right _ (List.mem_reverse.1 member))
  have keeps {core : List Char} (tail : List Char) (nonempty : core ≠ [])
      (solid : ∀ c ∈ core, Text.isBlank c = false) :
      (core ++ tail).dropWhile Text.isBlank = core ++ tail := by
    obtain ⟨c, core, rfl⟩ := List.exists_cons_of_ne_nil nonempty
    rw [List.cons_append, List.dropWhile_cons, if_neg (by simp [solid c List.mem_cons_self])]
  have turned := keeps [] (List.reverse_ne_nil_iff.2 nonempty) fun c member => solid c (List.mem_reverse.1 member)
  rw [List.append_nil] at turned
  rw [Text.trim, List.append_assoc, List.dropWhile_append_of_pos before, keeps behind nonempty solid,
    List.reverse_append, List.dropWhile_append_of_pos after, turned, List.reverse_reverse]

theorem exists_trim (cs : List Char) :
    ∃ front behind, cs = front ++ Text.trim cs ++ behind ∧ ∀ c ∈ front ++ behind, Text.isBlank c := by
  have rest : cs.dropWhile Text.isBlank =
      Text.trim cs ++ ((cs.dropWhile Text.isBlank).reverse.takeWhile Text.isBlank).reverse := by
    rw [Text.trim, ← List.reverse_append, List.takeWhile_append_dropWhile, List.reverse_reverse]
  refine ⟨cs.takeWhile Text.isBlank, ((cs.dropWhile Text.isBlank).reverse.takeWhile Text.isBlank).reverse, ?_, ?_⟩
  · rw [List.append_assoc, ← rest, List.takeWhile_append_dropWhile]
  · intro c member
    rcases List.mem_append.1 member with front | behind
    · exact List.mem_takeWhile_imp front
    · exact List.mem_takeWhile_imp (List.mem_reverse.1 behind)

theorem Numeral.ne_nil {cs : List Char} {i : Int} (h : Numeral cs i) : cs ≠ [] := by
  cases h with
  | plain nonempty => exact nonempty
  | plus => exact List.cons_ne_nil _ _
  | minus => exact List.cons_ne_nil _ _

/-- Blanks around a number do not count. -/
theorem int64?_trim_eq_some_iff {cs : List Char} {n : Int64} :
    int64? (Text.trim cs) = some n ↔
      ∃ front digits behind, cs = front ++ digits ++ behind ∧ (∀ c ∈ front ++ behind, Text.isBlank c) ∧
        Numeral digits n.toInt := by
  constructor
  · intro read
    obtain ⟨front, behind, parts, blank⟩ := exists_trim cs
    exact ⟨front, Text.trim cs, behind, parts, blank, int64?_eq_some_iff.1 read⟩
  · rintro ⟨front, digits, behind, rfl, blank, number⟩
    rw [trim_blanks blank number.ne_nil number.solid]
    exact int64?_eq_some_iff.2 number

/-! ## Keys that repeat -/

/-- Putting entries one after the other gathers them. -/
theorem gathers_foldl_put (entries : List (String × Value)) :
    Gathers entries (entries.foldl (fun map entry => Entries.put map entry.1 entry.2) []) := by
  induction entries using List.reverseRecOn with
  | nil => exact ⟨rfl, fun _ => rfl⟩
  | append_singleton entries entry ih =>
    obtain ⟨key, v⟩ := entry
    simp only [List.foldl_append, List.foldl_cons, List.foldl_nil]
    constructor
    · rw [Entries.keys_put, ih.keys, Entries.keys_append, List.eraseDups_append]
      by_cases known : key ∈ Entries.keys entries <;>
        simp [known, List.removeAll, List.eraseDups_cons]
    · intro k
      rw [List.reverse_append, List.reverse_singleton, List.singleton_append, Entries.get?]
      split
      · next same => rw [← same, Entries.get?_put_self]
      · next other => rw [Entries.get?_put_of_ne (Ne.symm other), ih.values k]

theorem nodup_keys_foldl_put (entries : List (String × Value)) :
    (Entries.keys (entries.foldl (fun map entry => Entries.put map entry.1 entry.2) [])).Nodup := by
  induction entries using List.reverseRecOn with
  | nil => exact List.nodup_nil
  | append_singleton entries entry ih =>
    rw [List.foldl_append]
    exact Entries.nodup_keys_put ih _ _

theorem Gathers.eq_foldl_put {entries map : List (String × Value)} (h : Gathers entries map) :
    map = entries.foldl (fun map entry => Entries.put map entry.1 entry.2) [] := by
  have other := gathers_foldl_put entries
  have same := h.keys.trans other.keys.symm
  exact Entries.ext_get? same (same ▸ nodup_keys_foldl_put entries) fun key => (h.values key).trans (other.values key).symm

/-- What is read, with repeated keys merged inside the values but not yet among the entries. -/
def mergedEntries (entries : List (String × Value)) : List (String × Value) :=
  entries.map fun entry => (entry.1, entry.2.merged)

theorem withEntries_eq_foldl (map entries : List (String × Value)) :
    Value.withEntries map entries =
      (mergedEntries entries).foldl (fun map entry => Entries.put map entry.1 entry.2) map := by
  induction entries generalizing map with
  | nil => rfl
  | cons entry entries ih => exact ih _

/-- Merging entries gathers them. -/
theorem gathers_iff_withEntries {entries map : List (String × Value)} :
    Gathers (mergedEntries entries) map ↔ map = Value.withEntries [] entries := by
  rw [withEntries_eq_foldl]
  exact ⟨Gathers.eq_foldl_put, fun same => same ▸ gathers_foldl_put _⟩

end EditorBundles.PropertyList
