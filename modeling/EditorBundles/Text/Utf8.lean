/-!
# UTF-8 octets and text

Files hold octets; everything above them works on text. `decode` accepts exactly the valid
sequences, `Fault` says where an invalid one stops being text, and `decodeLossy` reads on by
putting U+FFFD for each maximal part that cannot be a character.
-/

namespace EditorBundles.Text.Utf8
set_option autoImplicit false

/-- Where octets stop being UTF-8: the valid length before it, and the length of the refused part.
No length means that the octets end inside a character. -/
structure Fault where
  validUpTo : Nat
  refused : Option Nat
  deriving DecidableEq, Repr

/-- The wording of a fault. -/
def Fault.message (f : Fault) : String :=
  match f.refused with
  | some n => s!"invalid utf-8 sequence of {n} bytes from index {f.validUpTo}"
  | none => s!"incomplete utf-8 byte sequence from index {f.validUpTo}"

/-- What the octets at a position begin with. The lengths do not count the first octet. -/
inductive Lead where
  | char (c : Char) (more : Nat)
  | refused (more : Nat)
  | cut
  deriving Repr

/-- The six payload bits of a continuation octet. -/
def payload (b : UInt8) : Nat := b.toNat % 64

/-- Is `b` a continuation octet? -/
def isTail (b : UInt8) : Bool := 0x80 ≤ b && b ≤ 0xBF

/-- The octets that may follow `first` when more than two are needed or two suffice. -/
def secondAllowed (first second : UInt8) : Bool :=
  if first == 0xE0 then 0xA0 ≤ second && second ≤ 0xBF
  else if first == 0xED then 0x80 ≤ second && second ≤ 0x9F
  else if first == 0xF0 then 0x90 ≤ second && second ≤ 0xBF
  else if first == 0xF4 then 0x80 ≤ second && second ≤ 0x8F
  else isTail second

/-- Reads the character that starts with `first`. -/
def lead (first : UInt8) (rest : List UInt8) : Lead :=
  if first < 0x80 then .char (Char.ofNat first.toNat) 0
  else if first < 0xC2 || 0xF4 < first then .refused 0
  else match rest with
    | [] => .cut
    | b :: rest =>
      if !secondAllowed first b then .refused 0
      else if first < 0xE0 then .char (Char.ofNat (first.toNat % 32 * 64 + payload b)) 1
      else match rest with
        | [] => .cut
        | c :: rest =>
          if !isTail c then .refused 1
          else if first < 0xF0 then
            .char (Char.ofNat ((first.toNat % 16 * 64 + payload b) * 64 + payload c)) 2
          else match rest with
            | [] => .cut
            | d :: _ =>
              if !isTail d then .refused 2
              else .char (Char.ofNat (((first.toNat % 8 * 64 + payload b) * 64 + payload c) * 64 + payload d)) 3

/-- The first fault of octets that start at `offset`, if any. -/
def faultFrom (offset : Nat) : List UInt8 → Option Fault
  | [] => none
  | b :: rest =>
    match lead b rest with
    | .char _ more => faultFrom (offset + more + 1) (rest.drop more)
    | .refused more => some ⟨offset, some (more + 1)⟩
    | .cut => some ⟨offset, none⟩
  termination_by bytes => bytes.length

/-- The characters of octets, with U+FFFD for each part that is none. -/
def lossyChars : List UInt8 → List Char
  | [] => []
  | b :: rest =>
    match lead b rest with
    | .char c more => c :: lossyChars (rest.drop more)
    | .refused more => '\uFFFD' :: lossyChars (rest.drop more)
    | .cut => ['\uFFFD']
  termination_by bytes => bytes.length

/-- The text that octets hold, or where they stop being text. -/
def decode (bytes : ByteArray) : Except Fault String :=
  match String.fromUTF8? bytes with
  | some text => .ok text
  | none => .error ((faultFrom 0 bytes.toList).getD ⟨0, none⟩)

/-- The text that octets hold, with U+FFFD in place of what is no text. -/
def decodeLossy (bytes : ByteArray) : String :=
  match String.fromUTF8? bytes with
  | some text => text
  | none => String.ofList (lossyChars bytes.toList)

theorem fromUTF8?_toUTF8 (text : String) : String.fromUTF8? text.toUTF8 = some text := by
  have valid : text.toUTF8.IsValidUTF8 := text.isValidUTF8
  unfold String.fromUTF8?
  rw [dif_pos valid]
  rfl

/-- Encoding a text and decoding it gives it back. -/
theorem decode_toUTF8 (text : String) : decode text.toUTF8 = .ok text := by
  rw [decode, fromUTF8?_toUTF8]

/-- Octets are decoded to the text that they encode, and to nothing else. -/
theorem decode_eq_ok_iff {bytes : ByteArray} {text : String} : decode bytes = .ok text ↔ text.toUTF8 = bytes := by
  refine ⟨fun decoded => ?_, fun same => same ▸ decode_toUTF8 text⟩
  unfold decode String.fromUTF8? at decoded
  split at decoded
  · next valid =>
    split at valid
    · cases valid
      cases decoded
      rfl
    · cases valid
  · cases decoded

end EditorBundles.Text.Utf8
