import EditorBundles.PropertyList.Value
import EditorBundles.Text.Blank
import EditorBundles.Text.Utf8
import EditorBundles.Xml.Token

/-!
# Reading property lists

A property list is a `plist` element around one dictionary. Between tags only blanks, comments and
the declarations of the prologue may stand; inside `key`, `string` and `integer` only text, character
data and comments. Every other element is refused, so nothing of a document is lost unnoticed.
-/

namespace EditorBundles.PropertyList
set_option autoImplicit false
open Xml (Token)

/-- What a reader of structure meets next: a tag or the end. -/
inductive Piece where
  | opening (name : String)
  | empty (name : String)
  | closing (name : String)
  | finish
  deriving DecidableEq, Repr

/-- The wording of a piece in messages. -/
def Piece.describe : Piece → String
  | .opening name => "<" ++ name ++ ">"
  | .empty name => "<" ++ name ++ "/>"
  | .closing name => "</" ++ name ++ ">"
  | .finish => "end of document"

/-- Why octets are no property list. -/
inductive ReadFault where
  | markup (fault : Xml.Fault)
  | notText (fault : Text.Utf8.Fault)
  | noPropertyList (found : Piece)
  | rootNotDict (found : Piece)
  | notClosed (tag : String) (found : Piece)
  | trailing (found : Piece)
  | noKey (found : Piece)
  | noValue (key : String) (found : Piece)
  | noItem (found : Piece)
  | emptyInteger
  | notInteger (text : String)
  | markupInside (tag : String)
  | strayText (octet : Nat)
  | strayCdata (octet : Nat)
  | unknownElement (name : String)
  deriving DecidableEq, Repr

/-- The wording of a fault, without the class that it belongs to. -/
def ReadFault.detail : ReadFault → String
  | .markup fault => fault.message
  | .notText fault => "document is not UTF-8: " ++ fault.message
  | .noPropertyList found => "expected <plist>, found " ++ found.describe
  | .rootNotDict found => "the root value must be a dict, found " ++ found.describe
  | .notClosed tag found => "expected </" ++ tag ++ ">, found " ++ found.describe
  | .trailing found => "content after </plist>: " ++ found.describe
  | .noKey found => "expected <key>, found " ++ found.describe
  | .noValue key found => "key '" ++ key ++ "' has no value, found " ++ found.describe
  | .noItem found => "unexpected " ++ found.describe ++ " in array"
  | .emptyInteger => "empty <integer>"
  | .notInteger text => "invalid integer '" ++ text ++ "'"
  | .markupInside tag => "unexpected markup inside <" ++ tag ++ ">"
  | .strayText octet => s!"unexpected text at byte {octet}"
  | .strayCdata octet => s!"unexpected CDATA at byte {octet}"
  | .unknownElement name => "<" ++ name ++ ">"

/-- The next piece of structure and the tokens behind it. -/
def nextPiece : List Token → Except ReadFault (Piece × List Token)
  | [] => .ok (.finish, [])
  | .opening name :: rest => .ok (.opening (String.ofList name), rest)
  | .empty name :: rest => .ok (.empty (String.ofList name), rest)
  | .closing name :: rest => .ok (.closing (String.ofList name), rest)
  | .text raw stop :: rest => if raw.all Text.isAsciiBlank then nextPiece rest else .error (.strayText stop)
  | .cdata _ stop :: _ => .error (.strayCdata stop)
  | .comment :: rest => nextPiece rest
  | .prologue :: rest => nextPiece rest
  | .broken fault :: _ => .error (.markup fault)

/-- The text up to the end tag `tag`, exactly as written. -/
def readContent (tag : String) : List Token → Except ReadFault (List Char × List Token)
  | .text raw _ :: rest =>
    match Xml.Entity.unescape raw with
    | .error fault => .error (.markup (.entity fault))
    | .ok text =>
      match readContent tag rest with
      | .ok (more, rest) => .ok (text ++ more, rest)
      | .error fault => .error fault
  | .cdata content _ :: rest =>
    match readContent tag rest with
    | .ok (more, rest) => .ok (content ++ more, rest)
    | .error fault => .error fault
  | .comment :: rest => readContent tag rest
  | .closing name :: rest => if String.ofList name = tag then .ok ([], rest) else .error (.markupInside tag)
  | .broken fault :: _ => .error (.markup fault)
  | _ => .error (.markupInside tag)

/-- The number that decimal digits write, or nothing if another character is among them. -/
def decimal? (digits : List Char) : Option Nat :=
  if digits ≠ [] ∧ digits.all Char.isDigit then
    some (digits.foldl (fun n c => n * 10 + (c.toNat - '0'.toNat)) 0)
  else none

/-- The number that an optional sign and decimal digits write, if 64 bits hold it. -/
def int64? (text : List Char) : Option Int64 :=
  let signed : Option Int :=
    match text with
    | '-' :: digits => (decimal? digits).map fun n => -(n : Int)
    | '+' :: digits => (decimal? digits).map fun n => (n : Int)
    | digits => (decimal? digits).map fun n => (n : Int)
  signed.bind int64OfInt?

/-- The end tag `tag`, with nothing but blanks and comments before it. -/
def readEnd (tag : String) (tokens : List Token) : Except ReadFault (List Token) :=
  match nextPiece tokens with
  | .error fault => .error fault
  | .ok (piece, rest) => if piece = .closing tag then .ok rest else .error (.notClosed tag piece)

mutual

/-- The value of an element called `name` whose start tag has been read; `empty` tells that the tag
is its own end. -/
def readValue (fuel : Nat) (name : String) (empty : Bool) (tokens : List Token) :
    Except ReadFault (Value × List Token) :=
  match fuel with
  | 0 => .error (.noItem .finish)
  | fuel + 1 =>
    if name = "string" then
      if empty then .ok (.string "", tokens)
      else match readContent "string" tokens with
        | .ok (text, rest) => .ok (.string (String.ofList text), rest)
        | .error fault => .error fault
    else if name = "integer" then
      if empty then .error .emptyInteger
      else match readContent "integer" tokens with
        | .error fault => .error fault
        | .ok (text, rest) =>
          match int64? (Text.trim text) with
          | some n => .ok (.integer n, rest)
          | none => .error (.notInteger (String.ofList text))
    else if name = "true" ∨ name = "false" then
      if empty then .ok (.bool (name = "true"), tokens)
      else match readEnd name tokens with
        | .ok rest => .ok (.bool (name = "true"), rest)
        | .error fault => .error fault
    else if name = "dict" then
      if empty then .ok (.dict [], tokens)
      else match readEntries fuel tokens with
        | .ok (entries, rest) => .ok (.dict entries, rest)
        | .error fault => .error fault
    else if name = "array" then
      if empty then .ok (.array [], tokens)
      else match readItems fuel tokens with
        | .ok (items, rest) => .ok (.array items, rest)
        | .error fault => .error fault
    else .error (.unknownElement name)

/-- The entries of a dictionary up to its end tag, repeated keys included. -/
def readEntries (fuel : Nat) (tokens : List Token) : Except ReadFault (List (String × Value) × List Token) :=
  match fuel with
  | 0 => .error (.noKey .finish)
  | fuel + 1 => do
    let (piece, rest) ← nextPiece tokens
    if piece = .closing "dict" then return ([], rest)
    let (key, rest) ←
      if piece = .opening "key" then (readContent "key" rest).map fun (text, rest) => (String.ofList text, rest)
      else if piece = .empty "key" then .ok ("", rest)
      else .error (.noKey piece)
    let (piece, rest) ← nextPiece rest
    let (value, rest) ←
      match piece with
      | .opening name => readValue fuel name false rest
      | .empty name => readValue fuel name true rest
      | piece => .error (.noValue key piece)
    let (entries, rest) ← readEntries fuel rest
    return ((key, value) :: entries, rest)

/-- The items of an array up to its end tag. -/
def readItems (fuel : Nat) (tokens : List Token) : Except ReadFault (List Value × List Token) :=
  match fuel with
  | 0 => .error (.noItem .finish)
  | fuel + 1 => do
    let (piece, rest) ← nextPiece tokens
    if piece = .closing "array" then return ([], rest)
    let (value, rest) ←
      match piece with
      | .opening name => readValue fuel name false rest
      | .empty name => readValue fuel name true rest
      | piece => .error (.noItem piece)
    let (items, rest) ← readItems fuel rest
    return (value :: items, rest)

end

/-- The entries of the root dictionary of a whole document, repeated keys included. -/
def readDocument (tokens : List Token) : Except ReadFault (List (String × Value)) := do
  let (piece, rest) ← nextPiece tokens
  if piece ≠ .opening "plist" then throw (.noPropertyList piece)
  let (piece, rest) ← nextPiece rest
  let (entries, rest) ←
    if piece = .opening "dict" then readEntries (2 * rest.length + 2) rest
    else if piece = .empty "dict" then .ok ([], rest)
    else .error (.rootNotDict piece)
  let rest ← readEnd "plist" rest
  let (piece, _) ← nextPiece rest
  if piece ≠ .finish then throw (.trailing piece)
  return entries

/-- The entries that a text writes. -/
def readText (text : String) : Except ReadFault (List (String × Value)) := readDocument (Token.scan text)

/-- The entries that the octets of a file write. -/
def read (octets : ByteArray) : Except ReadFault (List (String × Value)) :=
  match Text.Utf8.decode octets with
  | .ok text => readText text
  | .error fault => .error (.notText fault)

end EditorBundles.PropertyList
