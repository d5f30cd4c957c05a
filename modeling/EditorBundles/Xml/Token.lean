import EditorBundles.Xml.Entity

/-!
# Markup tokens

`Token.lex` cuts a text into tags, runs of text, character data and what lies between them, by the
delimiters alone: attributes are not read. `Token.nest` then matches every end tag with the start
tag that is still open. A fault is a token too and always the last one, so whoever reads the tokens
meets the faults in the order of the text.
-/

namespace EditorBundles.Xml
set_option autoImplicit false
open Text (byteLength)

/-- The constructs that the end of the input can cut off. -/
inductive Construct where
  | bang
  | cdata
  | comment
  | doctype
  | declaration
  | element
  deriving DecidableEq, Repr

/-- The name of a construct in messages. -/
def Construct.label : Construct → String
  | .bang => "Bang"
  | .cdata => "CData"
  | .comment => "Comment"
  | .doctype => "DOCTYPE"
  | .declaration => "XmlDecl"
  | .element => "Element"

/-- Why a text is no markup. -/
inductive Fault where
  | unfinished (construct : Construct)
  | unknownBang (symbol : Char)
  | emptyDoctype
  | mismatchedEnd (expected found : String)
  | entity (fault : Entity.Fault)
  deriving DecidableEq, Repr

/-- The wording of a fault. -/
def Fault.message : Fault → String
  | .unfinished construct => "Unexpected EOF during reading " ++ construct.label
  | .unknownBang symbol =>
    "Only Comment (`--`), CDATA (`[CDATA[`) and DOCTYPE (`DOCTYPE`) nodes can start with a '!', but symbol `"
      ++ String.singleton symbol ++ "` found"
  | .emptyDoctype => "DOCTYPE declaration must not be empty"
  | .mismatchedEnd expected found => "Expecting </" ++ expected ++ "> found </" ++ found ++ ">"
  | .entity fault => fault.message

/-- A piece of markup. Text and character data carry the octet at which a reader stands after them. -/
inductive Token where
  | text (raw : List Char) (stop : Nat)
  | cdata (content : List Char) (stop : Nat)
  | comment
  | prologue
  | opening (name : List Char)
  | empty (name : List Char)
  | closing (name : List Char)
  | broken (fault : Fault)
  deriving DecidableEq, Repr

namespace Token

/-- Is `c` one of the four blanks of markup? -/
def isBlank (c : Char) : Bool := c = ' ' || c = '\t' || c = '\r' || c = '\n'

/-- The text before the first `>` whose predecessors, latest first, satisfy `closes`. -/
def upToClose (closes : List Char → Bool) (before : List Char) : List Char → Option (List Char)
  | [] => none
  | c :: rest =>
    if c = '>' && closes before then some before.reverse else upToClose closes (c :: before) rest

/-- A comment closes after `--`, at least five octets behind the exclamation mark. -/
def closesComment (before : List Char) : Bool :=
  4 ≤ before.length && before.take 2 = ['-', '-']

/-- Character data close after `]]`. -/
def closesCdata (before : List Char) : Bool := before.take 2 = [']', ']']

/-- A document type closes where as many `<` as `>` stand before. -/
def closesDoctype (before : List Char) : Bool := before.count '<' = before.count '>'

/-- The text before the first `>` outside quotes; `quote` is the quote that is open. -/
def upToTagEnd (quote : Option Char) : List Char → Option (List Char)
  | [] => none
  | c :: rest =>
    match quote with
    | some q => (upToTagEnd (if c = q then none else some q) rest).map (c :: ·)
    | none =>
      if c = '>' then some []
      else (upToTagEnd (if c = '"' || c = '\'' then some c else none) rest).map (c :: ·)

/-- Do the first characters match a word of capitals, in either case? -/
def startsWith (word : List Char) (cs : List Char) : Bool := (cs.take word.length).map Char.toUpper = word

/-- What a construct that starts with `<!` is, from the text behind the mark, and how long it is. -/
def lexBang (cs : List Char) : Except Fault (Token × List Char) :=
  match cs with
  | [] => .error (.unfinished .bang)
  | c :: _ =>
    if c = '[' then
      match upToClose closesCdata [] cs with
      | some content =>
        if startsWith ['[', 'C', 'D', 'A', 'T', 'A', '['] (content.take (content.length - 2)) then
          .ok (.cdata ((content.take (content.length - 2)).drop 7) 0, content)
        else .error (.unfinished .cdata)
      | none => .error (.unfinished .cdata)
    else if c = '-' then
      match upToClose closesComment [] cs with
      | some content =>
        if content.take 2 = ['-', '-'] then .ok (.comment, content) else .error (.unfinished .comment)
      | none => .error (.unfinished .comment)
    else if c = 'D' || c = 'd' then
      match upToClose closesDoctype [] cs with
      | some content =>
        if !startsWith ['D', 'O', 'C', 'T', 'Y', 'P', 'E'] content then .error (.unfinished .doctype)
        else if (content.drop 7).all isBlank then .error .emptyDoctype
        else .ok (.prologue, content)
      | none => .error (.unfinished .doctype)
    else .error (.unknownBang (Entity.firstOctet c))

/-- The name of a tag is what comes before the first blank. -/
def tagName (content : List Char) : List Char := content.takeWhile (fun c => !isBlank c)

/-- The token of a tag, from the text between `<` and `>`. -/
def ofTag (content : List Char) : Token :=
  if content.getLast? = some '/' then .empty (tagName content.dropLast)
  else .opening (tagName content)

/-- The token of a construct from the text behind its `<`, and the text that it takes up to its `>`. -/
def lexMarkup (cs : List Char) : Except Fault (Token × List Char) :=
  match cs with
  | '!' :: rest => (lexBang rest).map fun (token, content) => (token, '!' :: content)
  | '/' :: rest =>
    let name := rest.takeWhile (· ≠ '>')
    .ok (.closing name, '/' :: name)
  | '?' :: rest =>
    let content := rest.takeWhile (· ≠ '>')
    if content.length < 2 || content.getLast? ≠ some '?' then .error (.unfinished .declaration)
    else .ok (.prologue, '?' :: content)
  | cs =>
    match upToTagEnd none cs with
    | some content => .ok (ofTag content, content)
    | none => .error (.unfinished .element)

/-- Puts the octet behind the construct into a token of character data. -/
def stopAt (stop : Nat) : Token → Token
  | .cdata content _ => .cdata content stop
  | token => token

/-- Cuts a text, which starts at octet `pos`, into tokens. -/
def lexFrom (pos : Nat) (cs : List Char) : List Token :=
  match cs with
  | [] => []
  | '<' :: rest =>
    if rest.isEmpty then []
    else match lexMarkup rest with
      | .error fault => [.broken fault]
      | .ok (token, content) =>
        let stop := pos + byteLength content + 2
        token.stopAt stop :: lexFrom stop (rest.drop (content.length + 1))
  | c :: rest =>
    let raw := c :: rest.takeWhile (· ≠ '<')
    let tail := rest.drop (raw.length - 1)
    let stop := pos + byteLength raw
    .text raw (if tail.isEmpty then stop - 1 else stop) :: lexFrom stop tail
  termination_by cs.length

/-- Cuts a text into tokens. A byte-order mark before it is no part of it. -/
def lex (text : String) : List Token :=
  match text.toList with
  | '\uFEFF' :: cs => lexFrom 0 cs
  | cs => lexFrom 0 cs

/-- The name of an end tag without the blanks behind it; a name of nothing but blanks stays. -/
def trimName (name : List Char) : List Char :=
  if name.all isBlank then name else (name.reverse.dropWhile isBlank).reverse

/-- Matches end tags with the start tags that are open, the innermost first. -/
def nest (opened : List (List Char)) : List Token → List Token
  | [] => []
  | .opening name :: rest => .opening name :: nest (name :: opened) rest
  | .closing name :: rest =>
    match opened with
    | [] => [.broken (.mismatchedEnd "" (String.ofList name))]
    | expected :: opened =>
      if trimName name = expected then .closing expected :: nest opened rest
      else [.broken (.mismatchedEnd (String.ofList expected) (String.ofList (trimName name)))]
  | token :: rest => token :: nest opened rest

/-- The tokens of a document, with every end tag matched. -/
def scan (text : String) : List Token := nest [] (lex text)

end Token

end EditorBundles.Xml
