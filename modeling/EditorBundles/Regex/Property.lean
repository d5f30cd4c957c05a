import EditorBundles.Regex.BinaryTable
import EditorBundles.Regex.CategoryTable
import EditorBundles.Regex.ScriptExtensionTable
import EditorBundles.Regex.ScriptTable
import EditorBundles.Text.Blank
import EditorBundles.Text.CharSet

/-!
# Named classes of characters

A pattern can name a class by a character property. Names are matched loosely: case, blanks, hyphens,
underscores and a leading `is` do not count. A name alone is a binary property, a general category or
a script; before a value stands the property that has it.
-/

namespace EditorBundles.Regex
set_option autoImplicit false
open Text (CharSet)

namespace Property

/-- The set of the row with a name. -/
def find? (rows : List (List String × List String)) (name : String) : Option CharSet :=
  (rows.find? fun row => name ∈ row.1).map fun row => .ofTable (String.intercalate " " row.2)

/-- The set of the row with a name; nothing where there is none. -/
def get (rows : List (List String × List String)) (name : String) : CharSet :=
  (find? rows name).getD .empty

/-- A name without what does not count. -/
def normalize (name : String) : String :=
  let cs := name.toList
  let headed := (cs.take 2).map Char.toLower = ['i', 's']
  let kept := ((if headed then cs.drop 2 else cs).filter fun c =>
    c.toNat < 0x80 && c ≠ ' ' && c ≠ '_' && c ≠ '-').map Char.toLower
  if headed && kept = ['c'] then "isc" else String.ofList kept

/-- The categories that a union of categories consists of. -/
def categoryUnion? (name : String) : Option (List String) :=
  if name ∈ ["l", "letter"] then some ["lu", "ll", "lt", "lm", "lo"]
  else if name ∈ ["lc", "casedletter"] then some ["lu", "ll", "lt"]
  else if name ∈ ["m", "mark", "combiningmark"] then some ["mn", "mc", "me"]
  else if name ∈ ["n", "number"] then some ["nd", "nl", "no"]
  else if name ∈ ["p", "punct", "punctuation"] then some ["pc", "pd", "ps", "pe", "pi", "pf", "po"]
  else if name ∈ ["s", "symbol"] then some ["sm", "sc", "sk", "so"]
  else if name ∈ ["z", "separator"] then some ["zs", "zl", "zp"]
  else if name ∈ ["c", "other"] then some ["cc", "cf", "co", "cn"]
  else none

/-- The characters of a general category, or of a union of several. -/
def category? (name : String) : Option CharSet :=
  if name = "any" then some .all
  else if name = "ascii" then some (.ofRanges [(0, 0x7F)])
  else if name = "assigned" then some (get categoryRows "cn").complement
  else if name ∈ ["cs", "surrogate"] then some .empty
  else match categoryUnion? name with
    | some names => some (names.foldl (fun s name => s.union (get categoryRows name)) .empty)
    | none => find? categoryRows name

/-- The characters of a script. -/
def script? (name : String) : Option CharSet := find? scriptRows name

/-- The characters that a script uses, those included that it shares. -/
def scriptExtension? (name : String) : Option CharSet := (find? extensionRows name).or (find? scriptRows name)

/-- The class that a name alone names. -/
def named? (name : String) : Option CharSet :=
  let name := normalize name
  let binary := if name ∈ ["cf", "sc", "lc"] then none else find? binaryRows name
  (binary.or (category? name)).or (script? name)

/-- The class that a property and a value name. -/
def valued? (property value : String) : Option CharSet :=
  let property := normalize property
  let value := normalize value
  if property ∈ ["gc", "generalcategory"] then category? value
  else if property ∈ ["sc", "script"] then script? value
  else if property ∈ ["scx", "scriptextensions"] then scriptExtension? value
  else none

/-- The decimal digits of all scripts. -/
def digit : CharSet := get categoryRows "nd"

/-- The blanks of all scripts. -/
def blank : CharSet := get binaryRows "wspace"

/-- The characters of words: letters, marks, digits, connectors and the two joiners. -/
def word : CharSet :=
  ["mn", "mc", "me", "nd", "pc"].foldl (fun s name => s.union (get categoryRows name))
    ((get binaryRows "alpha").union (get binaryRows "joinc"))

/-- The letters of all scripts. -/
def letter : CharSet := get binaryRows "alpha"

/-- The letters and numbers of all scripts. -/
def alphanumeric : CharSet :=
  ["nd", "nl", "no"].foldl (fun s name => s.union (get categoryRows name)) letter

/-- A set of ASCII characters from pairs of its first and last characters. -/
def ofPairs (pairs : List (Char × Char)) : CharSet := .ofRanges (pairs.map fun p => (p.1.toNat, p.2.toNat))

/-- The ASCII classes that are named between colons. -/
def ascii? (name : String) : Option CharSet :=
  match name with
  | "alnum" => some (ofPairs [('0', '9'), ('A', 'Z'), ('a', 'z')])
  | "alpha" => some (ofPairs [('A', 'Z'), ('a', 'z')])
  | "ascii" => some (.ofRanges [(0, 0x7F)])
  | "blank" => some (ofPairs [('\t', '\t'), (' ', ' ')])
  | "cntrl" => some (.ofRanges [(0, 0x1F), (0x7F, 0x7F)])
  | "digit" => some (ofPairs [('0', '9')])
  | "graph" => some (ofPairs [('!', '~')])
  | "lower" => some (ofPairs [('a', 'z')])
  | "print" => some (ofPairs [(' ', '~')])
  | "punct" => some (ofPairs [('!', '/'), (':', '@'), ('[', '`'), ('{', '~')])
  | "space" => some (.ofRanges [(9, 13), (0x20, 0x20)])
  | "upper" => some (ofPairs [('A', 'Z')])
  | "word" => some (ofPairs [('0', '9'), ('A', 'Z'), ('_', '_'), ('a', 'z')])
  | "xdigit" => some (ofPairs [('0', '9'), ('A', 'F'), ('a', 'f')])
  | _ => none

end Property

end EditorBundles.Regex
