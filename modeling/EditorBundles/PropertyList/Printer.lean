import EditorBundles.PropertyList.Value
import EditorBundles.Xml.Entity

/-!
# Property lists as XML text

One element a line, indented by tabs from inside the outermost element. An empty text, list or
dictionary is an empty element, because a line break between two tags would be read as content.
-/

namespace EditorBundles.PropertyList
set_option autoImplicit false

/-- What stands before the value of every property list. -/
def heading : String :=
  "<?xml version=\"1.0\" encoding=\"UTF-8\"?>\n"
    ++ "<!DOCTYPE plist PUBLIC \"-//Apple Computer//DTD PLIST 1.0//EN\" "
    ++ "\"http://www.apple.com/DTDs/PropertyList-1.0.dtd\">\n"
    ++ "<plist version=\"1.0\">"

/-- What stands behind the value of every property list. -/
def footing : String := "\n</plist>\n"

/-- A new line at a level of indentation. -/
def line (level : Nat) (content : String) : String :=
  "\n" ++ String.ofList (List.replicate level '\t') ++ content

/-- An element that holds text, on a line of its own. -/
def textElement (level : Nat) (tag text : String) : String :=
  if text.isEmpty then line level ("<" ++ tag ++ "/>")
  else line level ("<" ++ tag ++ ">" ++ String.ofList (Xml.Entity.escape text.toList) ++ "</" ++ tag ++ ">")

mutual

/-- The lines of a value. -/
def printValue (level : Nat) : Value → String
  | .string s => textElement level "string" s
  | .integer n => textElement level "integer" (toString n.toInt)
  | .bool b => line level (if b then "<true/>" else "<false/>")
  | .array [] => line level "<array/>"
  | .array items => line level "<array>" ++ printItems (level + 1) items ++ line level "</array>"
  | .dict [] => line level "<dict/>"
  | .dict entries => line level "<dict>" ++ printEntries (level + 1) entries ++ line level "</dict>"

/-- The lines of the items of a list. -/
def printItems (level : Nat) : List Value → String
  | [] => ""
  | v :: rest => printValue level v ++ printItems level rest

/-- The lines of the entries of a dictionary. -/
def printEntries (level : Nat) : List (String × Value) → String
  | [] => ""
  | (key, v) :: rest => textElement level "key" key ++ printValue level v ++ printEntries level rest

end

/-- The whole text of a property list. -/
def print (entries : List (String × Value)) : String := heading ++ printValue 1 (.dict entries) ++ footing

end EditorBundles.PropertyList
