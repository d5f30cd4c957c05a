import EditorBundles.Catalog.FileName

/-!
# Kinds of bundle items

A bundle holds items of six kinds, each in a directory of its own and in files with an extension of its
own. An item is addressed by the bundle's directory, the directory of its kind and its file.
-/

namespace EditorBundles.Catalog
set_option autoImplicit false

/-- A kind of bundle item. -/
inductive ItemKind where
  | language
  | command
  | snippet
  | dragCommand
  | preference
  | keyMacro
  deriving DecidableEq, Repr, Inhabited

/-- What an editor reloads after an item is gone. -/
inductive Reload where
  | nothing
  | everything
  deriving DecidableEq, Repr

namespace ItemKind

/-- The kinds in their order. -/
def all : List ItemKind := [language, command, snippet, dragCommand, preference, keyMacro]

theorem mem_all (kind : ItemKind) : kind ∈ all := by cases kind <;> decide

/-- The name of a kind. -/
def name : ItemKind → String
  | language => "Language"
  | command => "Command"
  | snippet => "Snippet"
  | dragCommand => "DragCommand"
  | preference => "Preference"
  | keyMacro => "Macro"

/-- The directory of a bundle that holds the items of a kind. -/
def dirName : ItemKind → String
  | language => "Syntaxes"
  | command => "Commands"
  | snippet => "Snippets"
  | dragCommand => "DragCommands"
  | preference => "Preferences"
  | keyMacro => "Macros"

/-- The extension of the files of a kind. -/
def extension : ItemKind → String
  | language => ".tmLanguage"
  | command => ".tmCommand"
  | snippet => ".tmSnippet"
  | dragCommand => ".tmDragCommand"
  | preference => ".tmPreferences"
  | keyMacro => ".tmMacro"

/-- The kind of a directory. -/
def ofDirName? (dir : String) : Option ItemKind := all.find? fun kind => kind.dirName = dir

theorem ofDirName?_dirName (kind : ItemKind) : ofDirName? kind.dirName = some kind := by
  cases kind <;> decide

/-- What an editor reloads after an item of a kind is gone: everything where items say how texts are
read. -/
def reload : ItemKind → Reload
  | language => .everything
  | preference => .everything
  | _ => .nothing

/-- Does a file belong to a kind? It does by the extension of the kind or of property lists, in any
case. -/
def matchesFile (kind : ItemKind) (filename : String) : Bool :=
  hasExtension filename ".plist" || hasExtension filename kind.extension

end ItemKind

/-- The address of an item: the directory of its bundle, its kind, and its file. -/
structure ItemAddress where
  bundleDir : String
  kind : ItemKind
  filename : String
  deriving DecidableEq, Repr

namespace ItemAddress

/-- What an address starts with. -/
def scheme : List Char := "bundle://".toList

/-- The text of an address. -/
def print (a : ItemAddress) : String :=
  "bundle://" ++ a.bundleDir ++ "/" ++ a.kind.dirName ++ "/" ++ a.filename

/-- The text up to the next slash, which may not be empty, and the text behind the slash. -/
def segment? (cs : List Char) : Option (List Char × List Char) :=
  match cs.takeWhile (· ≠ '/'), cs.dropWhile (· ≠ '/') with
  | c :: head, _ :: tail => some (c :: head, tail)
  | _, _ => none

/-- The address that a text writes. The file may hold slashes but no line feed. -/
def parse? (text : String) : Option ItemAddress := do
  let cs := text.toList
  if scheme.isPrefixOf cs then
    let (bundleDir, rest) ← segment? (cs.drop scheme.length)
    let (dir, filename) ← segment? rest
    let kind ← ItemKind.ofDirName? (String.ofList dir)
    if filename = [] ∨ '\n' ∈ filename then none
    else return ⟨String.ofList bundleDir, kind, String.ofList filename⟩
  else none

end ItemAddress

end EditorBundles.Catalog
