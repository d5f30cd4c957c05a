import EditorBundles.FileSystem.Basic
import EditorBundles.Text.CaseMap

/-!
# Names of files

Files and directories are named after what they show, without the characters that a name may not have.
Where the name is taken, numbers are tried until one is free.
-/

namespace EditorBundles.Catalog
set_option autoImplicit false

/-- Does a name end in an extension, whatever the case? -/
def hasExtension (name extension : String) : Bool :=
  (Text.lower extension).toList.isSuffixOf (Text.lower name).toList

/-- Is the character refused in names? -/
def isIllegal (c : Char) : Bool := ['\\', '/', ':', '*', '?', '"', '<', '>', '|'].contains c

/-- A name without the characters that are refused; `New` where nothing is left. -/
def legalName (name : String) : String :=
  let kept := name.toList.filter fun c => !isIllegal c
  if kept = [] then "New" else String.ofList kept

/-- The names that are tried in turn: the plain one, then with the numbers from 1 on. -/
def candidate (base extension : String) : Nat → String
  | 0 => base ++ extension
  | n + 1 => base ++ toString (n + 1) ++ extension

/-- The first candidate from the nth on that nothing in the directory has. `fuel` bounds the search. -/
def freeNameFrom (fs : FileSystem) (dir base extension : String) (fuel n : Nat) : String :=
  match fuel with
  | 0 => candidate base extension n
  | fuel + 1 =>
    if fs.pathExists (Path.join dir (candidate base extension n)) then
      freeNameFrom fs dir base extension fuel (n + 1)
    else candidate base extension n

/-- A name for something new in a directory. More candidates are tried than there are nodes. -/
def freeName (fs : FileSystem) (dir name extension : String) : String :=
  freeNameFrom fs dir (legalName name) extension (fs.nodes.length + 2) 0

end EditorBundles.Catalog
