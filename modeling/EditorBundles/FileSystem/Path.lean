/-!
# Paths

A path is a text whose parts stand between slashes. Joining two paths keeps the text of both; only
looking a path up makes its parts count, where empty parts and `.` say nothing.
-/

namespace EditorBundles.Path
set_option autoImplicit false

/-- Does the path start at the root of all directories? -/
def isAbsolute (path : String) : Bool := path.startsWith "/"

/-- The path of `name` seen from `dir`. -/
def join (dir name : String) : String :=
  if isAbsolute name then name
  else if dir.isEmpty || dir.endsWith "/" then dir ++ name
  else dir ++ "/" ++ name

/-- The parts of a path that say something. -/
def parts (path : String) : List String := (path.splitOn "/").filter fun part => part ≠ "" ∧ part ≠ "."

/-- The name of the last part, unless the path ends by going up. -/
def fileName? (path : String) : Option String :=
  match (parts path).getLast? with
  | some ".." => none
  | last => last

/-- Does the path end so that it can only name a directory? -/
def wantsDirectory (path : String) : Bool :=
  match (path.splitOn "/").getLast? with
  | some last => last = "" || last = "." || last = ".."
  | none => false

end EditorBundles.Path
