import EditorBundles.Entries
import EditorBundles.FileSystem.Path

/-!
# File systems

A file system is a value: the files and directories below the working directory, each with its
permissions and the time of its last change. A node is found by the list of names that leads to it,
and every node's own directory is there too. Operations give a new file system or say why they
cannot; `clock` is the time that they stamp on what they change.
-/

namespace EditorBundles
set_option autoImplicit false

/-- Why an operation on files fails. -/
inductive FileFault where
  | notFound
  | alreadyExists
  | notADirectory
  | isADirectory
  | invalidName
  | invalidInput
  | invalidData
  | busy
  deriving DecidableEq, Repr

/-- The name of a fault. -/
def FileFault.name : FileFault → String
  | .notFound => "NotFound"
  | .alreadyExists => "AlreadyExists"
  | .notADirectory => "NotADirectory"
  | .isADirectory => "IsADirectory"
  | .invalidName => "InvalidFilename"
  | .invalidInput => "InvalidInput"
  | .invalidData => "InvalidData"
  | .busy => "ResourceBusy"

/-- A file or a directory. Times count nanoseconds from the epoch. -/
inductive FileNode where
  | file (octets : ByteArray) (mode : Nat) (modified : Int)
  | directory (mode : Nat) (modified : Int)

namespace FileNode

/-- Is the node a directory? -/
def isDirectory : FileNode → Bool
  | .directory .. => true
  | .file .. => false

/-- The permissions of a node. -/
def mode : FileNode → Nat
  | .file _ mode _ => mode
  | .directory mode _ => mode

/-- The time of a node's last change. -/
def modified : FileNode → Int
  | .file _ _ modified => modified
  | .directory _ modified => modified

/-- The node with other permissions. -/
def withMode (mode : Nat) : FileNode → FileNode
  | .file octets _ modified => .file octets mode modified
  | .directory _ modified => .directory mode modified

/-- The node with another time of its last change. -/
def withModified (modified : Int) : FileNode → FileNode
  | .file octets mode _ => .file octets mode modified
  | .directory mode _ => .directory mode modified

end FileNode

/-- Where a node is: the names that lead to it from the working directory. -/
abbrev Place := List String

/-- The nodes below the working directory and the time of day. -/
structure FileSystem where
  nodes : List (Place × FileNode) := [([], .directory 0o755 0)]
  clock : Int := 0

namespace FileSystem

/-- The longest name that a node can have, in octets. -/
def longestName : Nat := 255

/-- The permissions of a new directory. -/
def directoryMode : Nat := 0o755

/-- The permissions of a new file. -/
def fileMode : Nat := 0o644

/-- The permissions of a file that is only there for a while. -/
def temporaryMode : Nat := 0o600

/-- The node at a place. -/
def node? (fs : FileSystem) (place : Place) : Option FileNode := Entries.get? fs.nodes place

/-- Follows the parts of a path from a place. All but the last must lead through directories. -/
def follow (fs : FileSystem) (place : Place) : List String → Except FileFault Place
  | [] => .ok place
  | part :: rest =>
    match fs.node? place with
    | none => .error .notFound
    | some (.file ..) => .error .notADirectory
    | some (.directory ..) =>
      if part = ".." then follow fs place.dropLast rest
      else if longestName < part.utf8ByteSize then .error .invalidName
      else follow fs (place ++ [part]) rest

/-- The place that a path leads to, whether or not a node is there. -/
def resolve (fs : FileSystem) (path : String) : Except FileFault Place :=
  if path.contains '\x00' then .error .invalidInput
  else if path.isEmpty || Path.isAbsolute path then .error .notFound
  else fs.follow [] (Path.parts path)

/-- The node that a path leads to, with its place. -/
def locate (fs : FileSystem) (path : String) : Except FileFault (Place × FileNode) :=
  match fs.resolve path with
  | .error fault => .error fault
  | .ok place =>
    match fs.node? place with
    | none => .error .notFound
    | some node =>
      if Path.wantsDirectory path && !node.isDirectory then .error .notADirectory else .ok (place, node)

/-- Does the path lead to a node? -/
def pathExists (fs : FileSystem) (path : String) : Bool := (fs.locate path).toBool

/-- Does the path lead to a directory? -/
def isDirectory (fs : FileSystem) (path : String) : Bool :=
  match fs.locate path with
  | .ok (_, node) => node.isDirectory
  | .error _ => false

/-- Does the path lead to a file? -/
def isFile (fs : FileSystem) (path : String) : Bool :=
  match fs.locate path with
  | .ok (_, node) => !node.isDirectory
  | .error _ => false

/-- The octets of a file. -/
def read (fs : FileSystem) (path : String) : Except FileFault ByteArray :=
  match fs.locate path with
  | .ok (_, .file octets _ _) => .ok octets
  | .ok (_, .directory ..) => .error .isADirectory
  | .error fault => .error fault

/-- Does a file hold exactly these octets? -/
def holds (fs : FileSystem) (path : String) (octets : ByteArray) : Bool :=
  match fs.read path with
  | .ok found => found.data = octets.data
  | .error _ => false

/-- The permissions at a path. -/
def modeAt (fs : FileSystem) (path : String) : Except FileFault Nat :=
  (fs.locate path).map fun (_, node) => node.mode

/-- The time of the last change at a path in whole seconds from the epoch, fractions cut off. -/
def modTime (fs : FileSystem) (path : String) : Except FileFault Int :=
  (fs.locate path).map fun (_, node) => node.modified.tdiv 1000000000

/-- The names in the directory at a place, each with its node. -/
def childrenAt (fs : FileSystem) (place : Place) : List (String × FileNode) :=
  fs.nodes.filterMap fun (here, node) =>
    match here.getLast? with
    | some name => if here.dropLast = place then some (name, node) else none
    | none => none

/-- The names in a directory, each with its node; nothing where there is no directory. -/
def children (fs : FileSystem) (path : String) : List (String × FileNode) :=
  match fs.locate path with
  | .ok (place, .directory ..) => fs.childrenAt place
  | _ => []

/-! ## Changes -/

/-- Stamps the directory around a place with the time of day. -/
def stampParent (fs : FileSystem) (place : Place) : FileSystem :=
  match fs.node? place.dropLast with
  | some node => { fs with nodes := Entries.put fs.nodes place.dropLast (node.withModified fs.clock) }
  | none => fs

/-- Puts a node at a place, in a directory that is there. -/
def putNode (fs : FileSystem) (place : Place) (node : FileNode) : FileSystem :=
  let changed := if (fs.node? place).isSome then fs else fs.stampParent place
  { changed with nodes := Entries.put changed.nodes place node }

/-- Takes out the nodes at and below a place. -/
def dropNodes (fs : FileSystem) (place : Place) : FileSystem :=
  let changed := fs.stampParent place
  { changed with nodes := changed.nodes.filter fun entry => ¬ place.isPrefixOf entry.1 }

/-- Makes the directories of a list of parts that are missing below a place. What was made before a
fault stays. -/
def makeDirectories (fs : FileSystem) (place : Place) : List String → FileSystem × Except FileFault Unit
  | [] => (fs, .ok ())
  | part :: rest =>
    if part = ".." then makeDirectories fs place.dropLast rest
    else if longestName < part.utf8ByteSize then (fs, .error .invalidName)
    else
      let next := place ++ [part]
      match fs.node? next with
      | some (.directory ..) => makeDirectories fs next rest
      | some (.file ..) => (fs, .error (if rest.isEmpty then .alreadyExists else .notADirectory))
      | none => makeDirectories (fs.putNode next (.directory directoryMode fs.clock)) next rest

/-- Makes a directory and those around it, as far as they are missing. -/
def createDirectories (fs : FileSystem) (path : String) : FileSystem × Except FileFault Unit :=
  if path.isEmpty then (fs, .ok ())
  else if path.contains '\x00' then (fs, .error .invalidInput)
  else if Path.isAbsolute path then (fs, .error .notFound)
  else fs.makeDirectories [] (Path.parts path)

/-- Writes a file where a directory is there for it. Permissions of a file that is there stay. -/
def write (fs : FileSystem) (path : String) (octets : ByteArray) : Except FileFault FileSystem :=
  match fs.resolve path with
  | .error fault => .error fault
  | .ok place =>
    match fs.node? place with
    | some (.directory ..) => .error .isADirectory
    | some (.file _ mode _) =>
      if Path.wantsDirectory path then .error .notADirectory
      else .ok (fs.putNode place (.file octets mode fs.clock))
    | none =>
      if Path.wantsDirectory path then .error .isADirectory
      else .ok (fs.putNode place (.file octets fileMode fs.clock))

/-- Replaces the file at a path in one step by a new one with the given permissions. -/
def replaceFile (fs : FileSystem) (path : String) (octets : ByteArray) (mode : Nat) :
    Except FileFault FileSystem :=
  match fs.resolve path with
  | .error fault => .error fault
  | .ok place =>
    if Path.wantsDirectory path && !path.endsWith "/" then .error .busy
    else match fs.node? place with
      | some (.directory ..) => .error .isADirectory
      | _ =>
        if Path.wantsDirectory path then .error .notADirectory
        else .ok ((fs.stampParent place).putNode place (.file octets mode fs.clock))

/-- Removes a file. -/
def removeFile (fs : FileSystem) (path : String) : Except FileFault FileSystem :=
  match fs.locate path with
  | .error fault => .error fault
  | .ok (_, .directory ..) => .error .isADirectory
  | .ok (place, .file ..) => .ok (fs.dropNodes place)

/-- Removes a directory with all that is in it. -/
def removeDirectory (fs : FileSystem) (path : String) : Except FileFault FileSystem :=
  match fs.locate path with
  | .error fault => .error fault
  | .ok (_, .file ..) => .error .notADirectory
  | .ok (place, .directory ..) => .ok (fs.dropNodes place)

/-- Copies a file with its permissions. Copying a file onto itself empties it. -/
def copyFile (fs : FileSystem) (source target : String) : Except FileFault FileSystem :=
  match fs.locate source with
  | .error fault => .error fault
  | .ok (_, .directory ..) => .error .invalidInput
  | .ok (origin, .file octets mode _) =>
    match fs.resolve target with
    | .error fault => .error fault
    | .ok place =>
      match fs.node? place with
      | some (.directory ..) => .error .isADirectory
      | some (.file ..) =>
        if Path.wantsDirectory target then .error .notADirectory
        else .ok (fs.putNode place (.file (if place = origin then .empty else octets) mode fs.clock))
      | none =>
        if Path.wantsDirectory target then .error .isADirectory
        else .ok (fs.putNode place (.file octets mode fs.clock))

/-- Copies one node to a path: a directory is made if it is missing, a file is overwritten. -/
def copyNode (fs : FileSystem) (node : FileNode) (path : String) : FileSystem × Except FileFault Unit :=
  match node with
  | .directory .. => fs.createDirectories path
  | .file octets mode _ =>
    match fs.resolve path with
    | .error fault => (fs, .error fault)
    | .ok place =>
      match fs.node? place with
      | some (.directory ..) => (fs, .error .isADirectory)
      | _ => (fs.putNode place (.file octets mode fs.clock), .ok ())

/-- Copies nodes, each to the path that it has below `target` as it has below `source`. -/
def copyNodes (fs : FileSystem) (source : Place) (target : String) :
    List (Place × FileNode) → FileSystem × Except FileFault Unit
  | [] => (fs, .ok ())
  | (place, node) :: rest =>
    match fs.copyNode node ((place.drop source.length).foldl Path.join target) with
    | (fs, .error fault) => (fs, .error fault)
    | (fs, .ok ()) => copyNodes fs source target rest

/-- The order of a walk: a directory comes before its content, and its content in the order of the names. -/
def walkedBefore : Place → Place → Bool
  | [], _ => true
  | _ :: _, [] => false
  | a :: as, b :: bs => if a = b then walkedBefore as bs else a < b

/-- Copies a directory with all that is in it, making directories as needed. -/
def copyDirectory (fs : FileSystem) (source target : String) : FileSystem × Except FileFault Unit :=
  match fs.locate source with
  | .error fault => (fs, .error fault)
  | .ok (place, _) =>
    let nodes := fs.nodes.filter fun entry => place.isPrefixOf entry.1
    fs.copyNodes place target (nodes.mergeSort fun a b => walkedBefore a.1 b.1)

/-- Puts other permissions on the node at a path. -/
def setMode (fs : FileSystem) (path : String) (mode : Nat) : Except FileFault FileSystem :=
  (fs.locate path).map fun (place, node) =>
    { fs with nodes := Entries.put fs.nodes place (node.withMode mode) }

/-- Puts another time of change on the node at a path, in nanoseconds from the epoch. -/
def setModified (fs : FileSystem) (path : String) (modified : Int) : Except FileFault FileSystem :=
  (fs.locate path).map fun (place, node) =>
    { fs with nodes := Entries.put fs.nodes place (node.withModified modified) }

/-- Everything below the working directory in the order of the texts of the paths, directories with a
slash behind them. -/
def listing (fs : FileSystem) : List String :=
  let texts := fs.nodes.filterMap fun (place, node) =>
    if place.isEmpty then none
    else some (String.intercalate "/" place ++ (if node.isDirectory then "/" else ""))
  texts.mergeSort fun a b => a ≤ b

end FileSystem

end EditorBundles
