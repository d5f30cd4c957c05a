import EditorBundles.Catalog.Items

/-!
# Exporting bundles

An export copies the files of the versions in effect into one directory: the manifest, each item below
the directory of its kind, and the support files. It stops at the first fault and leaves what it has
copied.
-/

namespace EditorBundles.Catalog
set_option autoImplicit false
open PropertyList

/-- Copies the file of an item. -/
def exportItem? (c : Catalog) (target : String) (kind : ItemKind) (b i : Nat) :
    Option (Catalog × Except Fault Unit) := do
  match ← c.itemPath? kind b i with
  | none => return (c, .error (.disabled (.item kind b i)))
  | some source =>
    match c.files.copyFile source target with
    | .ok files => return ({ c with files }, .ok ())
    | .error fault => return (c, .error (.file fault))

/-- Copies the files of items into a directory. -/
def exportItems? (c : Catalog) (dir : String) (kind : ItemKind) (b : Nat) :
    List Nat → Option (Catalog × Except Fault Unit)
  | [] => some (c, .ok ())
  | i :: is => do
    match (← c.itemPath? kind b i).bind Path.fileName? with
    | none => exportItems? c dir kind b is
    | some filename =>
      match ← c.exportItem? (Path.join dir filename) kind b i with
      | (c, .error fault) => return (c, .error fault)
      | (c, .ok ()) => exportItems? c dir kind b is

/-- Copies the files of the items of several kinds, each into its directory. -/
def exportKinds? (c : Catalog) (target : String) (b : Nat) :
    List ItemKind → Option (Catalog × Except Fault Unit)
  | [] => some (c, .ok ())
  | kind :: kinds => do
    let items ← c.listItems? kind b
    if items.isEmpty then exportKinds? c target b kinds
    else
      let dir := Path.join target kind.dirName
      match c.files.createDirectories dir with
      | (files, .error fault) => return ({ c with files }, .error (.file fault))
      | (files, .ok ()) =>
        match ← exportItems? { c with files } dir kind b items with
        | (c, .error fault) => return (c, .error fault)
        | (c, .ok ()) => exportKinds? c target b kinds

/-- Copies the support files of a bundle, if it has any. -/
def exportSupport? (c : Catalog) (target : String) (b : Nat) : Option (Catalog × Except Fault Unit) := do
  match ← c.supportPath? b with
  | none => return (c, .ok ())
  | some support =>
    let (files, result) := c.files.copyDirectory support (Path.join target supportName)
    return ({ c with files }, result.mapError Fault.file)

/-- The file of the manifest in effect. -/
def manifestPath? (c : Catalog) (b : Bundle) : Option String :=
  b.entry.resolve.map fun doc =>
    let dir := if b.entry.locality.own then c.ownDir b.dirName else c.factoryDir b.entry.locality b.dirName
    Path.join dir (c.db.docs.get doc).filename

/-- Copies the versions in effect of a bundle into a directory. -/
def exportBundle? (c : Catalog) (target : String) (b : Nat) : Option (Catalog × Except Fault Unit) := do
  match c.files.createDirectories target with
  | (files, .error fault) => return ({ c with files }, .error (.file fault))
  | (files, .ok ()) =>
    let c := { c with files }
    match c.manifestPath? (← c.db.bundles.row? b) with
    | none => return (c, .error (.disabled (.bundle b)))
    | some manifest =>
      if !c.files.isFile manifest then return (c, .error (.missingManifest manifest))
      else match c.files.copyFile manifest (Path.join target manifestName) with
        | .error fault => return (c, .error (.file fault))
        | .ok files =>
          match ← exportKinds? { c with files } target b ItemKind.all with
          | (c, .error fault) => return (c, .error fault)
          | (c, .ok ()) => c.exportSupport? target b

end EditorBundles.Catalog
