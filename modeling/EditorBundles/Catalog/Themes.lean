import EditorBundles.Catalog.Bundles

/-!
# Working on themes

Operations take the number of a theme's row and give nothing where there is no such row, or where a
document that they read is not live.
-/

namespace EditorBundles.Catalog
set_option autoImplicit false
open PropertyList

/-- The colours of a new theme. -/
def defaultColors : List (String × String) := [
  ("background", "#FFFFFF"),
  ("caret", "#000000"),
  ("foreground", "#000000"),
  ("invisibles", "#BFBFBF"),
  ("lineHighlight", "#00000012"),
  ("selection", "#C3DCFF")]

/-- The themes with a version in effect and their names, ordered by name whatever the case. -/
def themes (c : Catalog) : List (Nat × String) :=
  let named := c.db.themes.visible.map fun id => (id, ((c.db.themes.entryAt? id).map (·.name)).getD "")
  named.mergeSort fun a b => Text.lower a.2 ≤ Text.lower b.2

/-- The document in effect. -/
def theme? (c : Catalog) (id : Nat) : Option (Option Document) := do
  c.effectiveDoc? (← c.db.themes.entryAt? id)

/-- The document in effect of the first theme with an identity. -/
def themeByUuid? (c : Catalog) (uuid : String) : Option (Option Document) :=
  match c.db.themes.findUuid? uuid with
  | none => some none
  | some id => c.theme? id

/-- Has the user a version of their own? -/
def isThemeEditable? (c : Catalog) (id : Nat) : Option Bool := (c.db.themes.entryAt? id).map Entry.isEditable

/-- The user's own version, which is made if there is none. -/
def editTheme? (c : Catalog) (id : Nat) : Option (Catalog × Nat) := do
  let (themes, docs, own) ← c.db.themes.editable? id c.db.docs
  return ((c.withDb { c.db with themes, docs }).markDirty, own)

/-- Puts other themes into the catalog. -/
def withThemes (c : Catalog) (themes : EntryTable Entry) : Catalog := c.withDb { c.db with themes }

/-- Marks a theme as changed, so that the next commit writes it. -/
def markTheme? (c : Catalog) (id : Nat) : Option Catalog := do
  let _ ← c.db.themes.entryAt? id
  return (c.withThemes (c.db.themes.modifyEntry id fun e => { e with modified := true })).markDirty

/-- A document with the colours of a new theme. -/
def addColors (d : Document) : Document :=
  let (d, settings) := d.newArray Document.rootSlot "settings"
  let (d, general) := d.pushDict settings
  let (d, colors) := d.newDict general "settings"
  defaultColors.foldl (fun d color => d.setString colors color.1 color.2) d

/-- Adds a theme of the user's own with default colours. The next commit writes it. -/
def newTheme (c : Catalog) (name : String) : Catalog × Nat :=
  let filename := freeName c.files c.config.ownThemes name ".tmTheme"
  let (c, doc) := c.createDoc name (some filename)
  let c := c.withDocs (c.db.docs.modify doc addColors)
  let (themes, id) := c.db.themes.insert doc { own := true } c.db.docs
  let themes := themes.modifyEntry id fun e => { e with modified := true }
  ((c.withThemes themes).markDirty, id)

/-- Writes the user's own version of a theme. -/
def saveTheme? (c : Catalog) (id : Nat) : Option (Catalog × Except Fault Unit) := do
  let e ← c.db.themes.entryAt? id
  match savable? e with
  | none => return (c, .error (.notEditable (.theme id)))
  | some own =>
    match c.saveDoc own c.config.ownThemes with
    | (c, .error fault) => return (c, .error fault)
    | (c, .ok ()) =>
      let themes := c.db.themes.modifyEntry id fun e => { e with modified := false }
      return ((c.withThemes themes).markDirty, .ok ())

/-- Deletes the user's own version of a theme with its file, or hides the pristine version. -/
def deleteTheme? (c : Catalog) (id : Nat) : Option (Catalog × Except Fault Unit) := do
  let _ ← c.db.themes.entryAt? id
  match c.db.themes.delete id c.config.ownThemes c.db.docs c.files with
  | .error fault => return (c, .error (.file fault))
  | .ok (themes, docs, files) =>
    return ({ (c.withDb { c.db with themes, docs }).markDirty with files }, .ok ())

/-- Shows a hidden theme again. Tells whether there was anything to show. -/
def restoreTheme? (c : Catalog) (id : Nat) : Option (Catalog × Bool) := do
  let _ ← c.db.themes.entryAt? id
  let (themes, restored) := c.db.themes.restore id
  return (if restored then (c.withThemes themes).markDirty else c, restored)

end EditorBundles.Catalog
