import EditorBundles.Catalog.EntryTable
import EditorBundles.Catalog.ItemKind

/-!
# Bundles

A bundle is an entry for its manifest, the name of its directory, which all its versions share, and a
table of entries for each kind of item. What a bundle drops, its items drop too.
-/

namespace EditorBundles.Catalog
set_option autoImplicit false
open PropertyList

/-- One value for each kind of item. -/
structure PerKind (α : Type) where
  languages : α
  commands : α
  snippets : α
  dragCommands : α
  preferences : α
  keyMacros : α
  deriving DecidableEq, Repr, Inhabited

namespace PerKind

variable {α : Type}

/-- The value for a kind. -/
def get (p : PerKind α) : ItemKind → α
  | .language => p.languages
  | .command => p.commands
  | .snippet => p.snippets
  | .dragCommand => p.dragCommands
  | .preference => p.preferences
  | .keyMacro => p.keyMacros

/-- Puts another value for a kind. -/
def set (p : PerKind α) (kind : ItemKind) (value : α) : PerKind α :=
  match kind with
  | .language => { p with languages := value }
  | .command => { p with commands := value }
  | .snippet => { p with snippets := value }
  | .dragCommand => { p with dragCommands := value }
  | .preference => { p with preferences := value }
  | .keyMacro => { p with keyMacros := value }

/-- The same value for every kind. -/
def replicate (value : α) : PerKind α := ⟨value, value, value, value, value, value⟩

/-- The values in the order of the kinds. -/
def toList (p : PerKind α) : List α := ItemKind.all.map p.get

/-- The values of a list, in the order of the kinds. -/
def ofList? : List α → Option (PerKind α)
  | [a, b, c, d, e, f] => some ⟨a, b, c, d, e, f⟩
  | _ => none

@[simp] theorem get_set_self (p : PerKind α) (kind : ItemKind) (value : α) : (p.set kind value).get kind = value := by
  cases kind <;> rfl

theorem get_set_of_ne (p : PerKind α) {kind other : ItemKind} (h : other ≠ kind) (value : α) :
    (p.set kind value).get other = p.get other := by
  cases kind <;> cases other <;> first | rfl | exact absurd rfl h

theorem set_get (p : PerKind α) (kind : ItemKind) : p.set kind (p.get kind) = p := by
  cases kind <;> rfl

theorem set_set (p : PerKind α) (kind : ItemKind) (first second : α) : (p.set kind first).set kind second = p.set kind second := by
  cases kind <;> rfl

theorem ofList?_toList (p : PerKind α) : ofList? p.toList = some p := rfl

end PerKind

/-- A bundle. `dirName` is empty until a new bundle is first saved. -/
structure Bundle where
  entry : Entry := {}
  dirName : String := ""
  items : PerKind (EntryTable Entry) := .replicate {}
  deriving DecidableEq, Repr, Inhabited

namespace Bundle

/-- Drops localities from the items of several kinds. -/
def dropItems (loc : Locality) (items : PerKind (EntryTable Entry)) (docs : DocumentTable) :
    List ItemKind → PerKind (EntryTable Entry) × DocumentTable
  | [] => (items, docs)
  | kind :: kinds =>
    let (table, docs) := (items.get kind).dropAll loc docs
    dropItems loc (items.set kind table) docs kinds

end Bundle

instance : Row Bundle where
  entry := Bundle.entry
  withEntry b e := { b with entry := e }
  ofEntry e := { entry := e }
  release loc b docs :=
    let (items, docs) := Bundle.dropItems loc b.items docs ItemKind.all
    ({ b with items }, docs)
  entry_withEntry _ _ := rfl
  entry_ofEntry _ := rfl
  entry_release _ _ _ := rfl

end EditorBundles.Catalog
