import EditorBundles.Catalog.Locality
import EditorBundles.PropertyList.DocumentTable

/-!
# Entries

An entry stands for one bundle, theme or bundle item and names up to two documents: the factory
version, which is the installed one where there is one and else the pristine one, and the user's own
version. The own version is in effect before the factory version, and nothing is while the entry is
hidden.
-/

namespace EditorBundles.Catalog
set_option autoImplicit false
open PropertyList

/-- A bundle, theme or bundle item. `name` and `uuid` are those of the document registered last.
`shadowedFile` is the file of a pristine version behind an installed one. -/
structure Entry where
  uuid : String := ""
  name : String := ""
  locality : Locality := {}
  modified : Bool := false
  factoryDoc : Option Nat := none
  ownDoc : Option Nat := none
  shadowedFile : Option String := none
  deriving DecidableEq, Repr, Inhabited

namespace Entry

/-- What stands in the place of an entry that is gone. -/
def tombstone : Entry := { locality := { deleted := true } }

/-- Is the entry gone? -/
def isTombstone (e : Entry) : Bool := e.locality.deleted

/-- Is a version in effect? -/
def isVisible (e : Entry) : Bool := e.locality.hasSource && !e.locality.isHidden

/-- Has the user a version of their own? -/
def isEditable (e : Entry) : Bool := e.locality.own

/-- The document in effect. -/
def resolve (e : Entry) : Option Nat :=
  if e.locality.isHidden then none
  else if e.locality.own then e.ownDoc
  else if e.locality.isFactory then e.factoryDoc
  else none

/-- A hidden entry has no document in effect. -/
theorem resolve_eq_none_of_isHidden (e : Entry) (h : e.locality.isHidden = true) : e.resolve = none := by
  simp [resolve, h]

/-- The document behind a locality. -/
def docFor (e : Entry) (loc : Locality) : Option Nat := if loc.own then e.ownDoc else e.factoryDoc

/-- Has the user a version that no file holds yet? -/
def hasUnsavedOwn (e : Entry) (docs : DocumentTable) : Bool :=
  e.locality.own && e.ownDoc.any fun doc => (docs.get doc).modTime = 0

/-- The entry with the name and the identity of a document, as far as the document has them. -/
def identify (e : Entry) (d : Document) : Entry :=
  { e with
    uuid := (d.rootString? "uuid").getD e.uuid
    name := (d.rootString? "name").getD e.name }

/-- A new entry for a document. -/
def new (loc : Locality) (doc : Nat) : Entry :=
  if loc.own then { locality := loc, ownDoc := some doc } else { locality := loc, factoryDoc := some doc }

end Entry

/-- Deletes a document, if there is one. -/
def dropDoc (docs : DocumentTable) : Option Nat → DocumentTable
  | some doc => docs.delete doc
  | none => docs

/-- What a table of entries has in its rows: an entry, perhaps with tables of its own. -/
class Row (ρ : Type) where
  /-- The entry of a row. -/
  entry : ρ → Entry
  /-- The row with another entry. -/
  withEntry : ρ → Entry → ρ
  /-- A new row. -/
  ofEntry : Entry → ρ
  /-- Drops localities from the tables of a row. -/
  release : Locality → ρ → DocumentTable → ρ × DocumentTable
  entry_withEntry : ∀ row e, entry (withEntry row e) = e
  entry_ofEntry : ∀ e, entry (ofEntry e) = e
  entry_release : ∀ loc row docs, entry (release loc row docs).1 = entry row

attribute [simp] Row.entry_withEntry Row.entry_ofEntry Row.entry_release

instance : Row Entry where
  entry e := e
  withEntry _ e := e
  ofEntry e := e
  release _ e docs := (e, docs)
  entry_withEntry _ _ := rfl
  entry_ofEntry _ := rfl
  entry_release _ _ _ := rfl

end EditorBundles.Catalog
