import EditorBundles.Catalog.Items
import EditorBundles.Snippet.Editor

/-!
# Snippets of bundles

A snippet of a bundle is expanded with the variables of the bundle, which come before those that an
editor has.
-/

namespace EditorBundles.Catalog
set_option autoImplicit false
open Snippet (Buffer Editor Environment Runner TemplateFault)

/-- The environment that the snippets of a bundle are expanded with. -/
def snippetEnvironment? (c : Catalog) (b : Nat) (base : Environment) : Option Environment := do
  let vars ← c.bundleEnvironment? b
  return base.extend (vars.map fun v => (v.1.toList, v.2.toList))

/-- What became of a snippet that was to be inserted. -/
inductive Insertion where
  | started
  | missing
  | faulty (fault : TemplateFault)
  deriving DecidableEq, Repr

/-- Starts the snippet in an item at the cursor. Nothing happens where the item has no version in effect or
no content. -/
def insertSnippet? (c : Catalog) (b i : Nat) (base : Environment) (runner : Runner) (e : Editor) :
    Option (Insertion × Editor) := do
  let d ← c.itemDoc? .snippet b i
  match d.bind (·.rootString? "content") with
  | none => return (.missing, e)
  | some content =>
    let env ← c.snippetEnvironment? b base
    match ← e.start? runner content.toList env with
    | (some fault, e) => return (.faulty fault, e)
    | (none, e) => return (.started, e)

end EditorBundles.Catalog
