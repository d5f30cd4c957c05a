import EditorBundles.Proofs.Snippet.CommandEnvironment
import EditorBundles.Proofs.Snippet.ExpandedParts
import EditorBundles.Proofs.Snippet.FirstWrites

/-!
# Starting a snippet

A snippet starts as a whole or not at all. If what is expanded of its template transforms a tab stop that nothing defines,
the buffer is left as it is. Otherwise its text goes in at the cursor, and whatever mirrors, substitutions and commands make
of it stays between what stood before the cursor and what stood behind.
-/

namespace EditorBundles.Snippet.Editor
set_option autoImplicit false
open Text (byteLength IsBoundary)

/-- The buffer of an editor has some text between two others, and its session, if it has one, lies on it. -/
def Encloses (e : Editor) (before after : List Char) : Prop :=
  ∃ region, e.buffer.text = before ++ region ++ after ∧ ∀ s, e.session = some s → s.Over e.buffer before region after

variable {e e' : Editor} {s : Session} {stop : Stop} {before l old r after region : List Char}

theorem encloses_of_inactive (none_ : e.session = none) (text : e.buffer.text = before ++ region ++ after) :
    e.Encloses before after :=
  ⟨region, text, fun s found => by simp [none_] at found⟩

theorem Encloses.clear (h : e.Encloses before after) : e.clear.Encloses before after := by
  obtain ⟨region, text, -⟩ := h
  exact encloses_of_inactive rfl text

end EditorBundles.Snippet.Editor
