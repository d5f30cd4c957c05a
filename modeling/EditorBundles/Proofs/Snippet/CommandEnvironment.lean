import EditorBundles.Proofs.Snippet.Refresh

/-!
# What commands are given

A command that a tab stop is piped through is given the environment of the session, with the text of the snippet up to
its end marker and the text of every tab stop. These are put under names of their own, so none is lost.
-/

namespace EditorBundles.Snippet
set_option autoImplicit false
open Text (byteLength IsBoundary)

/-- The name of the text of the snippet. -/
def snippetName : List Char := "TM_SNIPPET".toList

/-- The name of the text of a tab stop. -/
def stopName (number : Nat) : List Char := "TM_TABSTOP_".toList ++ (toString number).toList

theorem stopName_injective : Function.Injective stopName := by
  intro m n same
  unfold stopName at same
  have digits : Nat.toDigits 10 m = Nat.toDigits 10 n := by
    simpa [Nat.toString_eq_ofList_toDigits] using same
  rw [← Nat.ofDigitChars_ten_toDigits (n := m), digits, Nat.ofDigitChars_ten_toDigits]

theorem snippetName_ne_stopName (number : Nat) : snippetName ≠ stopName number := by
  unfold snippetName stopName
  intro same
  have fourth := congrArg (·[3]?) same
  simp at fourth

namespace Session

/-- An environment is that of a session with the text `front` of the snippet and the texts of all tab stops. -/
structure Gives (s : Session) (region front : List Char) (env : Environment) : Prop where
  snippet : env.get? snippetName = some front
  stops : ∀ number stop, s.stops.get? number = some stop →
    env.get? (stopName number) = s.textIn? region stop.interval
  others : ∀ name, name ≠ snippetName → (∀ number ∈ Entries.keys s.stops, name ≠ stopName number) →
    env.get? name = s.env.get? name

variable {s : Session} {b : Buffer} {before region front back after : List Char}

/-- The texts of tab stops can be read, and each is put under its name. -/
theorem Over.exists_addStopTexts? (h : s.Over b before region after) (env : Environment) {stops : Stops}
    (live : ∀ entry ∈ stops, entry.2.interval ∈ s.liveIds) (distinct : (Entries.keys stops).Nodup) :
    ∃ env', s.addStopTexts? b env stops = some env' ∧
      (∀ entry ∈ stops, env'.get? (stopName entry.1) = s.textIn? region entry.2.interval) ∧
      ∀ name, (∀ number ∈ Entries.keys stops, name ≠ stopName number) → env'.get? name = env.get? name := by
  induction stops generalizing env with
  | nil => exact ⟨env, rfl, nofun, fun _ _ => rfl⟩
  | cons entry stops ih =>
    obtain ⟨number, stop⟩ := entry
    obtain ⟨fresh, distinct⟩ := List.nodup_cons.1 distinct
    obtain ⟨text, read, inRegion⟩ := h.textOf?_eq (live _ List.mem_cons_self)
    obtain ⟨env', added, texts, others⟩ :=
      ih (env.set (stopName number) text) (fun entry member => live entry (List.mem_cons_of_mem _ member)) distinct
    refine ⟨env', ?_, fun entry member => ?_, fun name apart => ?_⟩
    · rw [addStopTexts?]
      simp only [Option.bind_eq_bind, read, Option.bind_some]
      exact added
    · rcases List.mem_cons.1 member with rfl | later
      · -- no later tab stop has this name
        have kept := others (stopName number) fun other member same => fresh (stopName_injective same ▸ member)
        rw [kept, Environment.get?_set, if_pos rfl, inRegion]
      · exact texts entry later
    · have first := apart number List.mem_cons_self
      rw [others name fun other member => apart other (List.mem_cons_of_mem _ member), Environment.get?_set,
        if_neg first]

/-- As long as the end marker is at a place in the snippet, a command can be given its environment. -/
theorem Over.exists_pipeEnvironment? (h : s.Over b before region after) (split : region = front ++ back)
    (finish : s.finish = byteLength front) :
    ∃ env, s.pipeEnvironment? b = some env ∧ s.Gives region front env := by
  have read : b.textOf? s.offset s.finishPosition = some front := by
    rw [Buffer.textOf?, finishPosition, h.offset, h.text, finish, split,
      show before ++ (front ++ back) ++ after = before ++ front ++ (back ++ after) by simp]
    exact Text.slice?_append before front _
  obtain ⟨env, added, texts, others⟩ := h.exists_addStopTexts? (s.env.set snippetName front)
    (fun entry member => mem_liveIds_of_mem_stopIds (List.mem_map_of_mem member)) h.tree.numbers
  refine ⟨env, ?_, ?_, fun number stop found => ?_, fun name other apart => ?_⟩
  · rw [pipeEnvironment?]
    simp only [Option.bind_eq_bind, read, Option.bind_some]
    exact added
  · rw [others snippetName fun number _ => snippetName_ne_stopName number, Environment.get?_set, if_pos rfl]
  · exact texts (number, stop) (Entries.mem_of_get? found)
  · rw [others name apart, Environment.get?_set, if_neg other]

end Session

end EditorBundles.Snippet
