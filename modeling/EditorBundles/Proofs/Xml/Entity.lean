import EditorBundles.Xml.Entity

/-!
# Escaping and reading back

A text that has been escaped holds no `<`, and reading its entities gives the text back.
-/

namespace EditorBundles.Xml.Entity
set_option autoImplicit false
open Text (byteLength)

theorem escape_cons (c : Char) (cs : List Char) : escape (c :: cs) = escapeChar c ++ escape cs := rfl

/-- A character is written as it is or by a name of letters. -/
theorem escapeChar_cases (c : Char) :
    (escapeChar c = [c] ∧ c ≠ '<' ∧ c ≠ '&') ∨
      ∃ name, escapeChar c = '&' :: (name ++ [';']) ∧ named? name = some c ∧ ∀ x ∈ name, x.isAlpha := by
  unfold escapeChar
  by_cases lt : c = '<'
  · exact .inr ⟨['l', 't'], by simp [lt], by rw [lt]; rfl, List.all_eq_true.1 rfl⟩
  by_cases gt : c = '>'
  · exact .inr ⟨['g', 't'], by simp [gt], by rw [gt]; rfl, List.all_eq_true.1 rfl⟩
  by_cases amp : c = '&'
  · exact .inr ⟨['a', 'm', 'p'], by simp [amp], by rw [amp]; rfl, List.all_eq_true.1 rfl⟩
  by_cases apos : c = '\''
  · exact .inr ⟨['a', 'p', 'o', 's'], by simp [apos], by rw [apos]; rfl, List.all_eq_true.1 rfl⟩
  by_cases quot : c = '"'
  · exact .inr ⟨['q', 'u', 'o', 't'], by simp [quot], by rw [quot]; rfl, List.all_eq_true.1 rfl⟩
  · exact .inl ⟨by simp [lt, gt, amp, apos, quot], lt, amp⟩

theorem lt_not_mem_escape (cs : List Char) : '<' ∉ escape cs := by
  intro member
  obtain ⟨c, -, inside⟩ := List.mem_flatMap.1 member
  rcases escapeChar_cases c with ⟨same, notLt, -⟩ | ⟨name, same, -, letters⟩
  · rw [same, List.mem_singleton] at inside
    exact notLt inside.symm
  · rw [same] at inside
    have within : '<' ∈ name := by simpa using inside
    exact absurd (letters _ within) (by decide)

theorem escape_ne_nil {cs : List Char} (h : cs ≠ []) : escape cs ≠ [] := by
  obtain ⟨c, cs, rfl⟩ := List.exists_cons_of_ne_nil h
  rw [escape_cons]
  rcases escapeChar_cases c with ⟨same, -⟩ | ⟨name, same, -⟩
  · simp [same]
  · simp [same]

/-- A name between `&` and `;` is read as the character that it stands for. -/
theorem unescapeFrom_named (total pos : Nat) {name rest text : List Char} {c : Char}
    (named : named? name = some c)
    (letters : ∀ x ∈ name, x.isAlpha) (read : unescapeFrom total (pos + byteLength name + 2) rest = .ok text) :
    unescapeFrom total pos ('&' :: (name ++ ';' :: rest)) = .ok (c :: text) := by
  have plain : ∀ x ∈ name, (!endsBody x) = true := by
    intro x member
    have letter := letters x member
    by_cases amp : x = '&'
    · subst amp
      exact absurd letter (by decide)
    by_cases semicolon : x = ';'
    · subst semicolon
      exact absurd letter (by decide)
    simp [endsBody, amp, semicolon]
  have body : (name ++ ';' :: rest).takeWhile (fun c => !endsBody c) = name := by
    rw [List.takeWhile_append_of_pos plain]
    simp [endsBody]
  have resolved : resolve pos name = .ok c := by
    unfold resolve
    split
    · exact absurd (letters '#' List.mem_cons_self) (by decide)
    · rw [named]
  have behind : (name ++ ';' :: rest).drop (name.length + 1) = rest := by simp [List.drop_append]
  rw [unescapeFrom]
  simp only [body, List.drop_left, if_true, resolved, behind, read]

/-- A character that is no ampersand is read as it is. -/
theorem unescapeFrom_cons (total pos : Nat) {c : Char} {rest text : List Char} (notAmp : c ≠ '&')
    (read : unescapeFrom total (pos + c.utf8Size) rest = .ok text) :
    unescapeFrom total pos (c :: rest) = .ok (c :: text) := by
  rw [unescapeFrom, if_neg notAmp, read]

/-- What has been escaped is read as it was. -/
theorem unescape_escape (cs : List Char) : unescape (escape cs) = .ok cs := by
  have anywhere (total pos : Nat) : unescapeFrom total pos (escape cs) = .ok cs := by
    induction cs generalizing pos with
    | nil => rw [escape, List.flatMap_nil, unescapeFrom]
    | cons c cs ih =>
      rw [escape_cons]
      rcases escapeChar_cases c with ⟨same, -, notAmp⟩ | ⟨name, same, named, letters⟩
      · rw [same]
        exact unescapeFrom_cons total pos notAmp (ih _)
      · rw [same, List.cons_append, List.append_assoc]
        exact unescapeFrom_named total pos named letters (ih _)
  exact anywhere _ 0

end EditorBundles.Xml.Entity
