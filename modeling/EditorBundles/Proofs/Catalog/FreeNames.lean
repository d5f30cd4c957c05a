import EditorBundles.Catalog.FileName
import EditorBundles.Catalog.ItemKind
import EditorBundles.Proofs.FileSystem.Lookup
import Mathlib.Data.List.Nodup
import Mathlib.Data.List.Perm.Subperm

/-!
# Names that are free

A name that is chosen for something new names nothing in its directory. The candidates are all different, and there
are more of them than nodes, so that one of them is free.
-/

namespace EditorBundles.Catalog
set_option autoImplicit false

/-! ## Candidates -/

theorem legalName_ne_nil (name : String) : (legalName name).toList ≠ [] := by
  rw [legalName]
  split
  · decide
  · rename_i some_
    rwa [String.toList_ofList]

theorem slash_not_mem_legalName (name : String) : '/' ∉ (legalName name).toList := by
  rw [legalName]
  split
  · decide
  · rw [String.toList_ofList, List.mem_filter]
    rintro ⟨-, legal⟩
    cases legal

theorem toList_candidate (base extension : String) (n : Nat) :
    (candidate base extension n).toList = base.toList ++ ((if n = 0 then [] else Nat.toDigits 10 n) ++ extension.toList) := by
  cases n with
  | zero => simp [candidate]
  | succ n => simp [candidate]

/-- Different numbers give different candidates. -/
theorem candidate_inj {base extension : String} {m n : Nat} (same : candidate base extension m = candidate base extension n) :
    m = n := by
  have chars := congrArg String.toList same
  rw [toList_candidate, toList_candidate, List.append_cancel_left_eq, List.append_cancel_right_eq] at chars
  cases m with
  | zero =>
    cases n with
    | zero => rfl
    | succ n => exact absurd chars.symm Nat.toDigits_ne_nil
  | succ m =>
    cases n with
    | zero => exact absurd chars Nat.toDigits_ne_nil
    | succ n =>
      have digits : Nat.toDigits 10 (m + 1) = Nat.toDigits 10 (n + 1) := chars
      rw [← Nat.ofDigitChars_ten_toDigits (n := m + 1), digits, Nat.ofDigitChars_ten_toDigits]

/-- An extension that has no slash is the end of names that lead down. -/
structure IsExtension (extension : String) : Prop where
  single : '/' ∉ extension.toList
  long : 2 ≤ extension.toList.length

theorem isExtension_theme : IsExtension ".tmTheme" := ⟨by decide, by decide⟩

theorem isExtension_bundle : IsExtension ".tmbundle" := ⟨by decide, by decide⟩

theorem ItemKind.isExtension (kind : ItemKind) : IsExtension kind.extension := by
  cases kind <;> exact ⟨by decide, by decide⟩

namespace IsExtension

variable {extension : String} (h : IsExtension extension) (name : String)
include h

theorem slash_not_mem_candidate (n : Nat) : '/' ∉ (candidate (legalName name) extension n).toList := by
  rw [toList_candidate, List.mem_append, List.mem_append]
  rintro (base | number | last)
  · exact slash_not_mem_legalName name base
  · split at number
    · cases number
    · cases Nat.isDigit_of_mem_toDigits (by decide) (by decide) number
  · exact h.single last

theorem three_le_candidate (n : Nat) : 3 ≤ (candidate (legalName name) extension n).toList.length := by
  have base := List.length_pos_of_ne_nil (legalName_ne_nil name)
  have long := h.long
  rw [toList_candidate, List.length_append, List.length_append]
  omega

/-- A candidate is neither empty nor a name that leads nowhere else. -/
theorem candidate_ne_of_short {other : String} (short : other.toList.length < 3) (n : Nat) :
    candidate (legalName name) extension n ≠ other := by
  intro same
  have long := h.three_le_candidate name n
  rw [same] at long
  exact absurd short (Nat.not_lt.2 long)

theorem parts_candidate (n : Nat) :
    Path.parts (candidate (legalName name) extension n) = [candidate (legalName name) extension n] :=
  Path.parts_single (h.slash_not_mem_candidate name n) (h.candidate_ne_of_short name (by decide) n)
    (h.candidate_ne_of_short name (by decide) n)

end IsExtension

/-! ## The search -/

/-- The search ends at a candidate that is free, or none was. -/
theorem freeNameFrom_cases (fs : FileSystem) (dir base extension : String) (fuel n : Nat) :
    ∃ m, freeNameFrom fs dir base extension fuel n = candidate base extension m ∧
      (fs.pathExists (Path.join dir (candidate base extension m)) = false ∨
        ∀ k, n ≤ k → k < n + fuel → fs.pathExists (Path.join dir (candidate base extension k)) = true) := by
  induction fuel generalizing n with
  | zero => exact ⟨n, rfl, .inr fun k low high => by omega⟩
  | succ fuel ih =>
    rw [freeNameFrom]
    split
    · rename_i taken
      obtain ⟨m, chosen, free | all⟩ := ih (n + 1)
      · exact ⟨m, chosen, .inl free⟩
      · refine ⟨m, chosen, .inr fun k low high => ?_⟩
        rcases Nat.eq_or_lt_of_le low with rfl | later
        · exact taken
        · exact all k later (by omega)
    · rename_i free
      exact ⟨n, rfl, .inl (Bool.not_eq_true _ ▸ free)⟩

/-- A name leads on from where its directory is. -/
theorem exists_mem_nodes {fs : FileSystem} {dir name : String} (parts : Path.parts name = [name]) (single : '/' ∉ name.toList)
    (down : name ≠ "..") (taken : fs.pathExists (Path.join dir name) = true) :
    ∃ directory, fs.follow [] (Path.parts dir) = .ok directory ∧ directory ++ [name] ∈ Entries.keys fs.nodes := by
  rw [FileSystem.pathExists] at taken
  cases located : fs.locate (Path.join dir name) with
  | error fault =>
    rw [located] at taken
    cases taken
  | ok found =>
    obtain ⟨place, node⟩ := found
    obtain ⟨resolved, there, -⟩ := FileSystem.locate_eq_ok.1 located
    obtain ⟨-, followed⟩ := FileSystem.resolve_eq_ok.1 resolved
    rw [Path.parts_join dir (Path.isAbsolute_single single), parts, FileSystem.follow_append] at followed
    cases front : fs.follow [] (Path.parts dir) with
    | error fault =>
      rw [front] at followed
      cases followed
    | ok directory =>
      rw [front] at followed
      change fs.follow directory [name] = .ok place at followed
      rw [FileSystem.follow] at followed
      split at followed
      · cases followed
      · cases followed
      · rw [if_neg down] at followed
        split at followed
        · cases followed
        · obtain rfl := Except.ok.inj followed
          exact ⟨directory, rfl, Entries.mem_keys_of_get? there⟩

/-- Nothing in the directory has the name that is chosen. -/
theorem pathExists_freeName (fs : FileSystem) (dir name : String) {extension : String} (h : IsExtension extension) :
    fs.pathExists (Path.join dir (freeName fs dir name extension)) = false := by
  obtain ⟨m, chosen, free | all⟩ := freeNameFrom_cases fs dir (legalName name) extension (fs.nodes.length + 2) 0
  · rw [freeName, chosen]
    exact free
  -- all candidates that were tried would be nodes of one directory, and there are more of them than nodes
  · exfalso
    have down (k : Nat) : candidate (legalName name) extension k ≠ ".." := h.candidate_ne_of_short name (by decide) k
    have node (k : Nat) (tried : k < fs.nodes.length + 2) := exists_mem_nodes (h.parts_candidate name k)
      (h.slash_not_mem_candidate name k) (down k) (all k (Nat.zero_le k) (by omega))
    obtain ⟨directory, followed, -⟩ := node 0 (by omega)
    have places : (List.range (fs.nodes.length + 2)).map (fun k => directory ++ [candidate (legalName name) extension k]) ⊆
        Entries.keys fs.nodes := by
      intro place member
      obtain ⟨k, tried, rfl⟩ := List.mem_map.1 member
      obtain ⟨directory', followed', there⟩ := node k (List.mem_range.1 tried)
      rw [followed] at followed'
      obtain rfl := Except.ok.inj followed'
      exact there
    have distinct : ((List.range (fs.nodes.length + 2)).map
        fun k => directory ++ [candidate (legalName name) extension k]).Nodup := by
      refine List.Nodup.map (fun k k' same => ?_) List.nodup_range
      exact candidate_inj (List.singleton_injective (List.append_cancel_left same))
    have fewer := (List.subperm_of_subset distinct places).length_le
    rw [List.length_map, List.length_range, Entries.keys, List.length_map] at fewer
    omega

/-- What is chosen is a name. -/
theorem freeName_ne_empty (fs : FileSystem) (dir name : String) {extension : String} (h : IsExtension extension) :
    freeName fs dir name extension ≠ "" := by
  obtain ⟨m, chosen, -⟩ := freeNameFrom_cases fs dir (legalName name) extension (fs.nodes.length + 2) 0
  rw [freeName, chosen]
  exact h.candidate_ne_of_short name (by decide) m

/-- The first candidate is chosen if it is free. -/
theorem freeName_of_free {fs : FileSystem} {dir name extension : String}
    (free : fs.pathExists (Path.join dir (legalName name ++ extension)) = false) :
    freeName fs dir name extension = legalName name ++ extension := by
  rw [freeName, freeNameFrom]
  exact if_neg (Bool.eq_false_iff.1 free)

/-- Where there are no files the first candidate is free. -/
theorem freeName_bare (dir name : String) {extension : String} (h : IsExtension extension) :
    freeName {} dir name extension = legalName name ++ extension := by
  have free : ¬FileSystem.pathExists {} (Path.join dir (candidate (legalName name) extension 0)) = true := by
    intro taken
    have down : candidate (legalName name) extension 0 ≠ ".." := h.candidate_ne_of_short name (by decide) 0
    obtain ⟨_, -, there⟩ := exists_mem_nodes (h.parts_candidate name 0) (h.slash_not_mem_candidate name 0) down taken
    simp [Entries.keys] at there
  exact freeName_of_free (Bool.eq_false_iff.2 free)

end EditorBundles.Catalog
