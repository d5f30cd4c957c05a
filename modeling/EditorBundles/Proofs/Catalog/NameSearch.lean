import EditorBundles.Proofs.Catalog.CachedNames
import EditorBundles.Proofs.Catalog.PlainNames
import EditorBundles.Proofs.FileSystem.Replacing

/-!
# The search for a free name

The names of a directory are as many as its entries, and the candidates are all different. So the search for a free name
ends after as many looks as there are entries, and one more, at the first candidate that the directory does not list.
What it finds is a legal name, and a scan takes it for a file of the kind that it was made for.
-/

namespace EditorBundles.Text
set_option autoImplicit false

/-! ## Lower case -/

variable {back : List Char}

/-- Without a capital sigma each character of a text is mapped by itself. -/
theorem lowerFrom_of_not_mem (plain : 'Σ' ∉ back) (before : List Char) :
    lowerFrom before back = back.flatMap lowerChar := by
  induction back generalizing before with
  | nil => rfl
  | cons c rest ih =>
    rw [List.mem_cons, not_or] at plain
    rw [lowerFrom, if_neg (Ne.symm plain.1), ih plain.2, List.flatMap_cons]

/-- The lower case of a text without a capital sigma is the same at the end of any other text. -/
theorem exists_lowerFrom_append (plain : 'Σ' ∉ back) (front before : List Char) :
    ∃ lowered, lowerFrom before (front ++ back) = lowered ++ back.flatMap lowerChar := by
  induction front generalizing before with
  | nil => exact ⟨[], lowerFrom_of_not_mem plain before⟩
  | cons c front ih =>
    obtain ⟨lowered, same⟩ := ih (c :: before)
    rw [List.cons_append, lowerFrom, same, ← List.append_assoc]
    exact ⟨_, rfl⟩

end EditorBundles.Text

namespace EditorBundles.FileSystem
set_option autoImplicit false

variable {fs : FileSystem} {place : Place} {dir name : String}

/-! ## Entries of a directory -/

/-- A path leads on where a name behind it does. -/
theorem resolve_of_join (present : dir ≠ "") (isName : IsFileName name)
    (resolved : fs.resolve (Path.join dir name) = .ok place) : fs.resolve dir = .ok (Path.place dir) := by
  obtain ⟨⟨legal, -, relative⟩, followed⟩ := resolve_eq_ok.1 resolved
  obtain ⟨slash, -, chars⟩ := Path.toList_join dir isName.relative
  rw [Path.isAbsolute_join present isName.relative] at relative
  rw [chars, List.mem_append, not_or] at legal
  rw [isName.parts_join, follow_append] at followed
  cases front : fs.follow [] (Path.parts dir) with
  | error fault =>
    rw [front] at followed
    cases followed
  | ok before =>
    obtain rfl := place_of_follow front
    exact resolve_eq_ok.2 ⟨⟨legal.1, present, relative⟩, front⟩

/-- A directory lists just the names that lead somewhere from it. -/
theorem Regular.pathExists_join_iff (regular : fs.Regular) (present : dir ≠ "") (plain : Path.IsPlain name)
    (named : name ≠ "") : fs.pathExists (Path.join dir name) = true ↔ name ∈ (fs.children dir).map Prod.fst := by
  constructor
  · intro taken
    rw [pathExists] at taken
    cases located : fs.locate (Path.join dir name) with
    | error fault =>
      rw [located] at taken
      cases taken
    | ok found =>
      obtain ⟨place, node⟩ := found
      obtain ⟨resolved, there, -⟩ := locate_eq_ok.1 located
      obtain ⟨⟨mode, modified, directory⟩, isName, -⟩ := hasDirectory_of_resolve_join plain named resolved
      have around : fs.locate dir = .ok (Path.place dir, .directory mode modified) :=
        locate_eq_ok.2 ⟨resolve_of_join present isName resolved, directory, fun _ => rfl⟩
      rw [place_of_resolve resolved, plain.place_join named] at there
      have listed : (name, node) ∈ fs.children dir := by
        rw [children_eq around rfl, mem_childrenAt]
        exact mem_of_node? there
      exact List.mem_map_of_mem (f := Prod.fst) listed
  · intro listed
    obtain ⟨⟨_, node⟩, entry, rfl⟩ := List.mem_map.1 listed
    dsimp only
    cases located : fs.locate dir with
    | error fault =>
      rw [children, located] at entry
      cases entry
    | ok found =>
      obtain ⟨place, file | ⟨mode, modified⟩⟩ := found
      · rw [children, located] at entry
        cases entry
      · obtain ⟨-, there⟩ := regular.locate_child located rfl entry
        rw [pathExists, there]
        rfl

/-- A directory has no more entries than there are nodes. -/
theorem length_children_le (fs : FileSystem) (dir : String) : (fs.children dir).length ≤ fs.nodes.length := by
  rw [children]
  split
  · exact List.length_filterMap_le _ _
  · exact Nat.zero_le _

end EditorBundles.FileSystem

namespace EditorBundles.Catalog
set_option autoImplicit false

variable {fs : FileSystem} {dir base name extension : String}

/-! ## Extensions -/

/-- The extensions of what a catalog finds and makes. -/
def extensions : List String := [".plist", ".tmTheme", ".tmbundle"] ++ ItemKind.all.map ItemKind.extension

theorem isExtension_of_mem (used : extension ∈ extensions) : IsExtension extension := by
  have all : ∀ extension ∈ extensions, '/' ∉ extension.toList ∧ 2 ≤ extension.toList.length := by decide
  exact ⟨(all extension used).1, (all extension used).2⟩

theorem legal_of_mem_extensions (used : extension ∈ extensions) : ∀ c ∈ extension.toList, isIllegal c = false := by
  have all : ∀ extension ∈ extensions, extension.toList.any isIllegal = false := by decide
  simpa using all extension used

theorem sigma_not_mem_extension (used : extension ∈ extensions) : 'Σ' ∉ extension.toList := by
  have all : ∀ extension ∈ extensions, 'Σ' ∉ extension.toList := by decide
  exact all extension used

/-! ## Candidates -/

/-- Whatever stands before an extension, the extension is found. -/
theorem hasExtension_candidate (used : extension ∈ extensions) (base : String) (n : Nat) :
    hasExtension (candidate base extension n) extension = true := by
  have plain := sigma_not_mem_extension used
  obtain ⟨lowered, same⟩ :=
    Text.exists_lowerFrom_append plain (base.toList ++ if n = 0 then [] else Nat.toDigits 10 n) []
  rw [hasExtension, Text.lower, Text.lower, String.toList_ofList, String.toList_ofList, toList_candidate,
    ← List.append_assoc, same, Text.lowerFrom_of_not_mem plain, List.isSuffixOf_iff_suffix]
  exact List.suffix_append _ _

theorem legal_legalName (name : String) : ∀ c ∈ (legalName name).toList, isIllegal c = false := by
  rw [legalName]
  split
  · have new : "New".toList.any isIllegal = false := by decide
    simpa using new
  · intro c member
    rw [String.toList_ofList, List.mem_filter] at member
    simpa using member.2

theorem legal_digit {c : Char} (digit : c.isDigit = true) : isIllegal c = false := by
  have none_ : ['\\', '/', ':', '*', '?', '"', '<', '>', '|'].any Char.isDigit = false := by decide
  rw [isIllegal, ← Bool.not_eq_true, List.contains_iff_mem]
  intro illegal
  exact List.any_eq_false.1 none_ c illegal digit

theorem legal_candidate (used : extension ∈ extensions) (n : Nat) :
    ∀ c ∈ (candidate (legalName name) extension n).toList, isIllegal c = false := by
  intro c member
  rw [toList_candidate, List.mem_append, List.mem_append] at member
  rcases member with base | number | last
  · exact legal_legalName name c base
  · split at number
    · cases number
    · exact legal_digit (Nat.isDigit_of_mem_toDigits (by decide) (by decide) number)
  · exact legal_of_mem_extensions used c last

/-- Of more candidates than names one is none of the names. -/
theorem exists_candidate_not_mem (base extension : String) (names : List String) :
    ∃ m ≤ names.length, candidate base extension m ∉ names := by
  by_contra all
  push Not at all
  have among : (List.range (names.length + 1)).map (candidate base extension) ⊆ names := by
    intro tried member
    obtain ⟨m, low, rfl⟩ := List.mem_map.1 member
    exact all m (Nat.le_of_lt_succ (List.mem_range.1 low))
  have distinct : ((List.range (names.length + 1)).map (candidate base extension)).Nodup :=
    List.Nodup.map (fun _ _ same => candidate_inj same) List.nodup_range
  have fewer := (List.subperm_of_subset distinct among).length_le
  rw [List.length_map, List.length_range] at fewer
  omega

/-! ## The search -/

/-- A search for a free name from the nth candidate on: after how many looks it ends, and with which name. -/
inductive Searches (fs : FileSystem) (dir base extension : String) : Nat → Nat → String → Prop
  | found {n : Nat} (free : fs.pathExists (Path.join dir (candidate base extension n)) = false) :
      Searches fs dir base extension n 1 (candidate base extension n)
  | next {n looks : Nat} {result : String} (taken : fs.pathExists (Path.join dir (candidate base extension n)) = true)
      (rest : Searches fs dir base extension (n + 1) looks result) : Searches fs dir base extension n (looks + 1) result

/-- Where candidates are taken and the one behind them is free, the search ends there. -/
theorem searches_freeNameFrom {k fuel n : Nat} (enough : k ≤ fuel)
    (taken : ∀ j < k, fs.pathExists (Path.join dir (candidate base extension (n + j))) = true)
    (free : fs.pathExists (Path.join dir (candidate base extension (n + k))) = false) :
    freeNameFrom fs dir base extension fuel n = candidate base extension (n + k) ∧
      Searches fs dir base extension n (k + 1) (candidate base extension (n + k)) := by
  induction k generalizing fuel n with
  | zero =>
    refine ⟨?_, .found free⟩
    cases fuel with
    | zero => rfl
    | succ fuel =>
      rw [freeNameFrom]
      exact if_neg (Bool.eq_false_iff.1 free)
  | succ k ih =>
    obtain ⟨fuel, rfl⟩ := Nat.exists_eq_add_of_le' (Nat.le_trans (Nat.succ_pos k) enough)
    have shift (j : Nat) : n + 1 + j = n + (j + 1) := by omega
    have first := taken 0 (Nat.succ_pos k)
    have fewer : k ≤ fuel := by omega
    obtain ⟨chosen, searched⟩ := ih (n := n + 1) fewer
      (fun j low => shift j ▸ taken (j + 1) (by omega)) (shift k ▸ free)
    rw [shift] at chosen searched
    refine ⟨?_, .next first searched⟩
    rw [freeNameFrom]
    exact (if_pos first).trans chosen

/-- The search for a name ends, after at most one look more than the directory has entries, with the first candidate that
is no entry. Its characters are legal, and it has the extension that it was made with. -/
theorem searches_freeName (regular : fs.Regular) (present : dir ≠ "") (used : extension ∈ extensions)
    (name : String) : ∃ m ≤ (fs.children dir).length,
      Searches fs dir (legalName name) extension 0 (m + 1) (freeName fs dir name extension) ∧
      freeName fs dir name extension = candidate (legalName name) extension m ∧
      candidate (legalName name) extension m ∉ (fs.children dir).map Prod.fst ∧
      (∀ k < m, candidate (legalName name) extension k ∈ (fs.children dir).map Prod.fst) ∧
      (∀ c ∈ (freeName fs dir name extension).toList, isIllegal c = false) ∧
      hasExtension (freeName fs dir name extension) extension = true := by
  have h := isExtension_of_mem used
  have listed (n : Nat) := regular.pathExists_join_iff present (h.isPlain_candidate name n)
    (h.candidate_ne_of_short name (by decide) n)
  obtain ⟨bound, low, unlisted⟩ :=
    exists_candidate_not_mem (legalName name) extension ((fs.children dir).map Prod.fst)
  rw [List.length_map] at low
  have some_ : ∃ m, candidate (legalName name) extension m ∉ (fs.children dir).map Prod.fst := ⟨bound, unlisted⟩
  obtain ⟨m, first, least⟩ : ∃ m, candidate (legalName name) extension m ∉ (fs.children dir).map Prod.fst ∧
      ∀ k < m, candidate (legalName name) extension k ∈ (fs.children dir).map Prod.fst :=
    ⟨Nat.find some_, Nat.find_spec some_, fun k sooner => not_not.1 (Nat.find_min some_ sooner)⟩
  have few : m ≤ (fs.children dir).length := by
    by_contra many
    exact unlisted (least bound (by omega))
  have enough : m ≤ fs.nodes.length + 2 := by
    have nodes := fs.length_children_le dir
    omega
  obtain ⟨chosen, searched⟩ := searches_freeNameFrom (n := 0) enough
    (fun k sooner => by
      rw [Nat.zero_add]
      exact (listed k).2 (least k sooner))
    (by
      rw [Nat.zero_add, ← Bool.not_eq_true, listed]
      exact first)
  rw [Nat.zero_add, ← freeName] at chosen
  rw [Nat.zero_add, ← chosen] at searched
  refine ⟨m, few, searched, chosen, first, least, ?_, ?_⟩
  · rw [chosen]
    exact legal_candidate used m
  · rw [chosen]
    exact hasExtension_candidate used _ m

/-- A directory with two snippets, one of them a directory itself. -/
def twoSnippets : FileSystem := { nodes := [
  ([], .directory 0o755 0), (["Snippets"], .directory 0o755 0), (["Snippets", "Hi.tmSnippet"], .file .empty 0o644 0),
  (["Snippets", "Hi1.tmSnippet"], .directory 0o755 0)] }

theorem regular_twoSnippets : twoSnippets.Regular where
  single := by decide
  named := by
    have snippets : IsFileName "Snippets" := ⟨by decide, by decide, by decide, by decide, by decide⟩
    have plain : IsFileName "Hi.tmSnippet" := ⟨by decide, by decide, by decide, by decide, by decide⟩
    have numbered : IsFileName "Hi1.tmSnippet" := ⟨by decide, by decide, by decide, by decide, by decide⟩
    simp [twoSnippets, Entries.keys, snippets, plain, numbered]

/-- The name that a third snippet is given. -/
theorem searches_freeName_third : ∃ looks ≤ 3,
    Searches twoSnippets "Snippets" "Hi" ".tmSnippet" 0 looks (freeName twoSnippets "Snippets" "H/i" ".tmSnippet") ∧
    freeName twoSnippets "Snippets" "H/i" ".tmSnippet" = "Hi2.tmSnippet" := by
  have snippets : IsFileName "Snippets" := ⟨by decide, by decide, by decide, by decide, by decide⟩
  have located : twoSnippets.locate "Snippets" = .ok (["Snippets"], .directory 0o755 0) :=
    locate_name snippets rfl rfl rfl rfl
  have entries : (twoSnippets.children "Snippets").map Prod.fst = ["Hi.tmSnippet", "Hi1.tmSnippet"] := by
    rw [FileSystem.children_eq located rfl]
    rfl
  have base : legalName "H/i" = "Hi" := by decide
  obtain ⟨m, few, searched, chosen, free, -⟩ :=
    searches_freeName regular_twoSnippets snippets.present (show ".tmSnippet" ∈ extensions by decide) "H/i"
  rw [← List.length_map Prod.fst, entries] at few
  rw [entries] at free
  rw [base] at searched chosen free
  refine ⟨m + 1, Nat.succ_le_succ few, searched, chosen.trans ?_⟩
  obtain rfl : m = 2 := by
    match m, few, free with
    | 0, _, free => exact absurd (by decide) free
    | 1, _, free => exact absurd (by decide) free
    | 2, _, _ => rfl
  decide

end EditorBundles.Catalog
