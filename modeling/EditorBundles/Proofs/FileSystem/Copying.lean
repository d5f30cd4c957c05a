import EditorBundles.Proofs.FileSystem.Contents

/-!
# Copying directories

Copying a directory takes its nodes one after the other. Whatever is below the target at any time is what is below the
source there, and nothing that was copied is lost again; in the end all nodes have been copied, and so the two are alike.
-/

namespace EditorBundles
set_option autoImplicit false

namespace Path

variable {dir name : String} {names : List String} {here : Place}

theorem place_foldl_join (named : ∀ name ∈ names, IsFileName name) (dir : String) :
    place (names.foldl join dir) = place dir ++ names := by
  induction names generalizing dir with
  | nil => exact (List.append_nil _).symm
  | cons name names ih =>
    rw [List.forall_mem_cons] at named
    rw [List.foldl_cons, ih named.2, named.1.isPlain.place_join named.1.present, List.append_assoc, List.singleton_append]

/-- Names lead past places below the path that they are joined to. -/
theorem passes_foldl_join (named : ∀ name ∈ names, IsFileName name) (passed : Passes (names.foldl join dir) here) :
    Passes dir here ∨ ∃ front, front <+: names ∧ here = place dir ++ front := by
  induction names generalizing dir with
  | nil => exact .inl passed
  | cons name names ih =>
    rw [List.forall_mem_cons] at named
    have joined := named.1.isPlain.place_join named.1.present dir
    rcases ih named.2 passed with sooner | ⟨front, within, rfl⟩
    · rcases named.1.isPlain.passes_join sooner with sooner | rfl
      · exact .inl sooner
      · exact .inr ⟨[name], List.cons_prefix_cons.2 ⟨rfl, List.nil_prefix⟩, joined⟩
    · refine .inr ⟨name :: front, List.cons_prefix_cons.2 ⟨rfl, within⟩, ?_⟩
      rw [joined, List.append_assoc, List.singleton_append]

end Path

namespace FileSystem

variable {fs fs' g g' : FileSystem} {origin inner : Place} {source target : String} {node : FileNode}
  {nodes : List (Place × FileNode)}

/-- A path does not lead past places below the one that it spells. -/
def Direct (path : String) : Prop := ∀ here, Path.Passes path here → Path.place path <+: here → here = Path.place path

theorem Direct.join {dir name : String} (h : Direct dir) (plain : Path.IsPlain name) (present : name ≠ "") :
    Direct (Path.join dir name) := by
  intro here passed below
  refine (plain.passes_join passed).resolve_left fun sooner => ?_
  rw [plain.place_join present] at below
  obtain rfl := h here sooner ((List.prefix_append _ _).trans below)
  simpa using below.length_le

/-- What is below a target, if anything, is what is below the source. -/
def Mirrors (fs : FileSystem) (origin : Place) (g : FileSystem) (place : Place) : Prop :=
  ∀ inner content, g.contentAt? (place ++ inner) = some content → fs.contentAt? (origin ++ inner) = some content

/-- What is at any place stays. -/
def Extends (g g' : FileSystem) : Prop := ∀ here content, g.contentAt? here = some content → g'.contentAt? here = some content

theorem Extends.trans {g'' : FileSystem} (first : Extends g g') (second : Extends g' g'') : Extends g g'' :=
  fun here content there => second here content (first here content there)

theorem Regular.contentAt?_of_mem (regular : fs.Regular) (member : (inner, node) ∈ fs.nodes) :
    fs.contentAt? inner = some node.content := by
  rw [contentAt?, regular.node?_of_mem member]
  rfl

section Nodes

variable (tree : fs.Tree) (direct : Direct target) (grown : g.Tree) (mirrors : Mirrors fs origin g (Path.place target))
include tree direct grown mirrors

/-- Copying a directory makes it and those around it, as there are in the source. -/
theorem mirrors_createDirectories (named : ∀ name ∈ inner, IsFileName name)
    (directory : fs.contentAt? (origin ++ inner) = some .directory)
    (made : g.createDirectories (inner.foldl Path.join target) = (g', .ok ())) :
    g'.Tree ∧ Mirrors fs origin g' (Path.place target) ∧ Extends g g' ∧
      g'.contentAt? (Path.place target ++ inner) = some .directory := by
  have kept := keepsAll_createDirectories grown (inner.foldl Path.join target)
  rw [made] at kept
  obtain ⟨passing, others⟩ := contentAt?_createDirectories grown made
  refine ⟨kept.tree, fun deeper content there => ?_, fun here content => contentAt?_createDirectories_of_some grown made, ?_⟩
  · by_cases passed : Path.Passes (inner.foldl Path.join target) (Path.place target ++ deeper)
    · rw [passing _ passed] at there
      obtain rfl := Option.some.inj there
      have above : deeper <+: inner := by
        rcases Path.passes_foldl_join named passed with passed | ⟨front, above, same⟩
        · have start : deeper = [] := by simpa using direct _ passed (List.prefix_append _ _)
          exact start ▸ List.nil_prefix
        · exact List.append_cancel_left same ▸ above
      by_cases same : deeper = inner
      · exact same ▸ directory
      · have prefixed : origin ++ deeper <+: origin ++ inner := (List.prefix_append_right_inj origin).2 above
        exact tree.directory_of_prefix (by simp [directory]) prefixed (mt List.append_cancel_left same)
    · exact mirrors deeper content (others _ passed ▸ there)
  · rw [← Path.place_foldl_join named]
    exact passing _ (Path.passes_place _)

variable (regular : fs.Regular)
include regular

/-- Copying a node of the source puts it where it has to be. -/
theorem mirrors_copyNode (top : fs.contentAt? origin = some .directory) (member : (origin ++ inner, node) ∈ fs.nodes)
    (copied : g.copyNode node (inner.foldl Path.join target) = (g', .ok ())) :
    g'.Tree ∧ Mirrors fs origin g' (Path.place target) ∧ Extends g g' ∧
      g'.contentAt? (Path.place target ++ inner) = some node.content := by
  have there := regular.contentAt?_of_mem member
  have named : ∀ name ∈ inner, IsFileName name := fun name within =>
    regular.named _ (List.mem_map_of_mem member) name (List.mem_append_right _ within)
  cases node with
  | directory mode modified => exact mirrors_createDirectories tree direct grown mirrors named there copied
  | file octets mode modified =>
    rw [copyNode] at copied
    split at copied
    · cases copied
    · rename_i place resolved
      obtain rfl := place_of_resolve resolved
      split at copied
      · cases copied
      · rename_i free
        obtain rfl := (Prod.mk.inj copied).1
        have content := contentAt?_putNode g (Path.place (inner.foldl Path.join target)) (.file octets mode g.clock)
        have around : g.HasDirectory (Path.place (inner.foldl Path.join target)).dropLast := by
          rcases List.eq_nil_or_concat' inner with rfl | ⟨front, name, rfl⟩
          · rw [List.append_nil, top] at there
            cases there
          · have isName := named name (by simp)
            rw [List.foldl_append, List.foldl_cons, List.foldl_nil] at resolved ⊢
            rw [isName.isPlain.place_join isName.present, List.dropLast_concat]
            exact (hasDirectory_of_resolve_join isName.isPlain isName.present resolved).1
        have grown' := tree_putNode grown around (fun mode modified found => free mode modified found)
          (.file octets mode g.clock)
        rw [Path.place_foldl_join named] at content grown' ⊢
        refine ⟨grown', fun deeper other found => ?_, fun here other found => ?_, ?_⟩
        · rw [content] at found
          split at found
          · rename_i same
            rw [List.append_cancel_left same, there]
            exact found
          · exact mirrors deeper other found
        · rw [content]
          split
          · rename_i same
            exact there.symm.trans (mirrors inner other (same ▸ found))
          · exact found
        · rw [content, if_pos rfl]
          rfl

/-- Copying nodes of the source puts all of them where they have to be. -/
theorem mirrors_copyNodes (top : fs.contentAt? origin = some .directory)
    (members : ∀ entry ∈ nodes, entry ∈ fs.nodes ∧ origin <+: entry.1)
    (copied : g.copyNodes origin target nodes = (g', .ok ())) :
    g'.Tree ∧ Mirrors fs origin g' (Path.place target) ∧ Extends g g' ∧
      ∀ inner node, (origin ++ inner, node) ∈ nodes → g'.contentAt? (Path.place target ++ inner) = some node.content := by
  induction nodes generalizing g with
  | nil =>
    obtain rfl := (Prod.mk.inj copied).1
    exact ⟨grown, mirrors, fun _ _ there => there, nofun⟩
  | cons entry nodes ih =>
    obtain ⟨place, node⟩ := entry
    rw [List.forall_mem_cons] at members
    obtain ⟨⟨member, inner, rfl⟩, members⟩ := members
    rw [copyNodes, List.drop_left] at copied
    split at copied
    · cases copied
    · rename_i g₁ first
      obtain ⟨grown₁, mirrors₁, extends₁, here⟩ := mirrors_copyNode tree direct grown mirrors regular top member first
      obtain ⟨grown', mirrors', extends', rest⟩ := ih grown₁ mirrors₁ members copied
      refine ⟨grown', mirrors', extends₁.trans extends', fun other otherNode within => ?_⟩
      rcases List.mem_cons.1 within with first | within
      · obtain ⟨same, rfl⟩ := Prod.mk.inj first
        exact List.append_cancel_left same ▸ extends' _ _ here
      · exact rest other otherNode within

end Nodes

/-- What is below the target of a copy is what is below the source. All else stays, if there are directories on the way to the
target. -/
theorem contentAt?_copyDirectory (regular : fs.Regular) (tree : fs.Tree) (direct : Direct target)
    (directory : fs.contentAt? (Path.place source) = some .directory)
    (empty : ∀ here, Path.place target <+: here → fs.contentAt? here = none)
    (copied : fs.copyDirectory source target = (fs', .ok ())) :
    fs'.Tree ∧ (∀ inner, fs'.contentAt? (Path.place target ++ inner) = fs.contentAt? (Path.place source ++ inner)) ∧
      ∀ here, ¬Path.place target <+: here → (Path.Passes target here → fs.contentAt? here = some .directory) →
        fs'.contentAt? here = fs.contentAt? here := by
  have touched : TouchesOnly (.at (Path.Reaches target)) fs (fs.copyDirectory source target).1 :=
    touchesOnly_copyDirectory_at regular fun _ reached => reached
  rw [copied] at touched
  rw [copyDirectory] at copied
  split at copied
  · cases copied
  · rename_i located
    obtain rfl := place_of_locate located
    have nothing : Mirrors fs (Path.place source) fs (Path.place target) := by
      intro inner content there
      rw [empty _ (List.prefix_append _ _)] at there
      cases there
    obtain ⟨tree', mirrors, extends_, all⟩ := mirrors_copyNodes tree direct tree nothing regular directory (fun entry member => by
      simpa using List.mem_mergeSort.1 member) copied
    refine ⟨tree', fun inner => ?_, fun here away way => ?_⟩
    · cases there : fs.contentAt? (Path.place source ++ inner) with
      | none =>
        rw [Option.eq_none_iff_forall_ne_some]
        intro content found
        rw [mirrors inner content found] at there
        cases there
      | some content =>
        obtain ⟨node, found, rfl⟩ := Option.map_eq_some_iff.1 there
        refine all inner node (List.mem_mergeSort.2 ?_)
        simpa using mem_of_node? found
    · by_cases passed : Path.Passes target here
      · exact (extends_ _ _ (way passed)).trans (way passed).symm
      · exact touched.contentAt?_eq (not_or.2 ⟨passed, away⟩)

end FileSystem

end EditorBundles
