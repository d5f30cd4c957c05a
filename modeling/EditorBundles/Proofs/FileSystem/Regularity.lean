import EditorBundles.Catalog.Snapshot
import EditorBundles.Proofs.FileSystem.Writing

/-!
# What stays regular

A file system that is regular stays so whatever is written to it: paths lead on by names only, and names that are too
long are refused.
-/

namespace EditorBundles.FileSystem
set_option autoImplicit false
open PropertyList

variable {fs fs' : FileSystem} {place place' : Place} {path part : String} {parts : List String}

/-! ## Parts of paths -/

/-- What stands between the slashes of a path, if it leads anywhere. -/
structure IsPart (part : String) : Prop where
  present : part ≠ ""
  down : part ≠ "."
  single : '/' ∉ part.toList
  plain : '\x00' ∉ part.toList

/-- A part that leads down is a name if it is not too long. -/
theorem IsPart.isFileName (h : IsPart part) (down : part ≠ "..") (short : ¬longestName < part.utf8ByteSize) : IsFileName part :=
  ⟨h.present, ⟨h.down, down⟩, h.single, h.plain, Nat.not_lt.1 short⟩

/-- The pieces of a list have those of its elements that it is not split at. -/
theorem of_mem_splitOnP {α : Type} {p : α → Bool} {xs piece : List α} {x : α} (split : piece ∈ xs.splitOnP p)
    (member : x ∈ piece) : p x = false ∧ x ∈ xs := by
  induction xs generalizing piece with
  | nil =>
    rw [List.splitOnP_nil, List.mem_singleton] at split
    subst split
    cases member
  | cons y ys ih =>
    have later (split : piece ∈ ys.splitOnP p) : p x = false ∧ x ∈ y :: ys :=
      (ih split member).imp_right (List.mem_cons_of_mem y)
    rw [List.splitOnP_cons_eq_if_modifyHead] at split
    split at split
    · rcases List.mem_cons.1 split with rfl | split
      · cases member
      · exact later split
    · rename_i goes_on
      cases pieces : ys.splitOnP p with
      | nil =>
        rw [pieces] at split
        cases split
      | cons first rest =>
        rw [pieces] at split ih later
        rcases List.mem_cons.1 split with rfl | split
        · rcases List.mem_cons.1 member with rfl | member
          · exact ⟨Bool.not_eq_true _ ▸ goes_on, List.mem_cons_self⟩
          · exact (ih List.mem_cons_self member).imp_right (List.mem_cons_of_mem y)
        · exact later (List.mem_cons_of_mem first split)

theorem isPart_of_mem_parts (plain : '\x00' ∉ path.toList) (member : part ∈ Path.parts path) : IsPart part := by
  obtain ⟨member, kept⟩ := List.mem_filter.1 member
  rw [Path.splitOn_slash] at member
  obtain ⟨piece, split, rfl⟩ := List.mem_map.1 member
  obtain ⟨present, down⟩ := of_decide_eq_true kept
  refine ⟨present, down, ?_, ?_⟩
  · rw [String.toList_ofList]
    intro slash
    exact absurd (of_mem_splitOnP split slash).1 (by decide)
  · rw [String.toList_ofList]
    intro zero
    exact plain (of_mem_splitOnP split zero).2

/-- What leads on from a place with names for parts is such a place. -/
theorem named_of_follow (known : ∀ part ∈ parts, IsPart part) (named : ∀ name ∈ place, IsFileName name)
    (followed : fs.follow place parts = .ok place') : ∀ name ∈ place', IsFileName name := by
  induction parts generalizing place with
  | nil =>
    obtain rfl := Except.ok.inj followed
    exact named
  | cons part rest ih =>
    rw [List.forall_mem_cons] at known
    rw [follow] at followed
    split at followed
    · cases followed
    · cases followed
    · split at followed
      · exact ih known.2 (fun name member => named name (List.dropLast_subset place member)) followed
      · rename_i down
        split at followed
        · cases followed
        · rename_i short
          refine ih known.2 (fun name member => ?_) followed
          rcases List.mem_append.1 member with before | last
          · exact named name before
          · exact List.mem_singleton.1 last ▸ known.1.isFileName down short

theorem named_of_resolve (resolved : fs.resolve path = .ok place) : ∀ name ∈ place, IsFileName name := by
  obtain ⟨⟨plain, -⟩, followed⟩ := resolve_eq_ok.1 resolved
  exact named_of_follow (fun _ => isPart_of_mem_parts plain) (fun _ member => absurd member List.not_mem_nil) followed

/-! ## Changes -/

/-- A copy is put where its path leads. -/
theorem copyFile_eq_ok {source target : String} (copied : fs.copyFile source target = .ok fs') :
    ∃ place octets mode, fs.resolve target = .ok place ∧ fs' = fs.putNode place (.file octets mode fs.clock) := by
  rw [copyFile] at copied
  split at copied
  · cases copied
  · cases copied
  · split at copied
    · cases copied
    · rename_i place resolved
      split at copied
      · cases copied
      · split at copied
        · cases copied
        · exact ⟨place, _, _, resolved, (Except.ok.inj copied).symm⟩
      · split at copied
        · cases copied
        · exact ⟨place, _, _, resolved, (Except.ok.inj copied).symm⟩

/-- Reading a snapshot removes it at most. -/
theorem snd_load (fs : FileSystem) (path : String) (rebuild : Bool) : (Catalog.Database.load fs path rebuild).2 = fs ∨
    fs.removeFile path = .ok (Catalog.Database.load fs path rebuild).2 := by
  rw [Catalog.Database.load]
  cases removed : fs.removeFile path with
  | error fault =>
    dsimp only
    split
    · exact .inl rfl
    · split
      · exact .inl rfl
      · split <;> exact .inl rfl
  | ok left =>
    dsimp only
    split
    · exact .inl rfl
    · split
      · exact .inr rfl
      · split
        · exact .inl rfl
        · exact .inr rfl

namespace Regular

theorem makeDirectories (h : fs.Regular) (known : ∀ part ∈ parts, IsPart part) (named : ∀ name ∈ place, IsFileName name) :
    (fs.makeDirectories place parts).1.Regular := by
  induction parts generalizing fs place with
  | nil => exact h
  | cons part rest ih =>
    rw [List.forall_mem_cons] at known
    rw [FileSystem.makeDirectories]
    split
    · exact ih h known.2 fun name member => named name (List.dropLast_subset place member)
    · rename_i down
      split
      · exact h
      · rename_i short
        have next : ∀ name ∈ place ++ [part], IsFileName name := by
          intro name member
          rcases List.mem_append.1 member with before | last
          · exact named name before
          · exact List.mem_singleton.1 last ▸ known.1.isFileName down short
        dsimp only
        split
        · exact ih h known.2 next
        · exact h
        · exact ih (h.putNode next _) known.2 next

theorem createDirectories (h : fs.Regular) (path : String) : (fs.createDirectories path).1.Regular := by
  rw [FileSystem.createDirectories]
  split
  · exact h
  · split
    · exact h
    · rename_i plain
      split
      · exact h
      · rw [String.contains_char_eq, decide_eq_true_eq] at plain
        exact h.makeDirectories (fun _ => isPart_of_mem_parts plain) fun _ member => absurd member List.not_mem_nil

theorem replaceFile (h : fs.Regular) {octets : ByteArray} {mode : Nat} (replaced : fs.replaceFile path octets mode = .ok fs') :
    fs'.Regular := by
  rw [FileSystem.replaceFile] at replaced
  split at replaced
  · cases replaced
  · rename_i place resolved
    split at replaced
    · cases replaced
    · split at replaced
      · cases replaced
      · split at replaced
        · cases replaced
        · obtain rfl := Except.ok.inj replaced
          exact (h.stampParent place).putNode (named_of_resolve resolved) _

theorem dropNodes (h : fs.Regular) (place : Place) : (fs.dropNodes place).Regular := by
  have stamped := h.stampParent place
  have fewer : (Entries.keys (fs.dropNodes place).nodes).Sublist (Entries.keys (fs.stampParent place).nodes) :=
    List.filter_sublist.map _
  exact ⟨fewer.nodup stamped.single, fun other member => stamped.named other (fewer.subset member)⟩

theorem removeFile (h : fs.Regular) (removed : fs.removeFile path = .ok fs') : fs'.Regular := by
  rw [FileSystem.removeFile] at removed
  split at removed
  · cases removed
  · cases removed
  · obtain rfl := Except.ok.inj removed
    exact h.dropNodes _

theorem removeDirectory (h : fs.Regular) (removed : fs.removeDirectory path = .ok fs') : fs'.Regular := by
  rw [FileSystem.removeDirectory] at removed
  split at removed
  · cases removed
  · cases removed
  · obtain rfl := Except.ok.inj removed
    exact h.dropNodes _

theorem copyFile (h : fs.Regular) {source target : String} (copied : fs.copyFile source target = .ok fs') : fs'.Regular := by
  obtain ⟨place, octets, mode, resolved, rfl⟩ := copyFile_eq_ok copied
  exact h.putNode (named_of_resolve resolved) _

theorem copyNode (h : fs.Regular) (node : FileNode) (path : String) : (fs.copyNode node path).1.Regular := by
  cases node with
  | directory mode modified => exact h.createDirectories path
  | file octets mode modified =>
    rw [FileSystem.copyNode]
    split
    · exact h
    · rename_i resolved
      split
      · exact h
      · exact h.putNode (named_of_resolve resolved) _

theorem copyNodes (h : fs.Regular) (source : Place) (target : String) (nodes : List (Place × FileNode)) :
    (fs.copyNodes source target nodes).1.Regular := by
  induction nodes generalizing fs with
  | nil => exact h
  | cons entry nodes ih =>
    obtain ⟨place, node⟩ := entry
    have copied := h.copyNode node ((place.drop source.length).foldl Path.join target)
    rw [FileSystem.copyNodes]
    generalize fs.copyNode node ((place.drop source.length).foldl Path.join target) = result at copied
    obtain ⟨fs₁, result⟩ := result
    cases result with
    | error fault => exact copied
    | ok _ => exact ih copied

theorem copyDirectory (h : fs.Regular) (source target : String) : (fs.copyDirectory source target).1.Regular := by
  rw [FileSystem.copyDirectory]
  split
  · exact h
  · exact h.copyNodes _ _ _

/-- Saving a document keeps a file system regular, and so it does if it fails. -/
theorem save (h : fs.Regular) (d : Document) (dir : String) : (d.save fs dir).1.Regular := by
  rw [Document.save]
  dsimp only
  split
  · exact h
  · split
    · exact h
    · have made := h.createDirectories dir
      generalize fs.createDirectories dir = result at made
      obtain ⟨fs₁, result⟩ := result
      cases result with
      | error fault => exact made
      | ok _ =>
        dsimp only
        split
        · exact made
        · rename_i replaced
          exact made.replaceFile replaced

theorem load (h : fs.Regular) (path : String) (rebuild : Bool) : (Catalog.Database.load fs path rebuild).2.Regular := by
  rcases snd_load fs path rebuild with same | removed
  · rwa [same]
  · exact h.removeFile removed

end Regular

end EditorBundles.FileSystem
