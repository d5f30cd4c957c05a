import EditorBundles.FileSystem.Basic
import Mathlib.Data.String.Basic

/-!
# Parts of paths

The parts of two paths that are joined are those of the first and then those of the second. A name is what a
single file or directory can be called: it is the only part of itself, and it leads down and not up.
-/

namespace EditorBundles
set_option autoImplicit false

namespace Path
open String

/-- Splitting a text at its slashes, from the middle of a piece on. -/
theorem splitOnAux_slash (l m r : List Char) (acc : List String) :
    splitOnAux (ofList (l ++ m ++ r)) "/" ⟨utf8Len l⟩ ⟨utf8Len l + utf8Len m⟩ 0 acc =
      acc.reverse ++ (List.splitOnPPrepend (· = '/') r m.reverse).map ofList := by
  induction r generalizing l m acc with
  | nil =>
    have text := extract_of_valid l m []
    have ended := (atEnd_of_valid (l ++ m) []).2 rfl
    rw [utf8Len_append] at ended
    rw [splitOnAux, if_pos ended, text]
    simp
  | cons c r ih =>
    have more := mt (atEnd_of_valid (l ++ m) (c :: r)).1 (List.cons_ne_nil c r)
    have first := get_of_valid (l ++ m) (c :: r)
    have second := next_of_valid (l ++ m) c r
    have slash : Pos.Raw.get "/" 0 = '/' := rfl
    have single : Pos.Raw.atEnd "/" (Pos.Raw.next "/" 0) = true := rfl
    rw [utf8Len_append] at more first second
    rw [splitOnAux, if_neg more, first, second]
    simp only [List.headD_cons, slash, beq_iff_eq, single, if_true]
    by_cases at_slash : c = '/'
    · subst at_slash
      have text := extract_of_valid l m ('/' :: r)
      have behind : Pos.Raw.unoffsetBy ⟨utf8Len l + utf8Len m + Char.utf8Size '/'⟩ (Pos.Raw.next "/" 0) =
          ⟨utf8Len l + utf8Len m⟩ := by
        rw [show Pos.Raw.next "/" 0 = ⟨Char.utf8Size '/'⟩ from rfl]
        simp [Pos.Raw.ext_iff]
      have rest := ih (l ++ m ++ ['/']) [] (ofList m :: acc)
      rw [if_pos rfl, behind, text]
      simp only [utf8Len_append, utf8Len_cons, utf8Len_nil, Nat.zero_add, Nat.add_zero, List.append_assoc,
        List.append_nil, List.cons_append, List.nil_append, ← Nat.add_assoc] at rest ⊢
      rw [rest]
      simp [List.splitOnPPrepend_cons_eq_if]
    · have same : Pos.Raw.unoffsetBy ⟨utf8Len l + utf8Len m⟩ 0 = (⟨utf8Len l + utf8Len m⟩ : Pos.Raw) := by simp
      have rest := ih l (m ++ [c]) acc
      rw [if_neg at_slash, same, second]
      simp only [utf8Len_append, utf8Len_cons, utf8Len_nil, Nat.zero_add, List.append_assoc, List.cons_append,
        List.nil_append, ← Nat.add_assoc] at rest ⊢
      rw [rest]
      simp [List.splitOnPPrepend_cons_eq_if, at_slash]

/-- The pieces of a text between its slashes. -/
theorem splitOn_slash (path : String) : path.splitOn "/" = (path.toList.splitOnP (· = '/')).map ofList := by
  have split := splitOnAux_slash [] [] path.toList []
  rw [List.nil_append, List.nil_append, ofList_toList] at split
  exact split

/-- The parts of two paths with a slash between them. -/
theorem parts_slash (front back : String) : parts (front ++ "/" ++ back) = parts front ++ parts back := by
  have chars : (front ++ "/" ++ back).toList = front.toList ++ '/' :: back.toList := by simp
  rw [parts, splitOn_slash, chars, List.splitOnP_append_cons _ _ (by simp), List.map_append, List.filter_append,
    ← splitOn_slash, ← splitOn_slash, parts, parts]

theorem parts_empty : parts "" = [] := by
  rw [parts, splitOn_slash]
  rfl

/-- A path with a slash at its end. -/
theorem exists_eq_append_slash {path : String} (closed : path.endsWith "/" = true) : ∃ front, path = front ++ "/" := by
  obtain ⟨front, split⟩ : "/".toList <:+ path.toList := by simpa [← endsWith_toSlice] using closed
  exact ⟨ofList front, by rw [← toList_inj, toList_append, toList_ofList, split]⟩

/-- The parts of two paths that are joined. -/
theorem parts_join (dir : String) {name : String} (relative : isAbsolute name = false) :
    parts (join dir name) = parts dir ++ parts name := by
  rw [join, relative, if_neg Bool.false_ne_true]
  split
  · rename_i closed
    rw [Bool.or_eq_true, String.isEmpty_iff] at closed
    rcases closed with rfl | closed
    · rw [empty_append, parts_empty, List.nil_append]
    · obtain ⟨front, rfl⟩ := exists_eq_append_slash closed
      have alone : parts (front ++ "/") = parts front := by
        have split := parts_slash front ""
        rwa [append_empty, parts_empty, List.append_nil] at split
      rw [parts_slash, alone]
  · exact parts_slash dir name

/-- Nothing but a slash comes between two paths that are joined. -/
theorem toList_join (dir : String) {name : String} (relative : isAbsolute name = false) :
    ∃ slash, (slash = [] ∨ slash = ['/']) ∧ (join dir name).toList = dir.toList ++ (slash ++ name.toList) := by
  rw [join, relative, if_neg Bool.false_ne_true]
  split
  · exact ⟨[], .inl rfl, by simp⟩
  · exact ⟨['/'], .inr rfl, by simp⟩

/-- A path that goes on starts where it did before. -/
theorem isAbsolute_join {dir name : String} (present : dir ≠ "") (relative : isAbsolute name = false) :
    isAbsolute (join dir name) = isAbsolute dir := by
  obtain ⟨slash, -, chars⟩ := toList_join dir relative
  obtain ⟨c, rest, split⟩ := List.exists_cons_of_ne_nil (mt toList_eq_nil_iff.1 present)
  rw [isAbsolute, isAbsolute, Bool.eq_iff_iff, startsWith_string_iff, startsWith_string_iff, chars, split]
  simp

/-! ## Single parts -/

variable {name : String}

/-- A path without slashes does not start at the root. -/
theorem isAbsolute_single (single : '/' ∉ name.toList) : isAbsolute name = false := by
  rw [isAbsolute, String.startsWith_string_eq_false_iff]
  intro slash
  obtain ⟨rest, chars⟩ := slash
  exact single (by simp [← chars])

theorem splitOn_single (single : '/' ∉ name.toList) : name.splitOn "/" = [name] := by
  have pieces : name.toList.splitOnP (· = '/') = [name.toList] := by
    refine List.splitOnP_eq_singleton fun c member => ?_
    have other : c ≠ '/' := fun slash => single (slash ▸ member)
    simpa using other
  rw [splitOn_slash, pieces, List.map_singleton, String.ofList_toList]

/-- A path without slashes is a part of its own, unless it leads nowhere. -/
theorem parts_single (single : '/' ∉ name.toList) (present : name ≠ "") (down : name ≠ ".") : parts name = [name] := by
  rw [Path.parts, splitOn_single single]
  simp [present, down]

end Path

/-! ## Names -/

open EditorBundles.Path

/-- What a single file or directory can be called. -/
structure IsFileName (name : String) : Prop where
  present : name ≠ ""
  down : name ≠ "." ∧ name ≠ ".."
  single : '/' ∉ name.toList
  plain : '\x00' ∉ name.toList
  short : name.utf8ByteSize ≤ FileSystem.longestName

namespace IsFileName

variable {name : String} (h : IsFileName name) (dir : String)
include h

theorem relative : isAbsolute name = false := isAbsolute_single h.single

theorem splitOn : name.splitOn "/" = [name] := splitOn_single h.single

theorem parts : parts name = [name] := parts_single h.single h.present h.down.1

/-- A name is the last part of the path that it ends. -/
theorem parts_join : Path.parts (join dir name) = Path.parts dir ++ [name] := by
  rw [Path.parts_join dir h.relative, h.parts]

theorem fileName?_join : fileName? (join dir name) = some name := by
  rw [fileName?, h.parts_join, List.getLast?_concat]
  split
  · next up => exact absurd (Option.some.inj up) h.down.2
  · rfl

omit dir in
theorem join_empty : join "" name = name := by
  rw [join, h.relative, if_neg Bool.false_ne_true]
  exact String.empty_append

/-- A path that ends in a name can lead to a file. -/
theorem wantsDirectory_join : wantsDirectory (join dir name) = false := by
  have last (front : String) : ((front ++ "/" ++ name).splitOn "/").getLast? = some name := by
    have chars : (front ++ "/" ++ name).toList = front.toList ++ '/' :: name.toList := by simp
    rw [splitOn_slash, chars, List.splitOnP_append_cons _ _ (by simp), List.map_append, ← splitOn_slash name, h.splitOn]
    simp
  have ends : ((join dir name).splitOn "/").getLast? = some name := by
    rw [join, h.relative, if_neg Bool.false_ne_true]
    split
    · rename_i closed
      rw [Bool.or_eq_true, String.isEmpty_iff] at closed
      rcases closed with rfl | closed
      · rw [String.empty_append, h.splitOn]
        rfl
      · obtain ⟨front, rfl⟩ := exists_eq_append_slash closed
        exact last front
    · exact last dir
  rw [wantsDirectory, ends]
  simp [h.present, h.down]

end IsFileName

end EditorBundles
