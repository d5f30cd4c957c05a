import EditorBundles.Proofs.PropertyList.Invariant
import EditorBundles.Proofs.PropertyList.Printed

/-!
# Printing and parsing

The text of a document parses, and to a document of the same value: the entries that were printed are
read, and storing them merges nothing, since the dictionaries of a document repeat no key.
-/

namespace EditorBundles.PropertyList
set_option autoImplicit false

namespace Value

theorem withEntries_eq_append {entries added : List (String × Value)}
    (distinct : (Entries.keys (entries ++ added)).Nodup)
    (fixed : mergedItems (added.map Prod.snd) = added.map Prod.snd) :
    withEntries entries added = entries ++ added := by
  induction added generalizing entries with
  | nil => rw [withEntries, List.append_nil]
  | cons entry added ih =>
    obtain ⟨key, v⟩ := entry
    obtain ⟨first, others⟩ : v.merged = v ∧ mergedItems (added.map Prod.snd) = added.map Prod.snd :=
      List.cons.inj fixed
    have fresh : key ∉ Entries.keys entries := by
      intro member
      rw [Entries.keys_append] at distinct
      exact (List.nodup_append.1 distinct).2.2 key member key List.mem_cons_self rfl
    rw [withEntries, first, Entries.put_of_not_mem fresh, ih (by simpa using distinct) others]
    simp

end Value

/-- The values of a document have no repeated keys. -/
theorem Forest.merged {d : Document} {cs : List Cell} {vs : List Value} {ps : List Place}
    (h : Forest d cs vs ps) :
    Value.mergedItems vs = vs := by
  induction h with
  | nil => rfl
  | integer n _ ih => rw [Value.mergedItems, Value.merged, ih]
  | bool b _ ih => rw [Value.mergedItems, Value.merged, ih]
  | string _ _ ih => rw [Value.mergedItems, Value.merged, ih]
  | array _ _ _ below behind => rw [Value.mergedItems, Value.merged, below, behind]
  | dict _ distinct keys _ _ below behind =>
    rw [Value.mergedItems, Value.merged, Value.withEntries_eq_append (by simpa [keys] using distinct) below,
      behind, List.nil_append]

namespace Document

/-- The text of a document parses, to a document that means the same and has the same text. -/
theorem parse_print {d : Document} {handed : List Cell} (h : d.WellFormed handed) :
    ∃ e, parse d.print.toUTF8 = .ok e ∧ e.WellFormed [] ∧ e.root = d.root ∧ e.print.toUTF8 = d.print.toUTF8 := by
  obtain ⟨values, here, behind, tree, others, uses, -⟩ := h.parts
  have fixed : Value.withEntries [] d.root = d.root := by
    have merged := tree.merged
    exact Value.dict.inj (List.cons.inj merged).1
  have read : PropertyList.read d.print.toUTF8 = .ok d.root := by
    rw [PropertyList.read, Text.Utf8.decode_toUTF8]
    exact readText_print d.root
  obtain ⟨wellFormed, root⟩ := wellFormed_ofEntries d.root
  refine ⟨ofEntries d.root, by rw [parse, read]; rfl, wellFormed, root.trans fixed, ?_⟩
  rw [print, print, root, fixed]

/-- Blanks and markup in keys and texts stay. -/
theorem parse_print_markup :
    (new.setString rootSlot " <b>" "\n& ").WellFormed [] ∧
      ∃ e, parse (new.setString rootSlot " <b>" "\n& ").print.toUTF8 = .ok e ∧
        e.root = [(" <b>", .string "\n& ")] := by
  have found : new.follow? (.dict rootSlot) [] = some (.dict rootSlot) := rfl
  have run : (Edit.dict (.setString " <b>" "\n& ")).run? new (.dict rootSlot) =
      some (new.setString rootSlot " <b>" "\n& ", none) := rfl
  have wellFormed := (Reachable.edited .new List.mem_cons_self found run).wellFormed
  obtain ⟨e, parsed, -, root, -⟩ := parse_print wellFormed
  exact ⟨wellFormed, e, parsed, root⟩

end Document

end EditorBundles.PropertyList
