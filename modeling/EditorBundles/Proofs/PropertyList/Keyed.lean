import EditorBundles.Proofs.PropertyList.Holding

/-!
# Documents without repeated keys

No dictionary of a well-formed document has a key twice, whether it is in use or free. Editing keeps it so in
any document, well formed or not, as a dictionary is only ever written key by key or emptied.
-/

namespace EditorBundles.PropertyList
set_option autoImplicit false

namespace Document

variable {d : Document}

/-- No dictionary of a document, in use or free, has a key twice. -/
def Keyed (d : Document) : Prop := ∀ entries ∈ d.dicts, (Entries.keys entries).Nodup

theorem keyed_vacant : vacant.Keyed := by
  intro entries member
  cases member with
  | mk member => cases member

theorem keyed_new : new.Keyed := by
  intro entries member
  obtain rfl := List.mem_singleton.1 (Array.mem_def.1 member)
  exact List.nodup_nil

/-- Dictionaries in use have distinct keys. -/
theorem nodup_keys_of_forest {cells : List Cell} {values : List Value} {places : List Place} {slot : Nat}
    {entries : List (String × Cell)} (h : Forest d cells values places) (member : .dict slot ∈ places)
    (read : d.content? (.dict slot) = some (.entries entries)) : (Entries.keys entries).Nodup := by
  induction h with
  | nil => cases member
  | integer n _ ih => exact ih member
  | bool b _ ih => exact ih member
  | string _ _ ih =>
    rcases List.mem_cons.1 member with same | behind
    · cases same
    · exact ih behind
  | array _ _ _ ihBelow ihBehind =>
    rcases List.mem_cons.1 member with same | member
    · cases same
    · rcases List.mem_append.1 member with below | behind
      · exact ihBelow below
      · exact ihBehind behind
  | dict read' distinct _ _ _ ihBelow ihBehind =>
    rcases List.mem_cons.1 member with same | member
    · cases same
      rw [read'] at read
      cases read
      exact distinct
    · rcases List.mem_append.1 member with below | behind
      · exact ihBelow below
      · exact ihBehind behind

/-- Each dictionary of a well-formed document is in use or empty. -/
theorem WellFormed.keyed {handed : List Cell} (h : d.WellFormed handed) : d.Keyed := by
  obtain ⟨values, places, forest, uses⟩ := h
  intro entries member
  obtain ⟨slot, bound, rfl⟩ := Array.mem_iff_getElem.1 member
  have read : d.content? (.dict slot) = some (.entries d.dicts[slot]) := by
    rw [content?, Array.getElem?_eq_getElem bound]
    rfl
  have known : Place.dict slot ∈ d.places := mem_places.2 (Option.isSome_of_eq_some read)
  rcases List.mem_append.1 (uses.perm.mem_iff.2 known) with used | free
  · exact nodup_keys_of_forest forest used read
  · have blank := uses.blank _ free
    rw [read] at blank
    have empty : d.dicts[slot] = [] := Content.entries.inj (Option.some.inj blank)
    rw [empty]
    exact List.nodup_nil

theorem keyed_of_load {fs : FileSystem} {path : String} (loaded : load fs path = .ok d) : d.Keyed := by
  obtain ⟨octets, -, loaded⟩ := bind_eq_ok loaded
  obtain ⟨parsed, read, loaded⟩ := bind_eq_ok loaded
  obtain ⟨modTime, -, loaded⟩ := bind_eq_ok loaded
  obtain rfl := Except.ok.inj loaded
  have keyed : parsed.Keyed := (Reachable.parsed (mapError_eq_ok read)).wellFormed.keyed
  exact keyed

/-! ## Editing -/

theorem Keyed.dict (h : d.Keyed) (slot : Nat) : (Entries.keys (d.dict slot)).Nodup := by
  rw [Document.dict]
  cases found : d.dicts[slot]? with
  | none => exact List.nodup_nil
  | some entries => exact h entries (Array.mem_of_getElem? found)

theorem Keyed.setDict (h : d.Keyed) (slot : Nat) {entries : List (String × Cell)} (distinct : (Entries.keys entries).Nodup) :
    (d.setDict slot entries).Keyed := by
  intro other member
  rcases Array.mem_or_eq_of_mem_setIfInBounds member with old | rfl
  · exact h other old
  · exact distinct

theorem Keyed.releaseWithin (h : d.Keyed) (levels : Nat) (cell : Cell) : (releaseWithin levels d cell).Keyed := by
  induction levels generalizing d cell with
  | zero => cases cell <;> exact h
  | succ levels ih =>
    have all (cells : List Cell) {d : Document} (h : d.Keyed) : (cells.foldl (Document.releaseWithin levels) d).Keyed := by
      induction cells generalizing d with
      | nil => exact h
      | cons cell cells ih' => exact ih' (ih h cell)
    cases cell with
    | dict slot =>
      have emptied : (d.setDict slot []).Keyed := h.setDict slot List.nodup_nil
      have freed := all ((d.dict slot).map Prod.snd) emptied
      exact freed
    | array slot =>
      have emptied : (d.setArray slot []).Keyed := h
      have freed := all (d.array slot) emptied
      exact freed
    | string slot => exact h
    | integer n => exact h
    | bool b => exact h

theorem Keyed.replace (h : d.Keyed) (slot : Nat) (key : String) (cell : Cell) : (d.replace slot key cell).Keyed := by
  have written := h.setDict slot (Entries.nodup_keys_put (h.dict slot) key cell)
  rw [Document.replace]
  split
  · exact written.releaseWithin _ _
  · exact written

theorem Keyed.addString (h : d.Keyed) (text : String) : (d.addString text).1.Keyed := by
  rw [Document.addString]
  split <;> exact h

theorem Keyed.addArray (h : d.Keyed) : d.addArray.1.Keyed := by
  rw [Document.addArray]
  split <;> exact h

theorem Keyed.addDict (h : d.Keyed) : d.addDict.1.Keyed := by
  rw [Document.addDict]
  split
  · exact h
  · intro entries member
    rcases Array.mem_push.1 member with old | rfl
    · exact h entries old
    · exact List.nodup_nil

theorem Keyed.setString (h : d.Keyed) (slot : Nat) (key text : String) : (d.setString slot key text).Keyed := by
  rw [Document.setString]
  split
  · exact h
  · exact (h.addString text).replace _ _ _

theorem Keyed.newArray (h : d.Keyed) (slot : Nat) (key : String) : (d.newArray slot key).1.Keyed := by
  rw [Document.newArray]
  split
  · exact h
  · exact h.addArray.replace _ _ _

theorem Keyed.newDict (h : d.Keyed) (slot : Nat) (key : String) : (d.newDict slot key).1.Keyed := by
  rw [Document.newDict]
  split
  · exact h
  · exact h.addDict.replace _ _ _

theorem Keyed.pushDict (h : d.Keyed) (slot : Nat) : (d.pushDict slot).1.Keyed := h.addDict

theorem keyed_create (name uuid : String) : (create name uuid).Keyed := (keyed_new.setString _ _ _).setString _ _ _

end Document

/-! ## Tables of documents -/

namespace DocumentTable

variable {t u v : DocumentTable}

/-- Each document is what it was, or gone. -/
def Thins (t u : DocumentTable) : Prop := ∀ index, u.get index = t.get index ∨ u.get index = Document.vacant

theorem Thins.refl (t : DocumentTable) : t.Thins t := fun _ => .inl rfl

theorem Thins.trans (first : t.Thins u) (second : u.Thins v) : t.Thins v := by
  intro index
  rcases second index with same | gone
  · rw [same]
    exact first index
  · exact .inr gone

theorem get_set (t : DocumentTable) (index other : Nat) (d : Document) :
    (t.set index d).get other = d ∨ (t.set index d).get other = t.get other := by
  by_cases same : other = index
  · subst same
    by_cases bound : other < t.size
    · exact .inl (t.get_set_self bound d)
    · rw [size] at bound
      right
      simp [get, set, bound]
  · exact .inr (t.get_set_of_ne same d)

theorem thins_delete (t : DocumentTable) (index : Nat) : t.Thins (t.delete index) := fun other =>
  (t.get_set index other Document.vacant).symm

theorem get_insert_or (t : DocumentTable) (d : Document) (other : Nat) :
    (t.insert d).1.get other = d ∨ (t.insert d).1.get other = t.get other := by
  rw [insert]
  split
  · rename_i index free _
    exact t.get_set index other d
  · by_cases here : other = t.documents.size
    · left
      simp [get, here]
    · right
      rw [get, get, Array.getElem?_push, if_neg here]

theorem get_insert_self_or (t : DocumentTable) (d : Document) :
    (t.insert d).1.get (t.insert d).2 = d ∨ (t.insert d).1.get (t.insert d).2 = Document.vacant := by
  rw [insert]
  split
  · rename_i index free _
    by_cases inside : index < t.size
    · exact .inl (t.get_set_self inside d)
    · right
      have none_ : (t.documents.setIfInBounds index d)[index]? = none :=
        Array.getElem?_eq_none (by rw [Array.size_setIfInBounds]; exact Nat.not_lt.1 inside)
      rw [get, set, none_]
      rfl
  · left
    simp [get]

theorem thins_foldl_delete (gone : List Nat) (t : DocumentTable) : t.Thins (gone.foldl DocumentTable.delete t) := by
  induction gone generalizing t with
  | nil => exact .refl t
  | cons doc gone ih => exact (t.thins_delete doc).trans (ih _)

/-- No dictionary of any document has a key twice. -/
def Keyed (t : DocumentTable) : Prop := ∀ index, (t.get index).Keyed

theorem Keyed.thin (h : t.Keyed) (thins : t.Thins u) : u.Keyed := by
  intro index
  rcases thins index with same | gone
  · rw [same]
    exact h index
  · rw [gone]
    exact Document.keyed_vacant

theorem Keyed.set (h : t.Keyed) (index : Nat) {d : Document} (keyed : d.Keyed) : (t.set index d).Keyed := by
  intro other
  rcases t.get_set index other d with new | same
  · rw [new]
    exact keyed
  · rw [same]
    exact h other

theorem Keyed.modify (h : t.Keyed) (index : Nat) {change : Document → Document}
    (keyed : ∀ d : Document, d.Keyed → (change d).Keyed) : (t.modify index change).Keyed := h.set index (keyed _ (h index))

theorem Keyed.insert (h : t.Keyed) {d : Document} (keyed : d.Keyed) : (t.insert d).1.Keyed := by
  intro other
  rcases t.get_insert_or d other with new | same
  · rw [new]
    exact keyed
  · rw [same]
    exact h other

theorem Keyed.copy (h : t.Keyed) (index : Nat) : (t.copy index).1.Keyed := h.insert (h index)

theorem Keyed.forall_mem (h : t.Keyed) : ∀ d ∈ t.documents, d.Keyed := by
  intro d member
  obtain ⟨index, bound, rfl⟩ := Array.mem_iff_getElem.1 member
  have read := h index
  rw [get, Array.getElem?_eq_getElem bound] at read
  exact read

end DocumentTable

end EditorBundles.PropertyList
