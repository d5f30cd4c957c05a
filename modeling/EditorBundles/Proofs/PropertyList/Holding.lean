import EditorBundles.Proofs.PropertyList.Invariant
import EditorBundles.PropertyList.DocumentTable

/-!
# Holding documents of a table

Indices of a table are held by those who use its documents. `Holding` says that a list of indices is all
that is held: they are those of the documents, each held once, and the vacant ones are on the stack.
`Trades` is what an operation does that turns some of the held indices into others: whatever is held
besides keeps its document, so that operations can be put together and framed.
-/

namespace EditorBundles.PropertyList
set_option autoImplicit false

/-- What an array of octets writes is not vacant. -/
theorem Document.isVacant_of_parse {octets : ByteArray} {d : Document} (parsed : parse octets = .ok d) :
    d.isVacant = false := by
  have live := (Reachable.parsed parsed).wellFormed.sound.root_live.1
  have size : 0 < d.dicts.size := by simpa [mem_places, content?, rootSlot] using live
  simpa [isVacant] using Nat.ne_of_gt size

/-- An array of octets writes a document if there is a text to be read from it. -/
theorem Document.exists_parse {octets : ByteArray} {key text : String}
    (read : ((parse octets).toOption.bind fun d => d.rootString? key) = some text) :
    ∃ d, parse octets = .ok d ∧ d.rootString? key = some text := by
  cases parsed : parse octets with
  | error fault =>
    rw [parsed] at read
    cases read
  | ok d =>
    rw [parsed] at read
    exact ⟨d, rfl, read⟩

/-- The time of a document is that of its file, in seconds. -/
theorem Document.modTime_of_locate {fs : FileSystem} {path : String} {place : EditorBundles.Place} {node : FileNode}
    (located : fs.locate path = .ok (place, node)) : fs.modTime path = .ok (node.modified.tdiv 1000000000) := by
  rw [FileSystem.modTime, located]
  rfl

/-- A file that can be parsed is loaded with its name and its time. -/
theorem Document.load_of_locate {fs : FileSystem} {path name : String} {place : EditorBundles.Place} {octets : ByteArray}
    {mode : Nat} {modified : Int} {d : Document} (located : fs.locate path = .ok (place, .file octets mode modified))
    (parsed : parse octets = .ok d) (last : Path.fileName? path = some name) :
    load fs path = .ok { d with filename := name, modTime := modified.tdiv 1000000000 } := by
  have read : fs.read path = .ok octets := by rw [FileSystem.read, located]
  rw [load, read, last]
  change ((parse octets).mapError Fault.reading).bind _ = _
  rw [parsed]
  change ((fs.modTime path).mapError Fault.file).bind _ = _
  rw [modTime_of_locate located]
  rfl

/-- What goes well has gone well at every step. -/
theorem bind_eq_ok {ε α β : Type} {x : Except ε α} {f : α → Except ε β} {b : β} (h : x.bind f = .ok b) :
    ∃ a, x = .ok a ∧ f a = .ok b := by
  cases x with
  | error fault => cases h
  | ok a => exact ⟨a, rfl, h⟩

theorem map_eq_ok {ε α β : Type} {x : Except ε α} {f : α → β} {b : β} (h : x.map f = .ok b) :
    ∃ a, x = .ok a ∧ f a = b := by
  cases x with
  | error fault => cases h
  | ok a => exact ⟨a, rfl, Except.ok.inj h⟩

theorem mapError_eq_ok {ε ε' α : Type} {x : Except ε α} {f : ε → ε'} {a : α} (h : x.mapError f = .ok a) :
    x = .ok a := by
  cases x with
  | error fault => cases h
  | ok _ => exact congrArg Except.ok (Except.ok.inj h)

/-- A document that was loaded is not vacant. -/
theorem Document.isVacant_of_load {fs : FileSystem} {path : String} {d : Document} (loaded : load fs path = .ok d) :
    d.isVacant = false := by
  obtain ⟨octets, -, loaded⟩ := bind_eq_ok loaded
  obtain ⟨parsed, read, loaded⟩ := bind_eq_ok loaded
  obtain ⟨modTime, -, loaded⟩ := bind_eq_ok loaded
  obtain rfl := Except.ok.inj loaded
  have stored := isVacant_of_parse (mapError_eq_ok read)
  exact stored

/-- A document that was saved has another time, and is what it was but for that. -/
theorem Document.exists_modTime_of_save {fs fs' : FileSystem} {dir path : String} {d saved : Document}
    (h : d.save fs dir = (fs', .ok (saved, path))) : ∃ modTime, saved = { d with modTime } := by
  rw [save] at h
  dsimp only at h
  split at h
  · cases h
  · split at h
    · split at h <;> cases h
      exact ⟨_, rfl⟩
    · split at h
      · cases h
      · split at h
        · cases h
        · split at h <;> cases h
          exact ⟨_, rfl⟩

theorem Document.isVacant_of_save {fs fs' : FileSystem} {dir path : String} {d saved : Document}
    (h : d.save fs dir = (fs', .ok (saved, path))) : saved.isVacant = d.isVacant := by
  obtain ⟨modTime, rfl⟩ := exists_modTime_of_save h
  rfl

namespace DocumentTable

/-- The indices in `held` are those of the documents, each once, and the others are vacant. -/
structure Holding (t : DocumentTable) (held : List Nat) : Prop where
  indices : (t.free ++ held).Perm (List.range t.size)
  vacant : ∀ index ∈ t.free, (t.get index).isVacant = true
  stored : ∀ index ∈ held, (t.get index).isVacant = false

/-- Indices `before` are given for indices `after`, and whatever is held besides is left alone. -/
def Trades (t u : DocumentTable) (before after : List Nat) : Prop :=
  ∀ others, t.Holding (before ++ others) →
    u.Holding (after ++ others) ∧ ∀ index ∈ others, u.get index = t.get index

/-- Documents are written to: none is stored, and none is deleted. -/
structure Rewrites (t u : DocumentTable) : Prop where
  free : u.free = t.free
  size : u.size = t.size
  vacant : ∀ index, (u.get index).isVacant = (t.get index).isVacant

variable {t u v : DocumentTable} {held held' before after between others : List Nat} {index : Nat}

theorem holding_empty : Holding {} [] where
  indices := .refl _
  vacant _ member := absurd member List.not_mem_nil
  stored _ member := absurd member List.not_mem_nil

namespace Holding

theorem perm (h : t.Holding held) (same : held.Perm held') : t.Holding held' where
  indices := (same.append_left t.free).symm.trans h.indices
  vacant := h.vacant
  stored index member := h.stored index (same.mem_iff.2 member)

theorem nodup (h : t.Holding held) : held.Nodup :=
  (List.nodup_append.1 (h.indices.nodup_iff.2 List.nodup_range)).2.1

/-- The indices that are held are those of the documents. -/
theorem mem_iff (h : t.Holding held) : index ∈ held ↔ t.isLive index = true := by
  have bound : index ∈ t.free ++ held ↔ index < t.size := h.indices.mem_iff.trans List.mem_range
  rw [List.mem_append] at bound
  constructor
  · intro member
    simp [isLive, bound.1 (.inr member), h.stored index member]
  · intro live
    simp only [isLive, Bool.and_eq_true, decide_eq_true_eq, Bool.not_eq_true'] at live
    refine (bound.2 live.1).resolve_left fun free => ?_
    rw [h.vacant index free] at live
    exact absurd live.2 Bool.noConfusion

theorem lt (h : t.Holding held) (member : index ∈ held) : index < t.size :=
  List.mem_range.1 (h.indices.mem_iff.1 (List.mem_append_right _ member))

/-- There are as many documents as indices that are held. -/
theorem liveCount_eq (h : t.Holding held) : t.liveCount = held.length := by
  have length := h.indices.length_eq
  rw [List.length_append, List.length_range] at length
  rw [liveCount, ← size]
  omega

/-- Whoever holds a document holds it after it was written to. -/
theorem rewrite (h : t.Holding held) (rewrites : t.Rewrites u) : u.Holding held where
  indices := by
    rw [rewrites.free, rewrites.size]
    exact h.indices
  vacant index free := (rewrites.vacant index).trans (h.vacant index (rewrites.free ▸ free))
  stored index member := (rewrites.vacant index).trans (h.stored index member)

end Holding

namespace Trades

theorem refl (t : DocumentTable) (held : List Nat) : t.Trades t held held := fun _ h => ⟨h, fun _ _ => rfl⟩

theorem trans (first : t.Trades u before between) (second : u.Trades v between after) : t.Trades v before after := by
  intro others h
  obtain ⟨h₁, kept₁⟩ := first others h
  obtain ⟨h₂, kept₂⟩ := second others h₁
  exact ⟨h₂, fun index member => (kept₂ index member).trans (kept₁ index member)⟩

theorem perm {before' after' : List Nat} (h : t.Trades u before after) (same : before.Perm before')
    (same' : after.Perm after') : t.Trades u before' after' := by
  intro others holding
  obtain ⟨holding', kept⟩ := h others (holding.perm (same.symm.append_right others))
  exact ⟨holding'.perm (same'.append_right others), kept⟩

/-- Whoever holds something else goes on holding it. -/
theorem frame (h : t.Trades u before after) (more : List Nat) : t.Trades u (before ++ more) (after ++ more) := by
  intro others holding
  rw [List.append_assoc] at holding
  obtain ⟨holding', kept⟩ := h (more ++ others) holding
  rw [← List.append_assoc] at holding'
  exact ⟨holding', fun index member => kept index (List.mem_append_right _ member)⟩

theorem frame_left (h : t.Trades u before after) (more : List Nat) : t.Trades u (more ++ before) (more ++ after) :=
  (h.frame more).perm List.perm_append_comm List.perm_append_comm

end Trades

/-! ## Writing to documents -/

theorem Rewrites.refl (t : DocumentTable) : t.Rewrites t := ⟨rfl, rfl, fun _ => rfl⟩

theorem Rewrites.trans (first : t.Rewrites u) (second : u.Rewrites v) : t.Rewrites v :=
  ⟨second.free.trans first.free, second.size.trans first.size,
    fun index => (second.vacant index).trans (first.vacant index)⟩

/-- A document is put in the place of one that is vacant just if it is. -/
theorem rewrites_set (t : DocumentTable) {d : Document} (same : d.isVacant = (t.get index).isVacant) :
    t.Rewrites (t.set index d) where
  free := rfl
  size := size_set t index d
  vacant other := by
    by_cases at_index : other = index
    · subst at_index
      by_cases bound : other < t.size
      · rw [get_set_self t bound, same]
      · have absent {u : DocumentTable} (size : u.size = t.size) : u.get other = Document.vacant := by
          rw [← size, DocumentTable.size] at bound
          simp [get, bound]
        rw [absent (size_set t other d), absent rfl]
    · rw [get_set_of_ne t at_index]

/-- Writing a document to its file changes its time only. -/
theorem rewrites_save (t : DocumentTable) (fs : FileSystem) (index : Nat) (dir : String) :
    t.Rewrites (t.save fs index dir).1 := by
  cases saved : (t.get index).save fs dir with
  | mk fs' result =>
    rw [save, saved]
    cases result with
    | error fault => exact .refl t
    | ok result =>
      obtain ⟨d, path⟩ := result
      exact t.rewrites_set (Document.isVacant_of_save saved)

/-! ## Storing and deleting documents -/

/-- Storing a document gives an index that nobody holds. -/
theorem trades_insert (t : DocumentTable) {d : Document} (stored : d.isVacant = false) :
    t.Trades (t.insert d).1 [] [(t.insert d).2] := by
  intro others h
  obtain ⟨indices, vacant, filled⟩ := h
  cases free : t.free with
  | nil =>
    rw [free] at indices
    have bound {other : Nat} (member : other ∈ others) : other < t.size :=
      List.mem_range.1 (indices.mem_iff.1 member)
    have inserted : t.insert d = ({ t with documents := t.documents.push d }, t.size) := by rw [insert, free, size]
    have old {other : Nat} (lt : other < t.size) :
        ({ t with documents := t.documents.push d } : DocumentTable).get other = t.get other := by
      rw [size] at lt
      simp [get, Array.getElem?_push, Nat.ne_of_lt lt]
    have new : ({ t with documents := t.documents.push d } : DocumentTable).get t.size = d := by simp [get, size]
    rw [inserted]
    refine ⟨⟨?_, ?_, ?_⟩, fun other member => old (bound member)⟩
    · rw [show ({ t with documents := t.documents.push d } : DocumentTable).size = t.size + 1 by simp [size],
        List.range_succ, free]
      exact (List.perm_append_singleton t.size others).symm.trans (indices.append_right [t.size])
    · rw [free]
      exact fun other member => absurd member List.not_mem_nil
    · intro other member
      rcases List.mem_cons.1 member with rfl | member
      · rw [new]
        exact stored
      · rw [old (bound member)]
        exact filled other member
  | cons index rest =>
    have inserted : t.insert d = ({ t.set index d with free := rest }, index) := by rw [insert, free]
    have distinct : (index :: (rest ++ others)).Nodup := by
      have distinct := indices.nodup_iff.2 List.nodup_range
      rwa [free] at distinct
    have lt : index < t.size := List.mem_range.1 (indices.mem_iff.1 (by simp [free]))
    have other_ne {other : Nat} (member : other ∈ rest ++ others) : other ≠ index :=
      fun same => (List.nodup_cons.1 distinct).1 (same ▸ member)
    rw [inserted]
    refine ⟨⟨?_, ?_, ?_⟩, fun other member => ?_⟩
    · show (rest ++ ([index] ++ others)).Perm (List.range (t.set index d).size)
      rw [size_set]
      rw [free] at indices
      exact List.perm_middle.trans indices
    · intro other member
      show ((t.set index d).get other).isVacant = true
      rw [get_set_of_ne t (other_ne (List.mem_append_left _ member))]
      exact vacant other (by simp [free, show other ∈ rest from member])
    · intro other member
      show ((t.set index d).get other).isVacant = false
      rcases List.mem_cons.1 member with rfl | member
      · rw [get_set_self t lt]
        exact stored
      · rw [get_set_of_ne t (other_ne (List.mem_append_right _ member))]
        exact filled other member
    · exact get_set_of_ne t (other_ne (List.mem_append_right _ member)) d

/-- A document that was just stored is read where it was stored. -/
theorem get_insert (h : t.Holding held) (d : Document) : (t.insert d).1.get (t.insert d).2 = d := by
  cases free : t.free with
  | nil =>
    rw [insert, free]
    simp [get]
  | cons index rest =>
    have lt : index < t.size := List.mem_range.1 (h.indices.mem_iff.1 (by simp [free]))
    rw [insert, free]
    exact get_set_self t lt d

theorem trades_delete (t : DocumentTable) (index : Nat) : t.Trades (t.delete index) [index] [] := by
  intro others h
  have distinct := h.indices.nodup_iff.2 List.nodup_range
  obtain ⟨-, distinct, apart⟩ := List.nodup_append.1 distinct
  have other_ne {other : Nat} (member : other ∈ others) : other ≠ index :=
    fun same => (List.nodup_cons.1 distinct).1 (same ▸ member)
  have lt := h.lt List.mem_cons_self
  refine ⟨⟨?_, ?_, ?_⟩, fun other member => get_delete_of_ne t (other_ne member)⟩
  · show ((index :: t.free) ++ ([] ++ others)).Perm (List.range (t.set index Document.vacant).size)
    rw [size_set]
    exact List.perm_middle.symm.trans h.indices
  · intro other member
    rcases List.mem_cons.1 member with rfl | member
    · rw [show (t.delete other).get other = Document.vacant from get_set_self t lt _]
      rfl
    · rw [get_delete_of_ne t fun same => apart other member index List.mem_cons_self same]
      exact h.vacant other member
  · intro other member
    rw [get_delete_of_ne t (other_ne member)]
    exact h.stored other (List.mem_cons_of_mem _ member)

/-- Copying a document that is held gives an index that nobody holds. -/
theorem trades_copy (t : DocumentTable) (index : Nat) :
    t.Trades (t.copy index).1 [index] [(t.copy index).2, index] := by
  intro others h
  have stored : (t.get index).copy.isVacant = false := h.stored index List.mem_cons_self
  exact ((t.trades_insert stored).frame [index]) others h

/-- A document that was loaded was stored. -/
theorem load_eq_ok {fs : FileSystem} {path : String} (loaded : t.load fs path = .ok (u, index)) :
    ∃ d, Document.load fs path = .ok d ∧ (u, index) = t.insert d ∧ t.Trades u [] [index] := by
  rw [load] at loaded
  cases read : Document.load fs path with
  | error fault =>
    rw [read] at loaded
    cases loaded
  | ok d =>
    rw [read] at loaded
    have inserted : t.insert d = (u, index) := Except.ok.inj loaded
    have trades := t.trades_insert (Document.isVacant_of_load read)
    rw [inserted] at trades
    exact ⟨d, rfl, inserted.symm, trades⟩

end DocumentTable

end EditorBundles.PropertyList
