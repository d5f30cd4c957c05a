import EditorBundles.Proofs.PropertyList.Holding

/-!
# Histories of a table of documents

A table that starts empty goes through any run of operations. A `Shelf` is what its users know of it: the document
that they stored or edited last under each index. Over every run the table reads as the shelf says, the indices
that are free are those without a document, and there are never more indices than there once were documents.
-/

namespace EditorBundles.PropertyList
set_option autoImplicit false

namespace DocumentTable

/-- The document that was stored or edited last under each index, unless it was deleted. -/
abbrev Shelf : Type := Nat → Option Document

/-- What is done to a table. -/
inductive Operation where
  | insert (d : Document)
  | create (name uuid : String) (filename : Option String)
  | load (fs : FileSystem) (path : String)
  | copy (index : Nat)
  | edit (index : Nat) (change : Document → Document)
  | delete (index : Nat)

namespace Operation

/-- Does an operation, and gives the index under which a document was stored if one was. -/
def run (t : DocumentTable) : Operation → DocumentTable × Option Nat
  | insert d => (t.insert d).map id some
  | create name uuid filename => (t.create name uuid filename).map id some
  | load fs path =>
    match t.load fs path with
    | .error _ => (t, none)
    | .ok (t, index) => (t, some index)
  | copy index => (t.copy index).map id some
  | edit index change => (t.modify index change, none)
  | delete index => (t.delete index, none)

/-- Documents that are stored or edited have a root, and what is copied, edited or deleted is there. -/
def Fits (shelf : Shelf) : Operation → Prop
  | insert d => d.isVacant = false
  | create _ _ _ => True
  | load _ _ => True
  | copy index => (shelf index).isSome
  | edit index change => ∃ d, shelf index = some d ∧ (change d).isVacant = false
  | delete index => (shelf index).isSome

/-- The document that an operation is to store under a new index. -/
def document? (shelf : Shelf) : Operation → Option Document
  | insert d => some d
  | create name uuid filename => some { Document.create name uuid with filename := filename.getD "" }
  | load fs path => (Document.load fs path).toOption
  | copy index => (shelf index).map fun d => { d with modTime := 0 }
  | edit _ _ => none
  | delete _ => none

/-- What is known after an operation, which gave an index if it stored a document. -/
def note (shelf : Shelf) (given : Option Nat) (op : Operation) : Shelf :=
  match given, op with
  | some index, op => Function.update shelf index (op.document? shelf)
  | none, edit index change => Function.update shelf index ((shelf index).map change)
  | none, delete index => Function.update shelf index none
  | none, _ => shelf

end Operation

/-- A run from the empty table, with what is known after it, and the most documents that there were at a time. -/
inductive Run : DocumentTable → Shelf → Nat → Prop where
  | empty : Run {} (fun _ => none) 0
  | step {t t' : DocumentTable} {shelf : Shelf} {peak : Nat} {op : Operation} {given : Option Nat}
      (run : Run t shelf peak) (fits : op.Fits shelf) (ran : op.run t = (t', given)) :
      Run t' (op.note shelf given) (max peak t'.liveCount)

/-- The table has the documents of the shelf, and the other indices are free. -/
structure Shows (t : DocumentTable) (shelf : Shelf) : Prop where
  holding : ∃ held, t.Holding held
  live : ∀ index, t.isLive index = (shelf index).isSome
  reads : ∀ index d, shelf index = some d → t.get index = d

variable {t t' : DocumentTable} {shelf : Shelf} {peak index : Nat} {d : Document} {op : Operation}

/-- The indices that are free are those without a document. -/
theorem Holding.mem_free_iff {held : List Nat} (h : t.Holding held) :
    index ∈ t.free ↔ index < t.size ∧ (t.get index).isVacant = true := by
  constructor
  · intro free
    exact ⟨List.mem_range.1 (h.indices.mem_iff.1 (List.mem_append_left _ free)), h.vacant index free⟩
  · rintro ⟨bound, vacant⟩
    refine (List.mem_append.1 (h.indices.mem_iff.2 (List.mem_range.2 bound))).resolve_right fun member => ?_
    rw [h.stored index member] at vacant
    cases vacant

theorem Holding.free_nodup {held : List Nat} (h : t.Holding held) : t.free.Nodup :=
  (List.nodup_append.1 (h.indices.nodup_iff.2 List.nodup_range)).1

/-- There are more indices after a document was stored only if it makes more documents than ever. -/
theorem size_insert (t : DocumentTable) (d : Document) : (t.insert d).1.size = max t.size (t.insert d).1.liveCount := by
  cases free : t.free with
  | nil =>
    rw [insert, free]
    simp [size, liveCount]
  | cons index rest =>
    rw [insert, free]
    simp [size, liveCount, set]

theorem free_eq_nil_of_size_lt (t : DocumentTable) (d : Document) (grows : t.size < (t.insert d).1.size) : t.free = [] := by
  cases free : t.free with
  | nil => rfl
  | cons index rest =>
    rw [insert, free] at grows
    exact absurd grows (by simp [size, set])

namespace Shows

theorem isSome_iff (h : t.Shows shelf) {held : List Nat} (holding : t.Holding held) :
    index ∈ held ↔ (shelf index).isSome = true := by
  rw [holding.mem_iff, h.live]

theorem get_eq (h : t.Shows shelf) (known : (shelf index).isSome) : shelf index = some (t.get index) := by
  obtain ⟨d, found⟩ := Option.isSome_iff_exists.1 known
  rw [found, h.reads index d found]

/-- A table shows a shelf that differs at one index if it holds the documents of all others as it did. -/
theorem update {held : List Nat} {d? : Option Document} (h : t.Shows shelf) (holding : t'.Holding held)
    (here : t'.isLive index = d?.isSome) (read : ∀ d, d? = some d → t'.get index = d)
    (others : ∀ other, other ≠ index → t'.isLive other = t.isLive other ∧
      (t.isLive other = true → t'.get other = t.get other)) : t'.Shows (Function.update shelf index d?) where
  holding := ⟨held, holding⟩
  live other := by
    by_cases same : other = index
    · subst same
      rw [Function.update_self, here]
    · rw [Function.update_of_ne same, (others other same).1, h.live]
  reads other d found := by
    by_cases same : other = index
    · subst same
      rw [Function.update_self] at found
      exact read d found
    · rw [Function.update_of_ne same] at found
      rw [(others other same).2 (by rw [h.live, found]; rfl), h.reads other d found]

/-- A document is stored under an index that had none, and the others are left alone. -/
theorem insert (h : t.Shows shelf) (stored : d.isVacant = false) :
    shelf (t.insert d).2 = none ∧ (t.insert d).1.Shows (Function.update shelf (t.insert d).2 (some d)) := by
  obtain ⟨held, holding⟩ := h.holding
  obtain ⟨holding', kept⟩ := t.trades_insert stored held holding
  have fresh : (t.insert d).2 ∉ held := (List.nodup_cons.1 holding'.nodup).1
  constructor
  · rw [h.isSome_iff holding] at fresh
    simpa using fresh
  · refine h.update holding' (holding'.mem_iff.1 List.mem_cons_self) (fun d' same => ?_) fun other ne => ⟨?_, ?_⟩
    · rw [get_insert holding d, Option.some.inj same]
    · rw [Bool.eq_iff_iff, ← holding'.mem_iff, ← holding.mem_iff]
      simp [ne]
    · exact fun live => kept other (holding.mem_iff.2 live)

/-- A document is written to, and the others are left alone. -/
theorem set (h : t.Shows shelf) (known : (shelf index).isSome) (stored : d.isVacant = false) :
    (t.set index d).Shows (Function.update shelf index (some d)) := by
  obtain ⟨held, holding⟩ := h.holding
  have member : index ∈ held := (h.isSome_iff holding).2 known
  have rewrites := t.rewrites_set (stored.trans (holding.stored index member).symm)
  have holding' := holding.rewrite rewrites
  refine h.update holding' (holding'.mem_iff.1 member) (fun d' same => ?_) fun other ne => ⟨?_, fun _ => get_set_of_ne t ne d⟩
  · rw [get_set_self t (holding.lt member), Option.some.inj same]
  · rw [Bool.eq_iff_iff, ← holding'.mem_iff, ← holding.mem_iff]

/-- A document is deleted, and the others are left alone. -/
theorem delete (h : t.Shows shelf) (known : (shelf index).isSome) :
    (t.delete index).Shows (Function.update shelf index none) := by
  obtain ⟨held, holding⟩ := h.holding
  have split := List.perm_cons_erase ((h.isSome_iff holding).2 known)
  obtain ⟨holding', kept⟩ := t.trades_delete index _ (holding.perm split)
  refine h.update holding' (isLive_delete t index) (fun d none => nomatch none) fun other ne =>
    ⟨?_, fun _ => get_delete_of_ne t ne⟩
  rw [Bool.eq_iff_iff, ← holding'.mem_iff, ← (holding.perm split).mem_iff]
  simp [ne]

end Shows

/-- What comes of an operation: it stores a document under an index that had none, or gives no index and leaves the
number of indices alone. -/
inductive Outcome (t : DocumentTable) (shelf : Shelf) (op : Operation) : DocumentTable → Option Nat → Prop where
  | stores {d : Document} (stored : d.isVacant = false) (given : op.document? shelf = some d) :
      Outcome t shelf op (t.insert d).1 (some (t.insert d).2)
  | edits {index : Nat} {change : Document → Document} {d : Document} (same : op = .edit index change)
      (found : shelf index = some d) (stored : (change d).isVacant = false) :
      Outcome t shelf op (t.set index (change d)) none
  | deletes {index : Nat} (same : op = .delete index) (found : (shelf index).isSome) :
      Outcome t shelf op (t.delete index) none
  | fails {fs : FileSystem} {path : String} (same : op = .load fs path) (unread : (Document.load fs path).toOption = none) :
      Outcome t shelf op t none

theorem Operation.outcome (h : t.Shows shelf) (fits : op.Fits shelf) : Outcome t shelf op (op.run t).1 (op.run t).2 := by
  cases op with
  | insert d => exact .stores fits rfl
  | create name uuid filename => exact .stores (d := { Document.create name uuid with filename := filename.getD "" }) rfl rfl
  | load fs path =>
    cases read : Document.load fs path with
    | error fault =>
      rw [run, DocumentTable.load, read]
      exact .fails rfl (by rw [read]; rfl)
    | ok d =>
      rw [run, DocumentTable.load, read]
      exact .stores (Document.isVacant_of_load read) (by rw [document?, read]; rfl)
  | copy index =>
    have known := h.get_eq fits
    obtain ⟨held, holding⟩ := h.holding
    have stored := holding.stored index ((h.isSome_iff holding).2 fits)
    exact .stores (d := (t.get index).copy) stored (by rw [document?, known]; rfl)
  | edit index change =>
    obtain ⟨d, found, stored⟩ := fits
    rw [run, modify, h.reads index d found]
    exact .edits rfl found stored
  | delete index => exact .deletes rfl fits

/-- An operation leaves a table that shows what is known after it, with no more indices than it needs. -/
theorem Outcome.shows {given : Option Nat} (outcome : Outcome t shelf op t' given) (h : t.Shows shelf) :
    t'.Shows (op.note shelf given) ∧ t'.size = max t.size t'.liveCount ∧
      (t.size < t'.size → t.free = []) ∧
      ∀ index, given = some index → t.isLive index = false ∧ op.document? shelf = some (t'.get index) := by
  have bounded {u : DocumentTable} (same : u.size = t.size) :
      u.size = max t.size u.liveCount ∧ (t.size < u.size → t.free = []) := by
    have le : u.liveCount ≤ u.size := Nat.sub_le _ _
    exact ⟨by omega, fun grows => absurd grows (by omega)⟩
  cases outcome with
  | @stores d stored found =>
    obtain ⟨fresh, shows'⟩ := h.insert stored
    have noted : op.note shelf (some (t.insert d).2) = Function.update shelf (t.insert d).2 (some d) := by
      rw [Operation.note, found]
    refine ⟨noted ▸ shows', t.size_insert d, t.free_eq_nil_of_size_lt d, ?_⟩
    rintro _ ⟨⟩
    refine ⟨?_, ?_⟩
    · rw [h.live, fresh, Option.isSome_none]
    · rw [found, shows'.reads _ d (Function.update_self _ _ _)]
  | @edits index change d same found stored =>
    subst same
    obtain ⟨size, grows⟩ := bounded (size_set t index (change d))
    refine ⟨?_, size, grows, nofun⟩
    rw [Operation.note, found]
    exact h.set (by rw [found]; rfl) stored
  | @deletes index same found =>
    subst same
    obtain ⟨size, grows⟩ := bounded (u := t.delete index) (size_set t index _)
    exact ⟨h.delete found, size, grows, nofun⟩
  | fails same unread =>
    subst same
    obtain ⟨size, grows⟩ := bounded rfl
    exact ⟨h, size, grows, nofun⟩

/-- Over every run a table shows what is known, and has as many indices as there were documents at most. -/
theorem Run.shows (run : Run t shelf peak) : t.Shows shelf ∧ t.size = peak := by
  induction run with
  | empty => exact ⟨⟨⟨[], holding_empty⟩, fun _ => rfl, nofun⟩, rfl⟩
  | step run fits ran ih =>
    have outcome := Operation.outcome ih.1 fits
    rw [ran] at outcome
    obtain ⟨shows', size, -⟩ := outcome.shows ih.1
    rw [ih.2] at size
    exact ⟨shows', size⟩

/-- What a table of documents promises to those who stored the documents of a shelf in it. -/
structure Lawful (t : DocumentTable) (shelf : Shelf) (peak : Nat) : Prop where
  free_nodup : t.free.Nodup
  mem_free_iff : ∀ index, index ∈ t.free ↔ index < t.size ∧ (t.get index).isVacant = true
  live_iff : ∀ index, t.isLive index = true ↔ (shelf index).isSome = true
  reads : ∀ index d, shelf index = some d → t.get index = d
  size : t.size = peak
  grows : ∀ op : Operation, op.Fits shelf → t.size < (op.run t).1.size → t.free = []
  fresh : ∀ (op : Operation) (index : Nat), op.Fits shelf → (op.run t).2 = some index →
    t.isLive index = false ∧ op.document? shelf = some ((op.run t).1.get index)
  copies : ∀ index d, shelf index = some d →
    ∃ other, ((Operation.copy index).run t).2 = some other ∧
      ((Operation.copy index).run t).1.get other = { d with modTime := 0 } ∧
      ((Operation.copy index).run t).1.get index = d
  fails : ∀ fs path, ((Operation.load fs path).run t).2 = none →
    (Document.load fs path).toOption = none ∧ ((Operation.load fs path).run t).1 = t

/-- Over every run of operations from the empty table, the indices that are free are distinct, in range, and those
without a document; a document that was stored or edited under an index is read there until it is edited or deleted
through that index; a document is stored under an index that has none; a copy differs in its time only; there are
as many indices as there were documents at most; and what cannot be loaded leaves the table as it is. -/
theorem lawful_of_run (run : Run t shelf peak) : t.Lawful shelf peak := by
  obtain ⟨shows', size⟩ := run.shows
  obtain ⟨held, holding⟩ := shows'.holding
  have outcome {op : Operation} (fits : op.Fits shelf) := (Operation.outcome shows' fits).shows shows'
  refine { free_nodup := holding.free_nodup, mem_free_iff := fun _ => holding.mem_free_iff,
           live_iff := fun index => by rw [shows'.live], reads := shows'.reads, size,
           grows := fun op fits => (outcome fits).2.2.1, fresh := fun op index fits => (outcome fits).2.2.2 index,
           copies := ?_, fails := ?_ }
  · intro index d found
    have known : (shelf index).isSome := by rw [found]; rfl
    obtain ⟨after, -, -, fresh⟩ := @outcome (.copy index) known
    obtain ⟨free, copied⟩ := fresh (t.copy index).2 rfl
    have ne : index ≠ (t.copy index).2 := by
      rintro same
      rw [← same, shows'.live, known] at free
      cases free
    have kept : (Operation.copy index).note shelf (some (t.copy index).2) index = some d := by
      rw [Operation.note, Function.update_of_ne ne, found]
    rw [Operation.document?, found] at copied
    exact ⟨_, rfl, (Option.some.inj copied).symm, after.reads index d kept⟩
  · intro fs path failed
    cases read : Document.load fs path with
    | error fault => exact ⟨rfl, by rw [Operation.run, DocumentTable.load, read]; rfl⟩
    | ok d =>
      rw [Operation.run, DocumentTable.load, read] at failed
      cases failed

/-- Two documents are stored, the first is deleted, the second is copied into its place and then edited. -/
theorem lawful_of_run_reused :
    ∃ t shelf, Run t shelf 2 ∧ shelf 1 = some { Document.create "b" "V" with filename := "b.tmTheme", modTime := 9 } ∧
      shelf 0 = some { Document.create "b" "V" with filename := "b.tmTheme" } ∧ t.free = [] ∧ t.Lawful shelf 2 := by
  have first := @Run.step _ _ _ _ (.create "a" "U" none) _ .empty trivial rfl
  have second := @Run.step _ _ _ _ (.create "b" "V" (some "b.tmTheme")) _ first trivial rfl
  have deleted := @Run.step _ _ _ _ (.delete 0) _ second rfl rfl
  have copied := @Run.step _ _ _ _ (.copy 1) _ deleted rfl rfl
  have edited := @Run.step _ _ _ _ (.edit 1 fun d => { d with modTime := 9 }) _ copied ⟨_, rfl, rfl⟩ rfl
  exact ⟨_, _, edited, rfl, rfl, rfl, lawful_of_run edited⟩

end DocumentTable

end EditorBundles.PropertyList
