import EditorBundles.Proofs.PropertyList.Operations
import EditorBundles.Proofs.PropertyList.Places

/-!
# The trees below cells

`Forest d cells values places` says that the cells mean the values, and that the trees below them take
the listed places: a place that two of them shared, or that lay below itself, would be listed twice.
Its rules follow the cells from left to right and go down into each container, and so do the proofs:
`Forest.frame` keeps a forest whose places stay as they are, `Forest.value` reads its values back, and
`Forest.release` frees it.
-/

namespace EditorBundles.PropertyList
set_option autoImplicit false
open Document (Agrees Uses)

/-- The cells mean the values, and the trees below them take the places. -/
inductive Forest (d : Document) : List Cell → List Value → List Place → Prop where
  | nil : Forest d [] [] []
  | integer {cs vs ps} (n : Int64) (behind : Forest d cs vs ps) : Forest d (.integer n :: cs)
      (.integer n :: vs) ps
  | bool {cs vs ps} (b : Bool) (behind : Forest d cs vs ps) : Forest d (.bool b :: cs) (.bool b :: vs) ps
  | string {slot s cs vs ps} (read : d.content? (.string slot) = some (.text s)) (behind : Forest d cs vs ps) :
      Forest d (.string slot :: cs) (.string s :: vs) (.string slot :: ps)
  | array {slot cells items inner cs vs ps} (read : d.content? (.array slot) = some (.items cells))
      (below : Forest d cells items inner) (behind : Forest d cs vs ps) :
      Forest d (.array slot :: cs) (.array items :: vs) (.array slot :: (inner ++ ps))
  | dict {slot es entries inner cs vs ps} (read : d.content? (.dict slot) = some (.entries es))
      (distinct : (Entries.keys es).Nodup) (keys : Entries.keys entries = Entries.keys es)
      (below : Forest d (es.map Prod.snd) (entries.map Prod.snd) inner) (behind : Forest d cs vs ps) :
      Forest d (.dict slot :: cs) (.dict entries :: vs) (.dict slot :: (inner ++ ps))

namespace Forest

variable {d e : Document} {c : Cell} {cs cs' : List Cell} {v : Value} {vs vs' : List Value}
  {ps ps' rest : List Place}

/-- A forest stays as long as its places do. -/
theorem frame (h : Forest d cs vs ps) (agrees : d.Agrees e ps) : Forest e cs vs ps := by
  induction h with
  | nil => exact .nil
  | integer n _ ih => exact .integer n (ih agrees)
  | bool b _ ih => exact .bool b (ih agrees)
  | string read _ ih =>
    exact .string ((agrees _ (by simp)).trans read) (ih (agrees.mono (by simp)))
  | array read _ _ ihBelow ihBehind =>
    exact .array ((agrees _ (by simp)).trans read) (ihBelow (agrees.mono (by simp)))
      (ihBehind (agrees.mono (by simp)))
  | dict read distinct keys _ _ ihBelow ihBehind =>
    exact .dict ((agrees _ (by simp)).trans read) distinct keys (ihBelow (agrees.mono (by simp)))
      (ihBehind (agrees.mono (by simp)))

theorem length_eq (h : Forest d cs vs ps) : cs.length = vs.length := by
  induction h with
  | nil => rfl
  | _ => simp_all

theorem append (h : Forest d cs vs ps) (h' : Forest d cs' vs' ps') :
    Forest d (cs ++ cs') (vs ++ vs') (ps ++ ps') := by
  induction h with
  | nil => exact h'
  | integer n _ ih => exact .integer n ih
  | bool b _ ih => exact .bool b ih
  | string read _ ih => exact .string read ih
  | array read below _ _ ih => simpa using Forest.array read below ih
  | dict read distinct keys below _ _ ih => simpa using Forest.dict read distinct keys below ih

/-- The first tree of a forest and the others. -/
theorem uncons (h : Forest d (c :: cs) vs ps) :
    ∃ v vs' here behind, vs = v :: vs' ∧ ps = here ++ behind ∧ Forest d [c] [v] here ∧
      Forest d cs vs' behind := by
  cases h with
  | integer n behind => exact ⟨_, _, [], _, rfl, rfl, .integer n .nil, behind⟩
  | bool b behind => exact ⟨_, _, [], _, rfl, rfl, .bool b .nil, behind⟩
  | string read behind => exact ⟨_, _, [_], _, rfl, rfl, .string read .nil, behind⟩
  | array read below behind =>
    exact ⟨_, _, _ :: (_ ++ []), _, rfl, by simp, .array read below .nil, behind⟩
  | dict read distinct keys below behind =>
    exact ⟨_, _, _ :: (_ ++ []), _, rfl, by simp, .dict read distinct keys below .nil, behind⟩

theorem dict_inv {slot : Nat} (h : Forest d [.dict slot] vs ps) :
    ∃ es entries inner, vs = [.dict entries] ∧ ps = .dict slot :: inner ∧
      d.content? (.dict slot) = some (.entries es) ∧ (Entries.keys es).Nodup ∧
      Entries.keys entries = Entries.keys es ∧ Forest d (es.map Prod.snd) (entries.map Prod.snd) inner := by
  cases h with
  | dict read distinct keys below behind =>
    cases behind
    exact ⟨_, _, _, rfl, by simp, read, distinct, keys, below⟩

theorem array_inv {slot : Nat} (h : Forest d [.array slot] vs ps) :
    ∃ cells items inner, vs = [.array items] ∧ ps = .array slot :: inner ∧
      d.content? (.array slot) = some (.items cells) ∧ Forest d cells items inner := by
  cases h with
  | array read below behind =>
    cases behind
    exact ⟨_, _, _, rfl, by simp, read, below⟩

theorem of_dict {slot : Nat} {es : List (String × Cell)} {entries : List (String × Value)}
    (read : d.content? (.dict slot) = some (.entries es)) (distinct : (Entries.keys es).Nodup)
    (keys : Entries.keys entries = Entries.keys es)
    (below : Forest d (es.map Prod.snd) (entries.map Prod.snd) ps) :
    Forest d [.dict slot] [.dict entries] (.dict slot :: ps) := by
  simpa using Forest.dict read distinct keys below .nil

theorem of_array {slot : Nat} (read : d.content? (.array slot) = some (.items cs)) (below : Forest d cs vs ps) :
    Forest d [.array slot] [.array vs] (.array slot :: ps) := by
  simpa using Forest.array read below .nil

/-- The trees below the front cells and those below the back cells. -/
theorem split (h : Forest d (cs ++ cs') vs ps) :
    ∃ front back here behind, vs = front ++ back ∧ ps = here ++ behind ∧ Forest d cs front here ∧
      Forest d cs' back behind := by
  induction cs generalizing vs ps with
  | nil => exact ⟨[], vs, [], ps, rfl, rfl, .nil, h⟩
  | cons c cs ih =>
    obtain ⟨v, vs, here, behind, rfl, rfl, first, others⟩ := h.uncons
    obtain ⟨front, back, inside, outside, rfl, rfl, left, right⟩ := ih others
    exact ⟨v :: front, back, here ++ inside, outside, rfl, by simp, first.append left, right⟩

/-- One tree of a forest and the others: another tree can stand in its place, or none, as long as the
others stay. -/
theorem middle {front back : List Cell} (h : Forest d (front ++ c :: back) vs ps) :
    ∃ left v right here others, vs = left ++ v :: right ∧ left.length = front.length ∧
      Forest d [c] [v] here ∧ ps.Perm (here ++ others) ∧
      (∀ e c' v' here', d.Agrees e others → Forest e [c'] [v'] here' →
        ∃ ps', Forest e (front ++ c' :: back) (left ++ v' :: right) ps' ∧ ps'.Perm (here' ++ others)) ∧
      ∀ e, d.Agrees e others → Forest e (front ++ back) (left ++ right) others := by
  obtain ⟨left, vs, before, ps, rfl, rfl, first, others⟩ := h.split
  obtain ⟨v, right, here, behind, rfl, rfl, found, last⟩ := others.uncons
  refine ⟨left, v, right, here, before ++ behind, rfl, first.length_eq.symm, found, by grind, ?_, ?_⟩
  · intro e c' v' here' agrees new
    have left := first.frame (agrees.mono (by simp))
    have right := last.frame (agrees.mono (by simp))
    exact ⟨_, left.append (new.append right), by grind⟩
  · intro e agrees
    exact (first.frame (agrees.mono (by simp))).append (last.frame (agrees.mono (by simp)))

/-- The tree at an index of a list. -/
theorem item {i : Nat} (h : Forest d cs vs ps) (found : cs[i]? = some c) :
    ∃ v here others, vs[i]? = some v ∧ Forest d [c] [v] here ∧ ps.Perm (here ++ others) ∧
      (∀ e c' v' here', d.Agrees e others → Forest e [c'] [v'] here' →
        ∃ ps', Forest e (cs.set i c') (vs.set i v') ps' ∧ ps'.Perm (here' ++ others)) ∧
      ∀ e, d.Agrees e others → Forest e (cs.eraseIdx i) (vs.eraseIdx i) others := by
  obtain ⟨bound, rfl⟩ := List.getElem?_eq_some_iff.1 found
  have parts : cs = cs.take i ++ cs[i] :: cs.drop (i + 1) := by simp
  rw [parts] at h
  obtain ⟨left, v, right, here, others, rfl, length, tree, perm, refill, without⟩ := h.middle
  have length : left.length = i := by simpa [Nat.min_eq_left (Nat.le_of_lt bound)] using length
  refine ⟨v, here, others, by simp [← length], tree, perm, ?_, ?_⟩
  · intro e c' v' here' agrees new
    obtain ⟨ps', whole, perm'⟩ := refill e c' v' here' agrees new
    refine ⟨ps', ?_, perm'⟩
    rwa [List.set_eq_take_append_cons_drop, if_pos bound, ← length, List.set_append_right _ _ (Nat.le_refl _),
      Nat.sub_self, List.set_cons_zero, length]
  · intro e agrees
    have whole := without e agrees
    rwa [List.eraseIdx_eq_take_drop_succ, ← length, List.eraseIdx_append_of_length_le (Nat.le_refl _),
      Nat.sub_self, List.eraseIdx_cons_zero, length]

/-- The tree at a key of a dictionary. -/
theorem entry {es : List (String × Cell)} {entries : List (String × Value)} {key : String}
    (h : Forest d (es.map Prod.snd) (entries.map Prod.snd) ps) (keys : Entries.keys entries = Entries.keys es)
    (found : Entries.get? es key = some c) :
    ∃ v here others, Entries.get? entries key = some v ∧ Forest d [c] [v] here ∧ ps.Perm (here ++ others) ∧
      (∀ e c' v' here', d.Agrees e others → Forest e [c'] [v'] here' →
        ∃ ps', Forest e ((Entries.put es key c').map Prod.snd) ((Entries.put entries key v').map Prod.snd) ps' ∧
          ps'.Perm (here' ++ others)) ∧
      ∀ e, d.Agrees e others →
        Forest e ((Entries.erase es key).map Prod.snd) ((Entries.erase entries key).map Prod.snd) others := by
  obtain ⟨front, back, rfl, fresh⟩ := Entries.exists_split_of_get? found
  rw [List.map_append, List.map_cons] at h
  obtain ⟨left, v, right, here, others, values, length, tree, perm, refill, without⟩ := h.middle
  -- the entries split at the same key
  rw [Entries.keys_append, Entries.keys_cons] at keys
  obtain ⟨front', rest, rfl, sameFront, sameRest⟩ := List.map_eq_append_iff.1 keys
  obtain ⟨⟨k, w⟩, back', rfl, rfl, sameBack⟩ := List.map_eq_cons_iff.1 sameRest
  have fresh' : k ∉ Entries.keys front' := by rwa [← show Entries.keys front' = _ from sameFront] at fresh
  have sameLength : (front'.map Prod.snd).length = left.length := by
    rw [List.length_map, length, List.length_map]
    simpa [Entries.keys] using congrArg List.length sameFront
  rw [List.map_append, List.map_cons] at values
  obtain ⟨rfl, rest⟩ := List.append_inj values sameLength
  obtain ⟨rfl, rfl⟩ := List.cons.inj rest
  refine ⟨w, here, others, Entries.get?_split fresh' w, tree, perm, ?_, ?_⟩
  · intro e c' v' here' agrees new
    rw [Entries.put_split fresh, Entries.put_split fresh']
    simpa using refill e c' v' here' agrees new
  · intro e agrees
    rw [Entries.erase_split fresh, Entries.erase_split fresh']
    simpa using without e agrees

/-- What one step from a cell leads to has a tree, which can be replaced. -/
theorem child {c' : Cell} {step : Step} (h : Forest d [c] [v] ps) (found : d.child? c step = some c') :
    ∃ v' here others, v.child? step = some v' ∧ Forest d [c'] [v'] here ∧ ps.Perm (here ++ others) ∧
      ∀ e w new, d.Agrees e others → Forest e [c'] [w] new →
        e.child? c step = some c' ∧ ∃ ps', Forest e [c] [v.setChild w step] ps' ∧ ps'.Perm (new ++ others) := by
  cases h with
  | @dict slot es entries inner _ _ _ read distinct keys below behind =>
    cases behind
    cases step with
    | item => simp [Document.child?] at found
    | key key =>
      rw [Document.child?, Document.content?_dict read] at found
      obtain ⟨v', here, others, found', tree, perm, refill, -⟩ := below.entry keys found
      refine ⟨v', here, .dict slot :: others, found', tree, by grind, fun e w new agrees tree' => ?_⟩
      have read' := (agrees _ (by simp)).trans read
      obtain ⟨inner', below', perm'⟩ := refill e c' w new (agrees.mono (by simp)) tree'
      rw [Entries.put_of_get? found] at below'
      have keys' : Entries.keys (Entries.put entries key w) = Entries.keys es := by
        rw [Entries.keys_put, keys, if_pos (Entries.mem_keys_of_get? found)]
      exact ⟨by rwa [Document.child?, Document.content?_dict read'], _, .of_dict read' distinct keys' below',
        by grind⟩
  | @array slot cells items inner _ _ _ read below behind =>
    cases behind
    cases step with
    | key => simp [Document.child?] at found
    | item index =>
      rw [Document.child?, Document.content?_array read] at found
      obtain ⟨v', here, others, found', tree, perm, refill, -⟩ := below.item found
      refine ⟨v', here, .array slot :: others, found', tree, by grind, fun e w new agrees tree' => ?_⟩
      have read' := (agrees _ (by simp)).trans read
      obtain ⟨inner', below', perm'⟩ := refill e c' w new (agrees.mono (by simp)) tree'
      have same : cells.set index c' = cells := by
        obtain ⟨bound, rfl⟩ := List.getElem?_eq_some_iff.1 found
        exact List.set_getElem_self bound
      rw [same] at below'
      exact ⟨by rwa [Document.child?, Document.content?_array read'], _, .of_array read' below', by grind⟩
  | _ => simp [Document.child?] at found

/-- What a path from a cell leads to has a tree, which can be replaced. -/
theorem follow {c' : Cell} {path : List Step} (h : Forest d [c] [v] ps) (found : d.follow? c path = some c') :
    ∃ v' here others, v.follow? path = some v' ∧ Forest d [c'] [v'] here ∧ ps.Perm (here ++ others) ∧
      ∀ e w new, d.Agrees e others → Forest e [c'] [w] new →
        e.follow? c path = some c' ∧ ∃ ps', Forest e [c] [v.setAt w path] ps' ∧ ps'.Perm (new ++ others) := by
  induction path generalizing c v ps with
  | nil =>
    cases found
    exact ⟨v, ps, [], rfl, h, by simp, fun e w new _ tree => ⟨rfl, new, tree, by simp⟩⟩
  | cons step path ih =>
    obtain ⟨next, first, found⟩ := Option.bind_eq_some_iff.1 found
    obtain ⟨w, inside, outside, stepped, tree, perm, refill⟩ := h.child first
    obtain ⟨v', here, others, reached, tree', perm', refill'⟩ := ih tree found
    refine ⟨v', here, others ++ outside, ?_, tree', by grind, fun e x new agrees fresh => ?_⟩
    · rw [Value.follow?, stepped]
      exact reached
    · obtain ⟨found', inside', whole', same'⟩ := refill' e x new (agrees.mono (by simp)) fresh
      obtain ⟨first', ps', whole, same⟩ := refill e _ inside' (agrees.mono (by simp)) whole'
      refine ⟨by rwa [Document.follow?, first'], ps', ?_, by grind⟩
      rw [Value.setAt, stepped]
      exact whole

/-- A forest has values of its own. -/
theorem map_valueWithin (h : Forest d cs vs ps) (levels : Nat) (deep : ps.countP Place.isContainer ≤ levels) :
    cs.map (d.valueWithin levels) = vs := by
  induction h generalizing levels with
  | nil => rfl
  | integer n _ ih => simp [Document.valueWithin, ih levels deep]
  | bool b _ ih => simp [Document.valueWithin, ih levels deep]
  | string read _ ih =>
    have deep := ih levels (by simpa [Place.isContainer] using deep)
    simp [Document.valueWithin, Document.content?_string read, deep]
  | array read _ _ ihBelow ihBehind =>
    simp only [List.countP_cons, List.countP_append, Place.isContainer, if_true] at deep
    obtain ⟨levels, rfl⟩ : ∃ fewer, levels = fewer + 1 := ⟨levels - 1, by omega⟩
    have below := ihBelow levels (by omega)
    have behind := ihBehind (levels + 1) (by omega)
    simp [Document.valueWithin, Document.content?_array read, below, behind]
  | @dict slot es entries inner cs vs ps read distinct keys _ _ ihBelow ihBehind =>
    simp only [List.countP_cons, List.countP_append, Place.isContainer, if_true] at deep
    obtain ⟨levels, rfl⟩ : ∃ fewer, levels = fewer + 1 := ⟨levels - 1, by omega⟩
    have below := ihBelow levels (by omega)
    have behind := ihBehind (levels + 1) (by omega)
    have zipped : es.map (fun entry => (entry.1, d.valueWithin levels entry.2)) = entries := by
      refine Entries.ext ?_ ?_
      · rw [keys]
        simp [Entries.keys]
      · rw [← below]
        simp
    simp [Document.valueWithin, Document.content?_dict read, zipped, behind]

theorem value (h : Forest d [c] [v] ps) (uses : d.Uses (ps ++ rest)) : d.value c = v := by
  have deep := uses.countP_isContainer_lt_levels
  rw [List.countP_append] at deep
  exact List.singleton_inj.1 (h.map_valueWithin _ (by omega))

/-- A place is given back once it has been emptied and what lay below it has been freed. -/
theorem freed_place {e emptied freed given : Document} {p : Place} {inner : List Place}
    (uses : e.Uses (p :: (inner ++ rest))) (wrote : e.Wrote emptied p p.blank)
    (below : e.Agrees emptied inner → emptied.Uses (inner ++ (p :: rest)) →
      freed.Uses (p :: rest) ∧ emptied.Agrees freed (p :: rest))
    (gave : freed.Gave given p) : given.Uses rest ∧ e.Agrees given rest := by
  have apart : p ∉ inner ++ rest := (List.nodup_cons.1 uses.nodup).1
  have kept := wrote.agrees apart
  have written : emptied.Uses (inner ++ (p :: rest)) := (wrote.uses uses (by simp)).of_perm (by grind)
  obtain ⟨used, same⟩ := below (kept.mono (by simp)) written
  have empty : freed.content? p = some p.blank :=
    (same p (by simp)).trans (wrote.read (uses.mem_places (by simp)))
  have unchanged : e.Agrees freed rest := (kept.mono (by simp)).trans (same.mono (by simp))
  exact ⟨gave.uses used empty, unchanged.trans fun q _ => gave.content? q⟩

/-- Freeing the cells of a forest gives its places back and leaves the others alone. -/
theorem releaseWithin (h : Forest d cs vs ps) (levels : Nat) (deep : ps.countP Place.isContainer ≤ levels)
    (agrees : d.Agrees e ps) (uses : e.Uses (ps ++ rest)) :
    (cs.foldl (Document.releaseWithin levels) e).Uses rest ∧
      e.Agrees (cs.foldl (Document.releaseWithin levels) e) rest := by
  induction h generalizing levels e rest with
  | nil => exact ⟨uses, .refl e rest⟩
  | integer n _ ih =>
    simp only [List.foldl_cons, Document.releaseWithin]
    exact ih levels deep agrees uses
  | bool b _ ih =>
    simp only [List.foldl_cons, Document.releaseWithin]
    exact ih levels deep agrees uses
  | @string slot s cs vs ps read _ ih =>
    have alone : e.Uses (.string slot :: ([] ++ (ps ++ rest))) := uses
    obtain ⟨used, kept⟩ := freed_place alone (e.wrote_setText slot "")
      (fun _ uses => ⟨uses, .refl _ _⟩) ((e.setText slot "").gave_string slot)
    obtain ⟨usedBehind, keptBehind⟩ := ih levels (by simpa [Place.isContainer] using deep)
      ((agrees.mono (by simp)).trans (kept.mono (by simp))) used
    simp only [List.foldl_cons, Document.releaseWithin]
    exact ⟨usedBehind, (kept.mono (by simp)).trans keptBehind⟩
  | @array slot cells items inner cs vs ps read _ _ ihBelow ihBehind =>
    simp only [List.countP_cons, List.countP_append, Place.isContainer, if_true] at deep
    obtain ⟨levels, rfl⟩ : ∃ fewer, levels = fewer + 1 := ⟨levels - 1, by omega⟩
    have holds : e.array slot = cells := Document.content?_array ((agrees _ (by simp)).trans read)
    have nested : e.Uses (.array slot :: (inner ++ (ps ++ rest))) := by simpa using uses
    obtain ⟨used, kept⟩ := freed_place nested (e.wrote_setArray slot [])
      (fun same uses => ihBelow levels (by omega) ((agrees.mono (by simp)).trans same) uses)
      (Document.gave_array _ slot)
    obtain ⟨usedBehind, keptBehind⟩ := ihBehind (levels + 1) (by omega)
      ((agrees.mono (by simp)).trans (kept.mono (by simp))) used
    simp only [List.foldl_cons, Document.releaseWithin, holds]
    exact ⟨usedBehind, (kept.mono (by simp)).trans keptBehind⟩
  | @dict slot es entries inner cs vs ps read _ _ _ _ ihBelow ihBehind =>
    simp only [List.countP_cons, List.countP_append, Place.isContainer, if_true] at deep
    obtain ⟨levels, rfl⟩ : ∃ fewer, levels = fewer + 1 := ⟨levels - 1, by omega⟩
    have holds : e.dict slot = es := Document.content?_dict ((agrees _ (by simp)).trans read)
    have nested : e.Uses (.dict slot :: (inner ++ (ps ++ rest))) := by simpa using uses
    obtain ⟨used, kept⟩ := freed_place nested (e.wrote_setDict slot [])
      (fun same uses => ihBelow levels (by omega) ((agrees.mono (by simp)).trans same) uses)
      (Document.gave_dict _ slot)
    obtain ⟨usedBehind, keptBehind⟩ := ihBehind (levels + 1) (by omega)
      ((agrees.mono (by simp)).trans (kept.mono (by simp))) used
    simp only [List.foldl_cons, Document.releaseWithin, holds]
    exact ⟨usedBehind, (kept.mono (by simp)).trans keptBehind⟩

theorem release (h : Forest d [c] [v] ps) (uses : d.Uses (ps ++ rest)) :
    (d.release c).Uses rest ∧ d.Agrees (d.release c) rest := by
  have deep := uses.countP_isContainer_lt_levels
  rw [List.countP_append] at deep
  exact h.releaseWithin d.levels (by omega) (.refl d ps) uses

theorem releaseAll (h : Forest d cs vs ps) (uses : d.Uses (ps ++ rest)) :
    (d.releaseAll cs).Uses rest ∧ d.Agrees (d.releaseAll cs) rest := by
  induction cs generalizing d vs ps with
  | nil =>
    cases h
    exact ⟨uses, .refl d rest⟩
  | cons c cs ih =>
    obtain ⟨v, vs, here, behind, rfl, rfl, first, others⟩ := h.uncons
    rw [List.append_assoc] at uses
    obtain ⟨used, same⟩ := first.release uses
    obtain ⟨usedBehind, sameBehind⟩ := ih (others.frame (same.mono (by simp))) used
    exact ⟨usedBehind, (same.mono (by simp)).trans sameBehind⟩

/-- A container is written anew, and some of what lay below it is freed. -/
theorem releaseAll_wrote {p : Place} {content : Content} (h : Forest d cs vs ps) (wrote : d.Wrote e p content)
    (uses : d.Uses (p :: (ps ++ rest))) :
    (e.releaseAll cs).Uses (p :: rest) ∧ d.Agrees (e.releaseAll cs) rest ∧
      (e.releaseAll cs).content? p = some content := by
  have kept := wrote.agrees (List.nodup_cons.1 uses.nodup).1
  have written : e.Uses (ps ++ (p :: rest)) := (wrote.uses uses (by simp)).of_perm (by grind)
  obtain ⟨freed, same⟩ := (h.frame (kept.mono (by simp))).releaseAll written
  have holds := wrote.read (uses.mem_places (by simp))
  exact ⟨freed, (kept.mono (by simp)).trans (same.mono (by simp)), (same p (by simp)).trans holds⟩

end Forest

end EditorBundles.PropertyList
