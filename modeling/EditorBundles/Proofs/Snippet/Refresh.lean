import EditorBundles.Proofs.Snippet.Resize
import Mathlib.Data.List.Nodup
import Mathlib.Data.List.Pairwise

/-!
# Bringing tab stops up to date

Mirrors and substitutions are written one after the other. Each write replaces the text of one live
interval that holds no other, so the live intervals go on nesting, and those that are not around what
was written keep their text. A tab stop that was rewritten holds nothing any more: the writes leave it
alone, and what shows it ends up with its text.
-/

namespace EditorBundles.Snippet.Session
set_option autoImplicit false
open Text (byteLength IsBoundary slice?)

/-- The text of an interval in the text of the snippet. -/
def textIn? (s : Session) (region : List Char) (id : Nat) : Option (List Char) :=
  slice? region (s.interval id).start (s.interval id).stop

/-- A buffer holds the text of a session between two texts. -/
structure Over (s : Session) (b : Buffer) (before region after : List Char) : Prop where
  text : b.text = before ++ region ++ after
  offset : s.offset = byteLength before
  cursor : IsBoundary b.text b.cursor
  tree : s.Tree region

/-- `t` is `s` after texts were written into the intervals `ids`. -/
structure Writes (s t : Session) (region region' : List Char) (ids : List Nat) : Prop where
  alike : s.Alike t
  kept : ∀ i ∈ s.liveIds, i ∉ ids → (∀ id ∈ ids, ¬ Below s.interval id i) →
    t.textIn? region' i = s.textIn? region i

variable {s t u : Session} {b : Buffer} {before region after region' region'' : List Char} {id number : Nat}
  {ids : List Nat}

theorem Writes.refl (s : Session) (region : List Char) :
    s.Writes s region region [] := ⟨.refl s, fun _ _ _ _ => rfl⟩

theorem Writes.trans {ids more : List Nat} (first : s.Writes t region region' ids)
    (second : t.Writes u region' region'' more) : s.Writes u region region'' (ids ++ more) where
  alike := first.alike.trans second.alike
  kept i alive other apart := by
    simp only [List.mem_append, not_or] at other
    have early := first.kept i alive other.1 fun id member => apart id (List.mem_append_left _ member)
    have late := second.kept i (first.alike.liveIds ▸ alive) other.2 fun id member below =>
      apart id (List.mem_append_right _ member) (first.alike.below.1 below)
    exact late.trans early

/-- A buffer holds one text between two others. -/
theorem Over.region_unique (h : s.Over b before region after) (h' : t.Over b before region' after) :
    region = region' :=
  List.append_cancel_left (List.append_cancel_right (h.text.symm.trans h'.text))

namespace Over

/-- A live interval splits the text of the snippet, and with it that of the buffer. -/
theorem parts (h : s.Over b before region after) (alive : id ∈ s.liveIds) :
    ∃ l m r, region = l ++ m ++ r ∧ (s.interval id).start = byteLength l ∧
      (s.interval id).stop = byteLength l + byteLength m ∧
      s.range id = (byteLength (before ++ l), byteLength (before ++ l) + byteLength m) := by
  obtain ⟨l, m, r, same, start, stop⟩ := (h.tree.nested.start_boundary id alive).parts
    (h.tree.nested.stop_boundary id alive) (h.tree.nested.start_le_stop id alive)
  refine ⟨l, m, r, same, start.symm, stop.symm, ?_⟩
  rw [range, h.offset, ← start, ← stop, Text.byteLength_append, Nat.add_assoc]

/-- A live interval stands between characters of the buffer. -/
theorem boundary_range (h : s.Over b before region after) (alive : id ∈ s.liveIds) :
    IsBoundary b.text (s.range id).1 ∧ IsBoundary b.text (s.range id).2 ∧ (s.range id).1 ≤ (s.range id).2 := by
  obtain ⟨l, m, r, rfl, -, -, range⟩ := h.parts alive
  rw [range, h.text, show before ++ (l ++ m ++ r) ++ after = (before ++ l) ++ m ++ (r ++ after) by simp]
  refine ⟨?_, ?_, Nat.le_add_right _ _⟩
  · rw [List.append_assoc]
    exact .length _ _
  · simpa only [Text.byteLength_append] using IsBoundary.length (before ++ l ++ m) (r ++ after)

/-- What the buffer holds at a live interval is what the snippet holds there. -/
theorem textOf?_eq (h : s.Over b before region after) (alive : id ∈ s.liveIds) :
    ∃ m, b.textOf? (s.range id).1 (s.range id).2 = some m ∧ s.textIn? region id = some m := by
  obtain ⟨l, m, r, same, start, stop, range⟩ := h.parts alive
  refine ⟨m, ?_, ?_⟩
  · rw [Buffer.textOf?, h.text, same, range,
      show before ++ (l ++ m ++ r) ++ after = (before ++ l) ++ m ++ (r ++ after) by simp]
    exact Text.slice?_append _ m _
  · rw [textIn?, same, start, stop]
    exact Text.slice?_append l m r

/-- Writing a text over `m`, the text of a live interval that holds no other. -/
theorem write?_parts {l m r : List Char} (h : s.Over b before (l ++ m ++ r) after) (alive : id ∈ s.liveIds)
    (leaf : ∀ i ∈ s.liveIds, ¬ Below s.interval i id) (start : (s.interval id).start = byteLength l)
    (stop : (s.interval id).stop = byteLength l + byteLength m) (content : List Char) :
    ∃ b', s.write? b id content = some (s.resize id ((byteLength content : Int) - byteLength m), b') ∧
      (s.resize id ((byteLength content : Int) - byteLength m)).Over b' before (l ++ content ++ r) after ∧
      b'.selection = b.selection := by
  have range : s.range id = (byteLength (before ++ l), byteLength (before ++ l) + byteLength m) := by
    rw [Session.range, h.offset, start, stop, Text.byteLength_append, Nat.add_assoc]
  have text : b.text = (before ++ l) ++ m ++ (r ++ after) := by simp [h.text]
  obtain ⟨b₁, deleted, text₁, cursor₁, selection₁, -⟩ := Buffer.delete?_eq text h.cursor
  obtain ⟨b₂, inserted, text₂, cursor₂, selection₂, -⟩ := Buffer.insert?_eq text₁ cursor₁ content
  obtain ⟨alike, -⟩ := h.tree.splice alive leaf start stop content
  have tree := h.tree.resize alive leaf start stop content
  refine ⟨b₂, ?_, ⟨by simp [text₂], alike.offset.trans h.offset, cursor₂, tree⟩, selection₂.trans selection₁⟩
  have length : byteLength (before ++ l) + byteLength m - byteLength (before ++ l) = byteLength m := by omega
  rw [Session.write?, range]
  simp only [Option.bind_eq_bind, deleted, Option.bind_some, inserted, length]
  rfl

/-- Writing into a live interval that holds no other. -/
theorem write? (h : s.Over b before region after) (alive : id ∈ s.liveIds)
    (leaf : ∀ i ∈ s.liveIds, ¬ Below s.interval i id) (content : List Char) :
    ∃ s' b' region', s.write? b id content = some (s', b') ∧ s'.Over b' before region' after ∧
      s.Writes s' region region' [id] ∧ s'.textIn? region' id = some content := by
  obtain ⟨l, m, r, rfl, start, stop, -⟩ := h.parts alive
  obtain ⟨b', written, lies, -⟩ := h.write?_parts alive leaf start stop content
  obtain ⟨alike, splice⟩ := h.tree.splice alive leaf start stop content
  refine ⟨_, b', l ++ content ++ r, written, lies, ⟨alike, fun i other different apart => ?_⟩, splice.text⟩
  obtain ⟨text, -, read⟩ := h.textOf?_eq other
  rw [read]
  exact splice.other other (by simpa using different) (apart id List.mem_cons_self) read

/-- Writing one text into several intervals that hold no others. -/
theorem writeAll? (h : s.Over b before region after) {ids : List Nat} (alive : ∀ id ∈ ids, id ∈ s.liveIds)
    (leaf : ∀ id ∈ ids, id ∉ s.stopIds) (distinct : ids.Nodup) (content : List Char) :
    ∃ s' b' region', s.writeAll? b content ids = some (s', b') ∧ s'.Over b' before region' after ∧
      s.Writes s' region region' ids ∧ ∀ id ∈ ids, s'.textIn? region' id = some content := by
  induction ids generalizing s b region with
  | nil => exact ⟨s, b, region, rfl, h, .refl s region, by simp⟩
  | cons id ids ih =>
    obtain ⟨fresh, distinct⟩ := List.nodup_cons.1 distinct
    have here := alive id List.mem_cons_self
    obtain ⟨s₁, b₁, region₁, written, lies₁, writes₁, read₁⟩ :=
      h.write? here (h.tree.leaf (leaf id List.mem_cons_self)) content
    obtain ⟨s₂, b₂, region₂, written₂, lies₂, writes₂, read₂⟩ := ih lies₁
      (fun i member => writes₁.alike.liveIds ▸ alive i (List.mem_cons_of_mem _ member))
      (fun i member => writes₁.alike.stopIds ▸ leaf i (List.mem_cons_of_mem _ member)) distinct
    refine ⟨s₂, b₂, region₂, ?_, lies₂, writes₁.trans writes₂, ?_⟩
    · rw [Session.writeAll?, written]
      exact written₂
    · intro i member
      rcases List.mem_cons.1 member with rfl | later
      · -- what is written later is not inside the interval written first
        rw [writes₂.kept i (writes₁.alike.liveIds ▸ here) fresh, read₁]
        intro other later below
        have live := alive other (List.mem_cons_of_mem _ later)
        exact h.tree.leaf (leaf i List.mem_cons_self) other live (writes₁.alike.below.1 below)
      · exact read₂ i later

/-- Writing what substitutions make of a live interval. Each shows what it makes of the text if none of
them lies inside the interval. -/
theorem applyAll? (h : s.Over b before region after) {source : Nat} (shown : source ∈ s.liveIds)
    {bindings : List Binding} (alive : ∀ binding ∈ bindings, binding.interval ∈ s.liveIds)
    (leaf : ∀ binding ∈ bindings, binding.interval ∉ s.stopIds) (distinct : (bindings.map (·.interval)).Nodup) :
    ∃ s' b' region', s.applyAll? b source bindings = some (s', b') ∧ s'.Over b' before region' after ∧
      s.Writes s' region region' (bindings.map (·.interval)) ∧
      ((∀ binding ∈ bindings, source ≠ binding.interval ∧ ¬ Below s.interval binding.interval source) →
        ∀ content, s.textIn? region source = some content → ∀ binding ∈ bindings,
          s'.textIn? region' binding.interval =
            some (s.indentText (binding.transform.apply content s.indentUnit))) := by
  induction bindings generalizing s b region with
  | nil => exact ⟨s, b, region, rfl, h, .refl s region, by simp⟩
  | cons binding bindings ih =>
    obtain ⟨fresh, distinct⟩ := List.nodup_cons.1 distinct
    have here := alive binding List.mem_cons_self
    have leafHere := h.tree.leaf (leaf binding List.mem_cons_self)
    obtain ⟨input, inBuffer, inRegion⟩ := h.textOf?_eq shown
    obtain ⟨s₁, b₁, region₁, written, lies₁, writes₁, read₁⟩ :=
      h.write? here leafHere (s.indentText (binding.transform.apply input s.indentUnit))
    have alike := writes₁.alike
    obtain ⟨s₂, b₂, region₂, applied, lies₂, writes₂, read₂⟩ := ih lies₁ (alike.liveIds ▸ shown)
      (fun other member => alike.liveIds ▸ alive other (List.mem_cons_of_mem _ member))
      (fun other member => alike.stopIds ▸ leaf other (List.mem_cons_of_mem _ member)) distinct
    refine ⟨s₂, b₂, region₂, ?_, lies₂, writes₁.trans writes₂, ?_⟩
    · rw [Session.applyAll?]
      simp only [Option.bind_eq_bind, inBuffer, Option.bind_some, written]
      exact applied
    · intro outside content read
      obtain rfl : input = content := Option.some.inj (inRegion.symm.trans read)
      have outsideHere := outside binding List.mem_cons_self
      have still : s₁.textIn? region₁ source = some input := by
        rw [writes₁.kept source shown, read]
        · simpa using outsideHere.1
        · simpa using outsideHere.2
      intro other member
      rcases List.mem_cons.1 member with rfl | later
      · rw [writes₂.kept other.interval (alike.liveIds ▸ here) fresh, read₁]
        intro id later below
        obtain ⟨binding, member, rfl⟩ := List.mem_map.1 later
        exact leafHere _ (alive binding (List.mem_cons_of_mem _ member)) (alike.below.1 below)
      · have outsideLater : ∀ other ∈ bindings,
            source ≠ other.interval ∧ ¬ Below s₁.interval other.interval source := fun other member =>
          ⟨(outside other (List.mem_cons_of_mem _ member)).1,
            fun below => (outside other (List.mem_cons_of_mem _ member)).2 (alike.below.1 below)⟩
        rw [read₂ outsideLater input still other later, alike.indentText, alike.indentUnit]

end Over

/-! ## What shows a tab stop -/

/-- The intervals of the mirrors of a tab stop. -/
def mirrorsOf (s : Session) (number : Nat) : List Nat := ((s.stops.get? number).map (·.mirrors)).getD []

/-- The substitutions over a tab stop. -/
def bindingsOf (s : Session) (number : Nat) : List Binding :=
  s.bindings.filter fun binding => binding.source = number

/-- The intervals that show a tab stop. -/
def shown (s : Session) (number : Nat) : List Nat := s.mirrorsOf number ++ (s.bindingsOf number).map (·.interval)

/-- Whether a list of tab stops has an interval says whether the intervals of the tab stops have it. -/
theorem mem_of_mem_stops {stops : Stops} {i : Nat} (member : i ∈ stops.map (·.2.interval)) :
    i ∈ stops.flatMap fun stop => stop.2.interval :: stop.2.mirrors := by
  obtain ⟨stop, found, rfl⟩ := List.mem_map.1 member
  exact List.mem_flatMap.2 ⟨stop, found, List.mem_cons_self⟩

namespace Tree

/-- What shows a tab stop is live, holds nothing, and shows it once. -/
theorem shown (h : s.Tree region) (number : Nat) :
    (s.shown number).Nodup ∧ ∀ i ∈ s.shown number, i ∈ s.liveIds ∧ i ∉ s.stopIds := by
  obtain ⟨stops, bindings, disjoint⟩ := List.nodup_append.1 h.distinct
  have bound : ((s.bindingsOf number).map (·.interval)).Sublist (s.bindings.map (·.interval)) :=
    List.filter_sublist.map _
  have substitution : ∀ i ∈ (s.bindingsOf number).map (·.interval), i ∈ s.liveIds ∧ i ∉ s.stopIds := by
    intro i member
    have found := bound.subset member
    exact ⟨List.mem_append_right _ found, fun stop => disjoint i (mem_of_mem_stops stop) i found rfl⟩
  cases found : s.stops.get? number with
  | none =>
    have same : s.shown number = (s.bindingsOf number).map (·.interval) := by
      simp [Session.shown, mirrorsOf, found]
    rw [same]
    exact ⟨bound.nodup bindings, substitution⟩
  | some stop =>
    have same : s.mirrorsOf number = stop.mirrors := by simp [mirrorsOf, found]
    obtain ⟨front, back, split, -⟩ := Entries.exists_split_of_get? found
    have all : (s.stops.flatMap fun stop => stop.2.interval :: stop.2.mirrors) =
        (front.flatMap fun stop => stop.2.interval :: stop.2.mirrors) ++
          ((stop.interval :: stop.mirrors) ++ back.flatMap fun stop => stop.2.interval :: stop.2.mirrors) := by
      simp [split]
    have mirror : ∀ i ∈ stop.mirrors, i ∈ s.stops.flatMap fun stop => stop.2.interval :: stop.2.mirrors := by
      intro i member
      rw [all]
      simp [member]
    have distinct := stops
    rw [all] at distinct
    obtain ⟨-, inner, before⟩ := List.nodup_append.1 distinct
    obtain ⟨here, -, behind⟩ := List.nodup_append.1 inner
    obtain ⟨different, once⟩ := List.nodup_cons.1 here
    have notStop : ∀ i ∈ stop.mirrors, i ∉ s.stopIds := by
      intro i member isStop
      rw [stopIds, split, List.map_append, List.map_cons, List.mem_append, List.mem_cons] at isStop
      rcases isStop with earlier | rfl | later
      · exact before i (mem_of_mem_stops earlier) i (by simp [member]) rfl
      · exact different member
      · exact behind i (by simp [member]) i (mem_of_mem_stops later) rfl
    constructor
    · rw [Session.shown, same]
      refine List.nodup_append.2 ⟨once, bound.nodup bindings, fun i member j other => ?_⟩
      exact disjoint i (mirror i member) j (bound.subset other)
    · intro i member
      rw [Session.shown, same, List.mem_append] at member
      rcases member with member | member
      · exact ⟨List.mem_append_left _ (mirror i member), notStop i member⟩
      · exact substitution i member

/-- Tab stops share no intervals. -/
theorem stops_disjoint (h : s.Tree region) {other : Nat} {stop stop' : Stop} (different : number ≠ other)
    (found : (number, stop) ∈ s.stops) (found' : (other, stop') ∈ s.stops) :
    List.Disjoint (stop.interval :: stop.mirrors) (stop'.interval :: stop'.mirrors) := by
  obtain ⟨stops, -, -⟩ := List.nodup_append.1 h.distinct
  obtain ⟨-, pairwise⟩ := List.nodup_flatMap.1 stops
  have symmetric :
      Std.Symm (Function.onFun List.Disjoint fun stop : Nat × Stop => stop.2.interval :: stop.2.mirrors) :=
    ⟨fun _ _ apart _ one other => apart other one⟩
  exact pairwise.forall found found' fun same => different (congrArg Prod.fst same)

/-- What shows a tab stop shows no other. -/
theorem shown_disjoint (h : s.Tree region) {other : Nat} (different : number ≠ other) {i : Nat}
    (member : i ∈ s.shown number) : i ∉ s.shown other := by
  obtain ⟨-, bindings, disjoint⟩ := List.nodup_append.1 h.distinct
  have mirror {n j : Nat} (member : j ∈ s.mirrorsOf n) : ∃ stop, (n, stop) ∈ s.stops ∧ j ∈ stop.mirrors := by
    cases found : s.stops.get? n with
    | none => simp [mirrorsOf, found] at member
    | some stop =>
      exact ⟨stop, Entries.mem_of_get? found, by simpa [mirrorsOf, found] using member⟩
  have live {n j : Nat} (member : j ∈ s.mirrorsOf n) :
      j ∈ s.stops.flatMap fun stop => stop.2.interval :: stop.2.mirrors := by
    obtain ⟨stop, found, inside⟩ := mirror member
    exact List.mem_flatMap.2 ⟨_, found, List.mem_cons_of_mem _ inside⟩
  have substitution {n j : Nat} (member : j ∈ (s.bindingsOf n).map (·.interval)) :
      ∃ binding ∈ s.bindings, binding.source = n ∧ binding.interval = j := by
    obtain ⟨binding, found, same⟩ := List.mem_map.1 member
    exact ⟨binding, (List.mem_filter.1 found).1, by simpa using (List.mem_filter.1 found).2, same⟩
  intro member'
  rcases List.mem_append.1 member with shown | shown <;> rcases List.mem_append.1 member' with shown' | shown'
  · obtain ⟨stop, found, inside⟩ := mirror shown
    obtain ⟨stop', found', inside'⟩ := mirror shown'
    have apart := h.stops_disjoint different found found'
    exact apart (List.mem_cons_of_mem _ inside) (List.mem_cons_of_mem _ inside')
  · obtain ⟨binding, found, -, rfl⟩ := substitution shown'
    exact disjoint _ (live shown) _ (List.mem_map_of_mem found) rfl
  · obtain ⟨binding, found, -, rfl⟩ := substitution shown
    exact disjoint _ (live shown') _ (List.mem_map_of_mem found) rfl
  · obtain ⟨binding, found, source, here⟩ := substitution shown
    obtain ⟨binding', found', source', here'⟩ := substitution shown'
    have same := List.inj_on_of_nodup_map bindings found found' (here.trans here'.symm)
    exact different (by rw [← source, ← source', same])

end Tree

theorem Alike.mirrorsOf (h : s.Alike t) (number : Nat) : t.mirrorsOf number = s.mirrorsOf number := by
  rw [Session.mirrorsOf, h.stops, Session.mirrorsOf]

theorem Alike.bindingsOf (h : s.Alike t) (number : Nat) : t.bindingsOf number = s.bindingsOf number := by
  rw [Session.bindingsOf, h.bindings, Session.bindingsOf]

theorem Alike.shown (h : s.Alike t) (number : Nat) : t.shown number = s.shown number := by
  rw [Session.shown, h.mirrorsOf, h.bindingsOf, Session.shown]

/-- What shows a tab stop with the text `content` reads so. -/
structure InSync (s : Session) (region : List Char) (number : Nat) (content : List Char) : Prop where
  mirrors : ∀ i ∈ s.mirrorsOf number, s.textIn? region i = some content
  substitutions : ∀ binding ∈ s.bindingsOf number, s.textIn? region binding.interval =
    some (s.indentText (binding.transform.apply content s.indentUnit))

/-- Writing what shows a tab stop: the mirrors first and then the substitutions. If nothing that shows the
tab stop lies inside it, all of it ends up in sync. -/
theorem Over.update (h : s.Over b before region after) (alive : id ∈ s.liveIds) (number : Nat) :
    ∃ content s₁ b₁ s₂ b₂ region', b.textOf? (s.range id).1 (s.range id).2 = some content ∧
      s.textIn? region id = some content ∧ s.writeAll? b content (s.mirrorsOf number) = some (s₁, b₁) ∧
      s₁.applyAll? b₁ id (s₁.bindingsOf number) = some (s₂, b₂) ∧ s₂.Over b₂ before region' after ∧
      s.Writes s₂ region region' (s.shown number) ∧
      (id ∉ s.shown number → (∀ i ∈ s.shown number, ¬ Below s.interval i id) →
        s₂.textIn? region' id = some content ∧ s₂.InSync region' number content) := by
  obtain ⟨distinct, places⟩ := h.tree.shown number
  obtain ⟨mirrorsDistinct, bindingsDistinct, disjoint⟩ := List.nodup_append.1 distinct
  obtain ⟨content, inBuffer, inRegion⟩ := h.textOf?_eq alive
  have mirrorPlaces : ∀ i ∈ s.mirrorsOf number, i ∈ s.liveIds ∧ i ∉ s.stopIds := fun i member =>
    places i (List.mem_append_left _ member)
  obtain ⟨s₁, b₁, region₁, written, lies₁, writes₁, read₁⟩ :=
    h.writeAll? (fun i member => (mirrorPlaces i member).1)
    (fun i member => (mirrorPlaces i member).2) mirrorsDistinct content
  have alike := writes₁.alike
  have bindingPlaces :
      ∀ binding ∈ s.bindingsOf number, binding.interval ∈ s.liveIds ∧ binding.interval ∉ s.stopIds :=
    fun binding member => places _ (List.mem_append_right _ (List.mem_map_of_mem member))
  obtain ⟨s₂, b₂, region₂, applied, lies₂, writes₂, read₂⟩ := lies₁.applyAll? (alike.liveIds ▸ alive)
    (fun binding member => alike.liveIds ▸ (bindingPlaces binding member).1)
    (fun binding member => alike.stopIds ▸ (bindingPlaces binding member).2) bindingsDistinct
  have writes := writes₁.trans writes₂
  refine ⟨content, s₁, b₁, s₂, b₂, region₂, inBuffer, inRegion, written, ?_, lies₂, writes, ?_⟩
  · rwa [alike.bindingsOf]
  intro notShown outside
  refine ⟨(writes.kept id alive notShown outside).trans inRegion, ?_, ?_⟩
  · intro i member
    rw [writes.alike.mirrorsOf] at member
    have live := (mirrorPlaces i member).1
    rw [writes₂.kept i (alike.liveIds ▸ live), read₁ i member]
    · exact fun other => disjoint i member i other rfl
    · intro other bound below
      have holdsNothing := h.tree.leaf (mirrorPlaces i member).2 other (places other (List.mem_append_right _ bound)).1
      exact holdsNothing (alike.below.1 below)
  · intro binding member
    rw [writes.alike.bindingsOf] at member
    have still : s₁.textIn? region₁ id = some content := by
      rw [writes₁.kept id alive (fun other => notShown (List.mem_append_left _ other)), inRegion]
      exact fun i member => outside i (List.mem_append_left _ member)
    rw [read₂ ?_ content still binding member, writes₂.alike.indentText, writes₂.alike.indentUnit]
    intro other member
    have interval : other.interval ∈ s.shown number := List.mem_append_right _ (List.mem_map_of_mem member)
    exact ⟨fun same => notShown (same ▸ interval), fun below => outside _ interval (alike.below.1 below)⟩

/-! ## Refreshing -/

/-- A tab stop reads some text, and what shows it follows that text. -/
def Shows (s : Session) (region : List Char) (number : Nat) (stop : Stop) : Prop :=
  ∃ content, s.textIn? region stop.interval = some content ∧ s.InSync region number content

/-- A tab stop stays in sync with what shows it as long as all of that keeps its text. -/
theorem Shows.frame {stop : Stop} (h : s.Shows region number stop)
    (mirrors : ∀ i ∈ t.mirrorsOf number, i ∈ s.mirrorsOf number)
    (bindings : ∀ binding ∈ t.bindingsOf number, binding ∈ s.bindingsOf number) (indent : t.indent = s.indent)
    (indentUnit : t.indentUnit = s.indentUnit)
    (kept : ∀ i, i = stop.interval ∨ i ∈ t.shown number → t.textIn? region' i = s.textIn? region i) :
    t.Shows region' number stop := by
  obtain ⟨content, reads, sync⟩ := h
  refine ⟨content, (kept _ (.inl rfl)).trans reads, ?_, ?_⟩
  · intro i member
    rw [kept i (.inr (List.mem_append_left _ member))]
    exact sync.mirrors i (mirrors i member)
  · intro binding member
    rw [kept _ (.inr (List.mem_append_right _ (List.mem_map_of_mem member))),
      sync.substitutions binding (bindings binding member), indentUnit, Session.indentText, Session.indentText,
      indent]

/-- Writing what shows other tab stops leaves a tab stop that holds none of it in sync. -/
theorem Writes.shows (writes : s.Writes t region region' ids) (h : s.Tree region) {stop : Stop}
    (found : s.stops.get? number = some stop)
    (shows : s.Shows region number stop)
    (others : ∀ i ∈ ids, ∃ other, other ≠ number ∧ i ∈ s.shown other)
    (outside : ∀ i ∈ ids, ¬ Below s.interval i stop.interval) : t.Shows region' number stop := by
  have stopId := mem_stopIds_of_get? found
  have alike := writes.alike
  refine shows.frame (fun i member => by rwa [alike.mirrorsOf] at member)
    (fun binding member => by rwa [alike.bindingsOf] at member) alike.indent alike.indentUnit ?_
  rw [alike.shown]
  rintro i (rfl | member)
  · refine writes.kept _ (mem_liveIds_of_mem_stopIds stopId) (fun written => ?_) outside
    obtain ⟨other, -, shown⟩ := others _ written
    exact ((h.shown other).2 _ shown).2 stopId
  · obtain ⟨live, leaf⟩ := (h.shown number).2 i member
    refine writes.kept i live (fun written => ?_) fun id written => ?_
    · obtain ⟨other, different, shown⟩ := others i written
      exact h.shown_disjoint different shown member
    · obtain ⟨other, -, shown⟩ := others id written
      exact h.leaf leaf id ((h.shown other).2 id shown).1

/-- Bringing a tab stop up to date that has not changed its length. What shows it follows its text, unless
some of it lies inside. -/
theorem Over.refresh? (h : s.Over b before region after) (number : Nat) :
    ∃ s' b' region', s.refresh? b number 0 false = some (s', b') ∧ s'.Over b' before region' after ∧
      s.Writes s' region region' (s.shown number) ∧
      ∀ stop, s.stops.get? number = some stop → (∀ i ∈ s.shown number, ¬ Below s.interval i stop.interval) →
        s'.Shows region' number stop := by
  rw [Session.refresh?]
  cases found : s.stops.get? number with
  | none =>
    refine ⟨s, b, region, rfl, h, ⟨.refl s, fun _ _ _ _ => rfl⟩, fun stop absent => ?_⟩
    cases absent
  | some stop =>
    have stopId := mem_stopIds_of_get? found
    obtain ⟨content, s₁, b₁, s₂, b₂, region', inBuffer, -, written, applied, lies, writes, sync⟩ :=
      h.update (mem_liveIds_of_mem_stopIds stopId) number
    refine ⟨s₂, b₂, region', ?_, lies, writes, ?_⟩
    · have still : s.resize stop.interval 0 = s := by simp [resize]
      simp only [still, Bool.false_eq_true, if_false, Option.bind_eq_bind, inBuffer, Option.bind_some]
      rw [show ((s.stops.get? number).map (·.mirrors)).getD [] = s.mirrorsOf number from rfl, written]
      exact applied
    · rintro _ ⟨⟩ outside
      exact ⟨content, sync (fun member => ((h.tree.shown number).2 _ member).2 stopId) outside⟩

/-- Bringing tab stops up to date in turn. One of them is in sync in the end if nothing that shows it or a
later one lies inside it. -/
theorem Over.refreshAll? (h : s.Over b before region after) (numbers : List Nat) :
    ∃ s' b' region', s.refreshAll? b numbers = some (s', b') ∧ s'.Over b' before region' after ∧
      s.Writes s' region region' (numbers.flatMap s.shown) ∧
      ∀ front number back stop, numbers = front ++ number :: back → number ∉ back →
        s.stops.get? number = some stop →
        (∀ later ∈ number :: back, ∀ i ∈ s.shown later, ¬ Below s.interval i stop.interval) →
          s'.Shows region' number stop := by
  induction numbers generalizing s b region with
  | nil =>
    refine ⟨s, b, region, rfl, h, .refl s region, fun front number back stop split => ?_⟩
    simp at split
  | cons first numbers ih =>
    obtain ⟨s₁, b₁, region₁, refreshed, lies₁, writes₁, shows₁⟩ := h.refresh? first
    obtain ⟨s₂, b₂, region₂, rest, lies₂, writes₂, shows₂⟩ := ih lies₁
    have alike := writes₁.alike
    have sameShown : s₁.shown = s.shown := funext alike.shown
    refine ⟨s₂, b₂, region₂, ?_, lies₂, ?_, ?_⟩
    · rw [Session.refreshAll?, refreshed]
      exact rest
    · rw [List.flatMap_cons, ← sameShown]
      exact (sameShown ▸ writes₁).trans writes₂
    · intro front number back stop split last found outside
      have found₁ : s₁.stops.get? number = some stop := by rw [alike.stops, found]
      cases front with
      | cons _ front =>
        rw [List.cons_append] at split
        obtain ⟨rfl, others⟩ := List.cons.inj split
        refine shows₂ front number back stop others last found₁ fun later member i shown below => ?_
        exact outside later member i (sameShown ▸ shown) (alike.below.1 below)
      | nil =>
        -- what is written later shows other tab stops, and lies outside
        obtain ⟨rfl, rfl⟩ := List.cons.inj split
        have now := shows₁ stop found fun i shown => outside first List.mem_cons_self i shown
        refine writes₂.shows lies₁.tree found₁ now (fun i member => ?_) fun i member below => ?_
        · obtain ⟨later, inBack, shown⟩ := List.mem_flatMap.1 member
          exact ⟨later, fun same => last (same ▸ inBack), shown⟩
        · obtain ⟨later, inBack, shown⟩ := List.mem_flatMap.1 member
          exact outside later (List.mem_cons_of_mem _ inBack) i (sameShown ▸ shown) (alike.below.1 below)

/-- `t` is `s` after the text of the tab stop `number`, at the interval `id`, has become `content`: what lay
inside is dropped, what shows the tab stop follows, and what is not around any of this keeps its text. -/
structure Edited (s t : Session) (region region' : List Char) (number id : Nat) (content : List Char) : Prop where
  dropped : (s.dropNested id).Alike t
  leaf : ∀ i ∈ t.liveIds, ¬ Below t.interval i id
  reads : t.textIn? region' id = some content
  inSync : t.InSync region' number content
  kept : ∀ i ∈ t.liveIds, i ≠ id → i ∉ t.shown number → ¬ Below t.interval id i →
    (∀ j ∈ t.shown number, ¬ Below t.interval j i) → t.textIn? region' i = s.textIn? region i

/-- Bringing a tab stop up to date whose text was `old` and has become `new`. -/
theorem Tree.refresh?_edited {l old new r : List Char} {stop : Stop} (h : s.Tree (l ++ old ++ r))
    (offset : s.offset = byteLength before) (found : s.stops.get? number = some stop)
    (first : (s.interval stop.interval).start = byteLength l)
    (last : (s.interval stop.interval).stop = byteLength l + byteLength old)
    (text : b.text = before ++ (l ++ new ++ r) ++ after) (cursor : IsBoundary b.text b.cursor) {distance : Int}
    (change : distance = (byteLength new : Int) - byteLength old) :
    ∃ s' b' region', s.refresh? b number distance true = some (s', b') ∧ s'.Over b' before region' after ∧
      s.Edited s' (l ++ old ++ r) region' number stop.interval new := by
  subst change
  have stopId := mem_stopIds_of_get? found
  obtain ⟨alike, same, splice⟩ := h.splice_rewritten stopId first last new
  obtain ⟨parent, -⟩ := interval_dropNested s stop.interval
  generalize rewriting : s.rewritten stop.interval (byteLength old) (byteLength new) = t at alike same
  have lies : t.Over b before (l ++ new ++ r) after :=
    ⟨text, alike.offset.trans offset, cursor, rewriting ▸ h.rewritten stopId first last new⟩
  have below {i j : Nat} : Below t.interval j i ↔ Below s.interval j i :=
    alike.below.trans ⟨.congr fun i => (parent i).symm, .congr parent⟩
  have alive : stop.interval ∈ t.liveIds := alike.liveIds ▸ splice.alive
  have reads : t.textIn? (l ++ new ++ r) stop.interval = some new := by
    rw [textIn?, same _ splice.alive]
    exact splice.text
  have notShown : stop.interval ∉ t.shown number := fun member =>
    ((lies.tree.shown number).2 _ member).2 (alike.stopIds ▸ h.mem_stopIds_dropNested_self stopId)
  have leaf : ∀ i ∈ t.liveIds, ¬ Below t.interval i stop.interval := by
    rw [alike.liveIds]
    exact fun i live inside => splice.leaf i live (below.1 inside)
  obtain ⟨content, s₁, b₁, s₂, b₂, region', inBuffer, inRegion, written, applied, lies₂, writes, sync⟩ :=
    lies.update alive number
  obtain rfl : content = new := Option.some.inj (inRegion.symm.trans reads)
  obtain ⟨still, inSync⟩ := sync notShown fun i member => leaf i ((lies.tree.shown number).2 i member).1
  refine ⟨s₂, b₂, region', ?_, lies₂, alike.trans writes.alike, ?_, still, inSync, ?_⟩
  · rw [Session.refresh?, found]
    simp only [if_true]
    rw [show (s.resize stop.interval _).dropNested stop.interval = t from rewriting]
    simp only [Option.bind_eq_bind, inBuffer, Option.bind_some]
    rw [show ((t.stops.get? number).map (·.mirrors)).getD [] = t.mirrorsOf number from rfl, written]
    exact applied
  · rw [writes.alike.liveIds]
    exact fun i live inside => leaf i live (writes.alike.below.1 inside)
  · intro i live different unshown apart apart'
    rw [writes.alike.liveIds] at live
    rw [writes.alike.shown] at unshown apart'
    rw [writes.alike.below] at apart
    have before : i ∈ s.liveIds := (mem_liveIds_dropNested (alike.liveIds ▸ live)).1
    rw [writes.kept i live unshown fun j member inside => apart' j member (writes.alike.below.2 inside), textIn?,
      same i (alike.liveIds ▸ live)]
    obtain ⟨text, read⟩ := h.nested.slice?_eq_some before
    rw [textIn?, read]
    exact splice.other (alike.liveIds ▸ live) different (fun inside => apart (below.2 inside)) read

end EditorBundles.Snippet.Session
