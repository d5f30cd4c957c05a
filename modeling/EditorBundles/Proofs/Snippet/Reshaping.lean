import EditorBundles.Proofs.Snippet.Refresh

/-!
# Writes as a chain

Whatever is written while tab stops are brought up to date, it is a chain of replacements: one after the other
a live interval that holds no other gets a new text and the session is resized. What each replacement keeps
is therefore kept by all of them.
-/

namespace EditorBundles.Snippet.Session
set_option autoImplicit false
open Text (byteLength IsBoundary)

/-- `t` on `region'` is `s` on `region` after texts of live intervals that hold no others were replaced, one after
the other. -/
inductive Reshaped : Session → List Char → Session → List Char → Prop where
  | refl (s : Session) (region : List Char) : Reshaped s region s region
  | write {s t : Session} {l old new r region' : List Char} {id : Nat} (tree : s.Tree (l ++ old ++ r))
      (alive : id ∈ s.liveIds) (leaf : ∀ i ∈ s.liveIds, ¬ Below s.interval i id)
      (start : (s.interval id).start = byteLength l) (stop : (s.interval id).stop = byteLength l + byteLength old)
      (more : Reshaped (s.resize id ((byteLength new : Int) - byteLength old)) (l ++ new ++ r) t region') :
      Reshaped s (l ++ old ++ r) t region'

variable {s t u : Session} {b b' : Buffer} {l old new r region region' region'' before after content : List Char}
  {id number : Nat}

theorem Reshaped.trans (first : Reshaped s region t region') (second : Reshaped t region' u region'') :
    Reshaped s region u region'' := by
  induction first with
  | refl => exact second
  | write tree alive leaf start stop _ ih => exact .write tree alive leaf start stop (ih second)

/-- A chain of replacements moves intervals and the end marker only. -/
theorem Reshaped.alike (h : Reshaped s region t region') : s.Alike t := by
  induction h with
  | refl s => exact .refl s
  | write tree alive leaf start stop _ ih => exact (tree.splice alive leaf start stop _).1.trans ih

namespace Over

/-- Writing into a live interval that holds no other. -/
theorem reshaped_write? (h : s.Over b before region after) (alive : id ∈ s.liveIds)
    (leaf : ∀ i ∈ s.liveIds, ¬ Below s.interval i id) (written : s.write? b id content = some (t, b')) :
    ∃ region', t.Over b' before region' after ∧ s.Reshaped region t region' ∧ b'.selection = b.selection := by
  obtain ⟨l, m, r, rfl, start, stop, -⟩ := h.parts alive
  obtain ⟨b'', written', lies, selection⟩ := h.write?_parts alive leaf start stop content
  obtain ⟨rfl, rfl⟩ := Prod.mk.inj (Option.some.inj (written'.symm.trans written))
  exact ⟨_, lies, .write h.tree alive leaf start stop (.refl _ _), selection⟩

/-- Writing one text into several intervals that hold no others. -/
theorem reshaped_writeAll? (h : s.Over b before region after) {ids : List Nat}
    (places : ∀ id ∈ ids, id ∈ s.liveIds ∧ id ∉ s.stopIds) (written : s.writeAll? b content ids = some (t, b')) :
    ∃ region', t.Over b' before region' after ∧ s.Reshaped region t region' ∧ b'.selection = b.selection := by
  induction ids generalizing s b region with
  | nil =>
    obtain ⟨rfl, rfl⟩ := Prod.mk.inj (Option.some.inj written)
    exact ⟨region, h, .refl s region, rfl⟩
  | cons id ids ih =>
    rw [Session.writeAll?] at written
    obtain ⟨⟨s₁, b₁⟩, first, rest⟩ := Option.bind_eq_some_iff.1 written
    obtain ⟨alive, leaf⟩ := places id List.mem_cons_self
    obtain ⟨region₁, lies₁, reshaped₁, selection₁⟩ := h.reshaped_write? alive (h.tree.leaf leaf) first
    have places₁ : ∀ id ∈ ids, id ∈ s₁.liveIds ∧ id ∉ s₁.stopIds := by
      rw [reshaped₁.alike.liveIds, reshaped₁.alike.stopIds]
      exact fun id member => places id (List.mem_cons_of_mem _ member)
    obtain ⟨region₂, lies₂, reshaped₂, selection₂⟩ := ih lies₁ places₁ rest
    exact ⟨region₂, lies₂, reshaped₁.trans reshaped₂, selection₂.trans selection₁⟩

/-- Writing what substitutions make of an interval. -/
theorem reshaped_applyAll? (h : s.Over b before region after) {source : Nat} {bindings : List Binding}
    (places : ∀ binding ∈ bindings, binding.interval ∈ s.liveIds ∧ binding.interval ∉ s.stopIds)
    (applied : s.applyAll? b source bindings = some (t, b')) :
    ∃ region', t.Over b' before region' after ∧ s.Reshaped region t region' ∧ b'.selection = b.selection := by
  induction bindings generalizing s b region with
  | nil =>
    obtain ⟨rfl, rfl⟩ := Prod.mk.inj (Option.some.inj applied)
    exact ⟨region, h, .refl s region, rfl⟩
  | cons binding bindings ih =>
    rw [Session.applyAll?] at applied
    obtain ⟨input, -, applied⟩ := Option.bind_eq_some_iff.1 applied
    obtain ⟨⟨s₁, b₁⟩, first, rest⟩ := Option.bind_eq_some_iff.1 applied
    obtain ⟨alive, leaf⟩ := places binding List.mem_cons_self
    obtain ⟨region₁, lies₁, reshaped₁, selection₁⟩ := h.reshaped_write? alive (h.tree.leaf leaf) first
    have places₁ : ∀ binding ∈ bindings, binding.interval ∈ s₁.liveIds ∧ binding.interval ∉ s₁.stopIds := by
      rw [reshaped₁.alike.liveIds, reshaped₁.alike.stopIds]
      exact fun binding member => places binding (List.mem_cons_of_mem _ member)
    obtain ⟨region₂, lies₂, reshaped₂, selection₂⟩ := ih lies₁ places₁ rest
    exact ⟨region₂, lies₂, reshaped₁.trans reshaped₂, selection₂.trans selection₁⟩

/-- Writing what shows a tab stop: the mirrors first and then the substitutions. -/
theorem reshaped_update (h : s.Over b before region after) (number : Nat) {id : Nat} {s₁ : Session} {b₁ : Buffer}
    (written : s.writeAll? b content (s.mirrorsOf number) = some (s₁, b₁))
    (applied : s₁.applyAll? b₁ id (s₁.bindingsOf number) = some (t, b')) :
    ∃ region', t.Over b' before region' after ∧ s.Reshaped region t region' ∧ b'.selection = b.selection := by
  have places := (h.tree.shown number).2
  obtain ⟨region₁, lies₁, reshaped₁, selection₁⟩ :=
    h.reshaped_writeAll? (fun i member => places i (List.mem_append_left _ member)) written
  have substitutions :
      ∀ binding ∈ s₁.bindingsOf number, binding.interval ∈ s₁.liveIds ∧ binding.interval ∉ s₁.stopIds := by
    rw [reshaped₁.alike.bindingsOf, reshaped₁.alike.liveIds, reshaped₁.alike.stopIds]
    exact fun binding member => places _ (List.mem_append_right _ (List.mem_map_of_mem member))
  obtain ⟨region₂, lies₂, reshaped₂, selection₂⟩ := lies₁.reshaped_applyAll? substitutions applied
  exact ⟨region₂, lies₂, reshaped₁.trans reshaped₂, selection₂.trans selection₁⟩

/-- Bringing a tab stop up to date that has not changed its length. -/
theorem reshaped_refresh? (h : s.Over b before region after)
    (refreshed : s.refresh? b number 0 false = some (t, b')) :
    ∃ region', t.Over b' before region' after ∧ s.Reshaped region t region' ∧ b'.selection = b.selection := by
  rw [Session.refresh?] at refreshed
  cases found : s.stops.get? number with
  | none =>
    simp only [found] at refreshed
    obtain ⟨rfl, rfl⟩ := Prod.mk.inj (Option.some.inj refreshed)
    exact ⟨region, h, .refl s region, rfl⟩
  | some stop =>
    have still : s.resize stop.interval 0 = s := by simp [resize]
    simp only [found, still, Bool.false_eq_true, if_false] at refreshed
    obtain ⟨content, -, refreshed⟩ := Option.bind_eq_some_iff.1 refreshed
    obtain ⟨⟨s₁, b₁⟩, written, applied⟩ := Option.bind_eq_some_iff.1 refreshed
    have mirrors : s.writeAll? b content (s.mirrorsOf number) = some (s₁, b₁) := by
      rw [mirrorsOf, found]
      exact written
    exact h.reshaped_update number mirrors applied

/-- Bringing tab stops up to date in turn. -/
theorem reshaped_refreshAll? (h : s.Over b before region after) {numbers : List Nat}
    (refreshed : s.refreshAll? b numbers = some (t, b')) :
    ∃ region', t.Over b' before region' after ∧ s.Reshaped region t region' ∧ b'.selection = b.selection := by
  induction numbers generalizing s b region with
  | nil =>
    obtain ⟨rfl, rfl⟩ := Prod.mk.inj (Option.some.inj refreshed)
    exact ⟨region, h, .refl s region, rfl⟩
  | cons number numbers ih =>
    rw [Session.refreshAll?] at refreshed
    obtain ⟨⟨s₁, b₁⟩, first, rest⟩ := Option.bind_eq_some_iff.1 refreshed
    obtain ⟨region₁, lies₁, reshaped₁, selection₁⟩ := h.reshaped_refresh? first
    obtain ⟨region₂, lies₂, reshaped₂, selection₂⟩ := ih lies₁ rest
    exact ⟨region₂, lies₂, reshaped₁.trans reshaped₂, selection₂.trans selection₁⟩

end Over

/-- Rewriting a tab stop and dropping what lies inside it comes before the replacements in what shows the tab
stop. -/
theorem Tree.reshaped_refresh? {stop : Stop} (h : s.Tree (l ++ old ++ r)) (offset : s.offset = byteLength before)
    (found : s.stops.get? number = some stop) (first : (s.interval stop.interval).start = byteLength l)
    (last : (s.interval stop.interval).stop = byteLength l + byteLength old)
    (text : b.text = before ++ (l ++ new ++ r) ++ after) (cursor : IsBoundary b.text b.cursor)
    (refreshed : s.refresh? b number ((byteLength new : Int) - byteLength old) true = some (t, b')) :
    ∃ region', t.Over b' before region' after ∧
      Reshaped (s.rewritten stop.interval (byteLength old) (byteLength new)) (l ++ new ++ r) t region' ∧
      b'.selection = b.selection := by
  have stopId := mem_stopIds_of_get? found
  obtain ⟨alike, -, -⟩ := h.splice_rewritten stopId first last new
  generalize rewriting : s.rewritten stop.interval (byteLength old) (byteLength new) = u at alike
  have lies : u.Over b before (l ++ new ++ r) after :=
    ⟨text, alike.offset.trans offset, cursor, rewriting ▸ h.rewritten stopId first last new⟩
  rw [Session.refresh?, found] at refreshed
  simp only [if_true] at refreshed
  rw [show (s.resize stop.interval _).dropNested stop.interval = u from rewriting] at refreshed
  obtain ⟨content, -, refreshed⟩ := Option.bind_eq_some_iff.1 refreshed
  obtain ⟨⟨s₁, b₁⟩, written, applied⟩ := Option.bind_eq_some_iff.1 refreshed
  exact lies.reshaped_update number written applied

end EditorBundles.Snippet.Session
