import EditorBundles.Proofs.Snippet.Following

/-!
# Where an edit leaves the cursor

While what shows a tab stop is written anew, the cursor of the buffer moves with the text in front of it. It stays where
it is in the tab stop, unless it is at the very start of it and a region that was written ends there: the buffer moves a
cursor for what is inserted strictly in front of it only, and so the cursor is left in front of that region. What is typed
at a selection stands for the whole text of the tab stop, however much of it is selected.
-/

namespace EditorBundles.Snippet
set_option autoImplicit false
open Text (byteLength IsBoundary)

namespace Buffer

/-- Where an offset is once the text between two others is gone. -/
def offsetWithout (start stop offset : Nat) : Nat := if stop ≤ offset then offset - (stop - start) else min start offset

variable {b b' : Buffer} {start stop position : Nat} {new : List Char}

theorem offsetWithout_self (start offset : Nat) : offsetWithout start start offset = offset := by
  rw [offsetWithout]
  split_ifs <;> omega

theorem cursor_of_delete? (deleted : b.delete? start stop = some b') :
    b'.cursor = offsetWithout start stop b.cursor := by
  obtain ⟨text, -, same⟩ := Option.bind_eq_some_iff.1 deleted
  obtain rfl := Option.some.inj same
  dsimp only [offsetWithout]
  split_ifs <;> omega

theorem cursor_of_insert? (inserted : b.insert? position new = some b') :
    b'.cursor = if position < b.cursor then b.cursor + byteLength new else b.cursor := by
  obtain ⟨text, -, same⟩ := Option.bind_eq_some_iff.1 inserted
  obtain rfl := Option.some.inj same
  rfl

end Buffer

/-- An interval that is neither a replaced one nor around it lies in front of it or behind it, and moves with the text. -/
theorem Splice.beside {f g : Nat → Interval} {live : Nat → Prop} {l old new r : List Char} {j i : Nat}
    (h : Splice f g live j l old new r) (other : live i) (different : i ≠ j) (apart : ¬ Below f j i) :
    i < j ∧ (f i).stop ≤ byteLength l ∧ (g i).start = (f i).start ∧ (g i).stop = (f i).stop ∨
      j < i ∧ byteLength l + byteLength old ≤ (f i).start ∧ (g i).start + byteLength old = (f i).start + byteLength new ∧
        (g i).stop + byteLength old = (f i).stop + byteLength new := by
  rcases h.cases other with ⟨same | around, -⟩ | ⟨⟨before, -⟩, place⟩ | place
  · exact absurd same different
  · exact absurd around apart
  · exact .inl ⟨before, place⟩
  · exact .inr place

namespace Session

variable {s t u : Session} {b b' c : Buffer} {before region after content : List Char} {id number : Nat} {ids more : List Nat}

/-! ## Writes in turn -/

/-- `t` over `b'` is `s` over `b` after texts were written into the intervals `ids`, one after the other. -/
inductive Written : Session → Buffer → List Nat → Session → Buffer → Prop where
  | done (s : Session) (b : Buffer) : Written s b [] s b
  | write {s u t : Session} {b c b' : Buffer} {id : Nat} {ids : List Nat} {content : List Char}
      (written : s.write? b id content = some (u, c)) (more : Written u c ids t b') : Written s b (id :: ids) t b'

theorem Written.append (first : Written s b ids u c) (second : Written u c more t b') :
    Written s b (ids ++ more) t b' := by
  induction first with
  | done => exact second
  | write written _ ih => exact .write written (ih second)

theorem bindings_write? (written : s.write? b id content = some (t, b')) : t.bindings = s.bindings := by
  obtain ⟨b₁, -, written⟩ := Option.bind_eq_some_iff.1 written
  obtain ⟨b₂, -, same⟩ := Option.bind_eq_some_iff.1 written
  obtain ⟨rfl, -⟩ := Prod.mk.inj (Option.some.inj same)
  rw [resize_eq]

/-- Writing moves intervals and leaves the substitutions. -/
theorem Written.bindings (h : Written s b ids t b') : t.bindings = s.bindings := by
  induction h with
  | done => rfl
  | write written _ ih => exact ih.trans (bindings_write? written)

theorem written_of_writeAll? (all : s.writeAll? b content ids = some (t, b')) : Written s b ids t b' := by
  induction ids generalizing s b with
  | nil =>
    obtain ⟨rfl, rfl⟩ := Prod.mk.inj (Option.some.inj all)
    exact .done s b
  | cons id ids ih =>
    obtain ⟨⟨u, c⟩, written, rest⟩ := Option.bind_eq_some_iff.1 all
    exact .write written (ih rest)

theorem written_of_applyAll? {source : Nat} {bindings : List Binding}
    (applied : s.applyAll? b source bindings = some (t, b')) : Written s b (bindings.map (·.interval)) t b' := by
  induction bindings generalizing s b with
  | nil =>
    obtain ⟨rfl, rfl⟩ := Prod.mk.inj (Option.some.inj applied)
    exact .done s b
  | cons binding bindings ih =>
    obtain ⟨input, -, applied⟩ := Option.bind_eq_some_iff.1 applied
    obtain ⟨⟨u, c⟩, written, rest⟩ := Option.bind_eq_some_iff.1 applied
    exact .write written (ih rest)

/-- A tab stop whose text was replaced is brought up to date by writing what shows it. -/
theorem written_of_refresh? {stop : Stop} (found : s.stops.get? number = some stop) {old new : Nat}
    (refreshed : s.refresh? b number ((new : Int) - old) true = some (t, b')) :
    Written (s.rewritten stop.interval old new) b ((s.rewritten stop.interval old new).shown number) t b' := by
  rw [refresh?, found] at refreshed
  simp only [if_true] at refreshed
  obtain ⟨content, -, refreshed⟩ := Option.bind_eq_some_iff.1 refreshed
  obtain ⟨⟨u, c⟩, mirrors, substitutions⟩ := Option.bind_eq_some_iff.1 refreshed
  have first := written_of_writeAll? mirrors
  have second := written_of_applyAll? substitutions
  rw [first.bindings] at second
  exact first.append second

/-! ## The cursor -/

/-- A region that is not empty ends where another interval starts, and comes before it. -/
def Adjoins (s : Session) (i id : Nat) : Prop :=
  i < id ∧ (s.interval i).start < (s.interval i).stop ∧ (s.interval i).stop = (s.interval id).start

/-- The cursor is at an offset from the start of an interval, unless it was at the start and a region that was written
adjoins it there. -/
def Stays (s : Session) (b : Buffer) (id offset : Nat) (written : List Nat) : Prop :=
  (s.interval id).start + offset ≤ (s.interval id).stop ∧
    (b.cursor = (s.range id).1 + offset ∨ offset = 0 ∧ ∃ i ∈ written, s.Adjoins i id)

/-- Where the cursor goes when a region is written. -/
theorem cursor_of_write? (h : s.Over b before region after) (alive : id ∈ s.liveIds)
    (written : s.write? b id content = some (t, b')) :
    ∃ l old r, region = l ++ old ++ r ∧ (s.interval id).start = byteLength l ∧
      (s.interval id).stop = byteLength l + byteLength old ∧
      t = s.resize id ((byteLength content : Int) - byteLength old) ∧
      b'.cursor = if b.cursor ≤ byteLength (before ++ l) then b.cursor
        else if b.cursor ≤ byteLength (before ++ l) + byteLength old then byteLength (before ++ l)
        else b.cursor - byteLength old + byteLength content := by
  obtain ⟨l, old, r, split, start, stop, range⟩ := h.parts alive
  rw [Session.write?, range] at written
  obtain ⟨b₁, deleted, written⟩ := Option.bind_eq_some_iff.1 written
  obtain ⟨b₂, inserted, same⟩ := Option.bind_eq_some_iff.1 written
  obtain ⟨rfl, rfl⟩ := Prod.mk.inj (Option.some.inj same)
  refine ⟨l, old, r, split, start, stop, ?_, ?_⟩
  · rw [Nat.add_sub_cancel_left]
  · rw [Buffer.cursor_of_insert? inserted, Buffer.cursor_of_delete? deleted, Buffer.offsetWithout]
    split_ifs <;> omega

/-- Writing a region keeps the cursor in an interval that is not around it, or comes to adjoin the interval. -/
theorem Stays.write? {offset j : Nat} {done : List Nat} (stays : s.Stays b id offset done) (h : s.Over b before region after)
    (alive : id ∈ s.liveIds) (live : j ∈ s.liveIds) (leaf : ∀ i ∈ s.liveIds, ¬ Below s.interval i j) (different : id ≠ j)
    (outside : ¬ Below s.interval j id)
    (others : ∀ i ∈ done, i ∈ s.liveIds ∧ i ≠ j ∧ ¬ Below s.interval j i)
    (written : s.write? b j content = some (t, b')) : t.Stays b' id offset (done ++ [j]) := by
  obtain ⟨l, old, r, rfl, start, stop, rfl, cursor⟩ := cursor_of_write? h live written
  obtain ⟨alike, splice⟩ := h.tree.splice live leaf start stop content
  obtain ⟨inside, place⟩ := stays
  have position : byteLength (before ++ l) = s.offset + byteLength l := by rw [Text.byteLength_append, h.offset]
  have moves := splice.moves.grown j live (.inl rfl)
  have member {i : Nat} (earlier : i ∈ done) : i ∈ done ++ [j] := List.mem_append_left _ earlier
  have last : j ∈ done ++ [j] := List.mem_append_right _ List.mem_cons_self
  simp only [Stays, range, alike.offset, Adjoins] at place ⊢
  rw [cursor, position]
  rcases splice.beside alive different outside with ⟨behind, front, first, final⟩ | ⟨ahead, back, first, final⟩
  · -- a region behind the interval moves neither its start nor the cursor
    refine ⟨by omega, ?_⟩
    rcases place with here | ⟨zero, i, earlier, less, some_, ends⟩
    · left
      rw [if_pos (by omega)]
      omega
    · obtain ⟨alive', different', apart'⟩ := others i earlier
      have same := splice.beside alive' different' apart'
      exact .inr ⟨zero, i, member earlier, less, by omega, by omega⟩
  · refine ⟨by omega, ?_⟩
    rcases place with here | ⟨zero, i, earlier, less, some_, ends⟩
    · by_cases between : byteLength l + byteLength old < (s.interval id).start + offset
      · -- the cursor moves with the text of the region
        left
        rw [if_neg (by omega), if_neg (by omega)]
        omega
      · -- the cursor is where the region ends, and goes to its start
        by_cases empty : byteLength content = 0
        · left
          split_ifs <;> omega
        · exact .inr ⟨by omega, j, last, ahead, by omega, by omega⟩
    · obtain ⟨alive', different', apart'⟩ := others i earlier
      right
      rcases splice.beside alive' different' apart' with before | behind
      · -- the region comes between the interval and the one that adjoins it
        by_cases empty : byteLength content = 0
        · exact ⟨zero, i, member earlier, less, by omega, by omega⟩
        · exact ⟨zero, j, last, ahead, by omega, by omega⟩
      · exact ⟨zero, i, member earlier, less, by omega, by omega⟩

/-- Writing several regions keeps the cursor in an interval that holds none of them, unless one of them comes to adjoin it. -/
theorem Stays.written {offset : Nat} {done : List Nat} (stays : s.Stays b id offset done) (h : s.Over b before region after)
    (alive : id ∈ s.liveIds) (stopId : id ∈ s.stopIds) (all : Written s b ids t b')
    (outside : ∀ i ∈ done ++ ids, i ∈ s.liveIds ∧ i ∉ s.stopIds ∧ ¬ Below s.interval i id) (once : (done ++ ids).Nodup) :
    t.Stays b' id offset (done ++ ids) := by
  induction all generalizing done region with
  | done => rwa [List.append_nil]
  | @write s u t b c b' j ids content written more ih =>
    obtain ⟨live, notStop, apart⟩ := outside j (List.mem_append_right _ List.mem_cons_self)
    have leaf := h.tree.leaf notStop
    obtain ⟨u', c', region', written', lies, writes, -⟩ := h.write? live leaf content
    obtain ⟨rfl, rfl⟩ := Prod.mk.inj (Option.some.inj (written'.symm.trans written))
    have stays' := stays.write? h alive live leaf (fun same => notStop (same ▸ stopId)) apart (fun i earlier => ?_) written
    · have alike := writes.alike
      have later := ih stays' lies (alike.liveIds ▸ alive) (alike.stopIds ▸ stopId)
      simp only [List.append_assoc, List.singleton_append, alike.liveIds, alike.stopIds, alike.below] at later
      exact later outside once
    · obtain ⟨live', notStop', -⟩ := outside i (List.mem_append_left _ earlier)
      refine ⟨live', ?_, h.tree.leaf notStop' j live⟩
      rintro rfl
      exact (List.nodup_append.1 once).2.2 i earlier i List.mem_cons_self rfl

/-- A region that shows a tab stop is not empty and ends where the interval starts. -/
def Crowded (s : Session) (number id : Nat) : Prop := ∃ i ∈ s.shown number, s.Adjoins i id

end Session

namespace Editor
open Session

variable {runner : Runner} {before after l old r front back content : List Char} {e e' : Editor} {s s' : Session} {stop : Stop}
  {b b' : Buffer}

/-- The cursor is inside the current tab stop, between two parts of its text: the session is valid, and goes on with
whatever is typed, and with whatever is deleted inside the tab stop. -/
structure Rests (e : Editor) (s : Session) (id : Nat) (front back : List Char) : Prop where
  front : e.buffer.textOf? (s.range id).1 e.buffer.cursor = some front
  back : e.buffer.textOf? e.buffer.cursor (s.range id).2 = some back
  valid : e.validate = (true, e)
  typing : ∀ text, ∃ e', e.insert? text = some e' ∧ e'.isActive = true
  deleting : ∀ first last, first ≤ last → (s.range id).1 ≤ first → last ≤ (s.range id).2 →
    IsBoundary e.buffer.text first → IsBoundary e.buffer.text last → ∃ e', e.delete? first last = some e' ∧ e'.isActive = true

/-- The session goes on with the cursor inside the current tab stop, between two parts of its text, unless that is at the
very start of it and crowded by a region that shows it. -/
def Lands (e : Editor) (number id : Nat) (front back : List Char) : Prop :=
  ∃ s, e.session = some s ∧ (front ≠ [] ∨ ¬ s.Crowded number id → e.Rests s id front back)

namespace Filling

theorem validate_iff (h : e.Filling s stop before l old r after) :
    e.validate.1 = true ↔ holds (s.range stop.interval) e.buffer.cursor = true := by
  rw [validate, h.session]
  dsimp only
  rw [h.stopRange?, Option.any_some, h.range]
  split_ifs with inside
  · exact iff_of_true rfl inside
  · exact iff_of_false (fun valid => nomatch valid) inside

/-- Bringing the current tab stop up to date keeps the cursor in it, unless it comes to be crowded. -/
theorem stays (h : e.Filling s stop before l old r after) (retyped : Retyped b before l content r after) {offset : Nat}
    (cursor : b.cursor = byteLength (before ++ l) + offset) (bound : offset ≤ byteLength content)
    (refreshed : s.refresh? b s.current ((byteLength content : Int) - byteLength old) true = some (s', b')) :
    s'.Stays b' stop.interval offset (s'.shown s.current) := by
  have tree := h.lies.tree
  have stopId := mem_stopIds_of_get? h.current
  obtain ⟨t, b₁, region', refreshed₁, -, edited⟩ :=
    tree.refresh?_edited h.lies.offset h.current h.first h.last retyped.text retyped.cursor rfl
  obtain ⟨rfl, rfl⟩ := Prod.mk.inj (Option.some.inj (refreshed.symm.trans refreshed₁))
  obtain ⟨alike, same, splice⟩ := tree.splice_rewritten stopId h.first h.last content
  have all := written_of_refresh? h.current refreshed
  have lies : (s.rewritten stop.interval (byteLength old) (byteLength content)).Over b before (l ++ content ++ r) after :=
    ⟨retyped.text, alike.offset.trans h.lies.offset, retyped.cursor, tree.rewritten stopId h.first h.last content⟩
  have shown : (s.rewritten stop.interval (byteLength old) (byteLength content)).shown s.current = s'.shown s.current :=
    (alike.shown _).trans (edited.dropped.shown _).symm
  generalize s.rewritten stop.interval (byteLength old) (byteLength content) = t at *
  obtain ⟨parent, -⟩ := interval_dropNested s stop.interval
  obtain ⟨first, last⟩ := splice.moves.grown stop.interval splice.alive (.inl rfl)
  rw [← same _ splice.alive] at first last
  have alive : stop.interval ∈ t.liveIds := alike.liveIds ▸ splice.alive
  have start : t.Stays b stop.interval offset [] := by
    have place := h.first
    have ends := h.last
    refine ⟨by omega, .inl ?_⟩
    rw [cursor, Session.range, first, place, lies.offset, Text.byteLength_append]
  have places := lies.tree.shown s.current
  rw [shown] at all places
  refine start.written lies alive (alike.stopIds ▸ tree.mem_stopIds_dropNested_self stopId) all (fun i member => ?_) places.1
  obtain ⟨live, notStop⟩ := places.2 i member
  refine ⟨live, notStop, fun below => splice.leaf i (alike.liveIds ▸ live) ?_⟩
  exact (alike.below.1 below).congr fun i => (parent i).symm

/-- Deleting nothing inside the current tab stop gives up the selection. -/
theorem delete?_nothing (h : e.Filling s stop before l old r after) {place : Nat}
    (lower : (s.range stop.interval).1 ≤ place) (upper : place ≤ (s.range stop.interval).2) :
    e.delete? place place = some { e with buffer := e.buffer.deselect } := by
  rw [h.range] at lower upper
  rw [Editor.delete?, h.session]
  simp only [h.stopRange?, Option.filter_some, lower, upper, decide_true, Bool.and_self, if_true, Nat.lt_irrefl, if_false]
  rfl

/-- The cursor is between two parts of the text of the current tab stop. -/
theorem rests (h : e.Filling s stop before l (front ++ back) r after)
    (cursor : e.buffer.cursor = byteLength (before ++ l ++ front)) : e.Rests s stop.interval front back := by
  have split : (s.range stop.interval).2 = byteLength (before ++ l ++ front) + byteLength back := by
    rw [h.range]
    simp only [Text.byteLength_append, Nat.add_assoc]
  have inside : holds (s.range stop.interval) e.buffer.cursor = true := by
    rw [holds, split, cursor, h.range]
    simp only [Text.byteLength_append, Bool.and_eq_true, decide_eq_true_eq]
    omega
  constructor
  case front =>
    have text : e.buffer.text = (before ++ l) ++ front ++ (back ++ (r ++ after)) := by simp [h.text]
    rw [cursor, h.range, Text.byteLength_append _ front, Buffer.textOf?, text]
    exact Text.slice?_append _ front _
  case back =>
    have text : e.buffer.text = (before ++ l ++ front) ++ back ++ (r ++ after) := by simp [h.text]
    rw [cursor, split, Buffer.textOf?, text]
    exact Text.slice?_append _ back _
  case valid =>
    rw [validate, h.session]
    dsimp only
    rw [h.stopRange?, Option.any_some, ← h.range, if_pos inside]
  case typing =>
    intro text
    obtain ⟨e', typed, inserted, -, s', region', session, -⟩ := h.insert? inside text
    exact ⟨e', inserted, by rw [isActive, session, Option.isSome_some]⟩
  case deleting =>
    intro first last order lower upper firstBound lastBound
    rcases Nat.eq_or_lt_of_le order with rfl | some_
    · exact ⟨_, h.delete?_nothing lower upper, by rw [isActive, h.session, Option.isSome_some]⟩
    · obtain ⟨left, gone, right, e', -, -, -, deleted, s', region', session, -⟩ :=
        h.delete? some_ lower upper firstBound lastBound
      exact ⟨e', deleted, by rw [isActive, session, Option.isSome_some]⟩

/-- Where the cursor is once the current tab stop was brought up to date. -/
theorem lands (h : e.Filling s stop before l old r after) (retyped : Retyped b before l (front ++ back) r after)
    (cursor : b.cursor = byteLength (before ++ l ++ front)) (refreshes : e.Refreshes s old (front ++ back) b e') :
    e'.Lands s.current stop.interval front back := by
  have follows := h.follows (refreshes.rewrites retyped)
  obtain ⟨s', b', refreshed, rfl⟩ := refreshes
  refine ⟨s', rfl, fun free => ?_⟩
  obtain ⟨s'', stop', l', old', r', filling, edited⟩ := h.refill follows
  obtain rfl : s' = s'' := Option.some.inj filling.session
  obtain ⟨stop'', found, here⟩ := current_of_edited h.lies.tree h.current edited
  obtain rfl : stop'' = stop' := by
    have current := filling.current
    rw [edited.dropped.current] at current
    exact Option.some.inj (found.symm.trans current)
  have place : b'.cursor = (s'.range stop.interval).1 + byteLength front := by
    have offset : b.cursor = byteLength (before ++ l) + byteLength front := by rw [cursor, Text.byteLength_append]
    have stays := h.stays retyped offset (by rw [Text.byteLength_append]; omega) refreshed
    rcases stays.2 with place | ⟨zero, crowded⟩
    · exact place
    · exact absurd crowded (free.resolve_left fun some_ => some_ (Text.eq_nil_of_byteLength_eq_zero zero))
  have text : old' = front ++ back := by
    have reads := edited.reads
    rw [textIn?, ← here, filling.first, filling.last, Text.slice?_append] at reads
    exact Option.some.inj reads
  subst text
  rw [← here, filling.range] at place
  rw [← here]
  exact filling.rests (place.trans (Text.byteLength_append _ _).symm)

/-- Typing inside the current tab stop leaves the cursor behind what is typed. -/
theorem lands_insert? (h : e.Filling s stop before l old r after)
    (inside : holds (s.range stop.interval) e.buffer.cursor = true) (text : List Char) :
    ∃ e' front typed back, e.insert? text = some e' ∧
      (e.buffer.isSelected = true → front = [] ∧ back = []) ∧
      (e.buffer.isSelected = false → old = front ++ back ∧ e.buffer.cursor = byteLength (before ++ l ++ front)) ∧
      typed = typedAt (before ++ l ++ front) (back ++ (r ++ after)) text ∧
      e'.Lands s.current stop.interval (front ++ typed) back := by
  cases selection : e.buffer.isSelected with
  | true =>
    obtain ⟨b, e', inserted, retyped, cursor, refreshes⟩ := h.insert?_selected selection inside text
    generalize typing : typedAt (before ++ l) (r ++ after) text = typed at *
    refine ⟨e', [], typed, [], inserted, fun _ => ⟨rfl, rfl⟩, fun unselected => (nomatch unselected), ?_, ?_⟩
    · rw [← typing, List.append_nil, List.nil_append]
    · rw [← List.append_nil typed] at retyped refreshes
      exact h.lands retyped cursor refreshes
  | false =>
    obtain ⟨front, back, split, place⟩ := h.split_cursor inside
    obtain ⟨b, e', inserted, retyped, cursor, refreshes⟩ := h.insert?_unselected selection split place text rfl
    rw [List.append_assoc _ front] at cursor
    exact ⟨e', front, _, back, inserted, fun selected => (nomatch selected), fun _ => ⟨split, place⟩, rfl,
      h.lands retyped cursor refreshes⟩

/-- Deleting inside the current tab stop moves the cursor with the text around it. -/
theorem lands_delete? (h : e.Filling s stop before l old r after)
    (inside : holds (s.range stop.interval) e.buffer.cursor = true) {first last : Nat} (order : first ≤ last)
    (lower : (s.range stop.interval).1 ≤ first) (upper : last ≤ (s.range stop.interval).2)
    (firstBound : IsBoundary e.buffer.text first) (lastBound : IsBoundary e.buffer.text last) :
    ∃ e' left gone right front back, e.delete? first last = some e' ∧
      old = left ++ gone ++ right ∧ first = byteLength (before ++ l ++ left) ∧ last = first + byteLength gone ∧
      left ++ right = front ++ back ∧
      byteLength (before ++ l ++ front) = Buffer.offsetWithout first last e.buffer.cursor ∧
      e'.Lands s.current stop.interval front back := by
  obtain ⟨left, gone, right, split, rfl, rfl⟩ := h.split_range order lower upper firstBound lastBound
  by_cases some_ : gone = []
  · -- where nothing is deleted the selection is given up, and nothing else happens
    subst some_
    rw [List.append_nil] at split
    subst split
    obtain ⟨front, back, same, place⟩ := h.split_cursor inside
    have filling := h.withBuffer (b := e.buffer.deselect) rfl h.lies.cursor e.calls
    rw [same] at filling
    refine ⟨_, left, [], right, front, back, h.delete?_nothing lower upper, by rw [List.append_nil], rfl, rfl, same, ?_,
      s, filling.session, fun _ => filling.rests place⟩
    exact place.symm.trans (Buffer.offsetWithout_self _ _).symm
  · obtain ⟨b, e', deleted, cut, retyped, refreshes⟩ := h.delete?_part split some_
    have cursor := Buffer.cursor_of_delete? cut
    have bound := retyped.cursor
    have text : b.text = (before ++ l) ++ (left ++ right) ++ (r ++ after) := by simp [retyped.text]
    rw [text, cursor] at bound
    rw [h.range, split] at inside
    simp only [holds, Bool.and_eq_true, decide_eq_true_eq, Text.byteLength_append] at inside
    obtain ⟨front, back, same, place⟩ := bound.middle
      (by simp only [Buffer.offsetWithout, Buffer.deselect, Text.byteLength_append]; split_ifs <;> omega)
      (by simp only [Buffer.offsetWithout, Buffer.deselect, Text.byteLength_append]; split_ifs <;> omega)
    rw [same] at retyped refreshes
    exact ⟨e', left, gone, right, front, back, deleted, split, rfl, rfl, same, place.symm,
      h.lands retyped (cursor.trans place) refreshes⟩

end Filling

/-- In a run an edit inside the current tab stop keeps the cursor there: behind what is typed, and where the text around it
goes when some text is deleted. The exception is a cursor at the very start of the tab stop where a region that shows the
tab stop ends. -/
theorem cursor_of_running (run : Running runner before after e) (inside : e.validate.1 = true) :
    ∃ s stop l old r, e.Filling s stop before l old r after ∧
      (∀ text, ∃ e' front typed back, e.insert? text = some e' ∧
        (e.buffer.isSelected = true → front = [] ∧ back = []) ∧
        (e.buffer.isSelected = false → old = front ++ back ∧ e.buffer.cursor = byteLength (before ++ l ++ front)) ∧
        typed = typedAt (before ++ l ++ front) (back ++ (r ++ after)) text ∧
        e'.Lands s.current stop.interval (front ++ typed) back) ∧
      ∀ first last, first ≤ last → (s.range stop.interval).1 ≤ first → last ≤ (s.range stop.interval).2 →
        IsBoundary e.buffer.text first → IsBoundary e.buffer.text last →
        ∃ e' left gone right front back, e.delete? first last = some e' ∧
          old = left ++ gone ++ right ∧ first = byteLength (before ++ l ++ left) ∧ last = first + byteLength gone ∧
          left ++ right = front ++ back ∧
          byteLength (before ++ l ++ front) = Buffer.offsetWithout first last e.buffer.cursor ∧
          e'.Lands s.current stop.interval front back := by
  obtain ⟨s, stop, l, old, r, filling⟩ := run.inSession
  have inside := filling.validate_iff.1 inside
  refine ⟨s, stop, l, old, r, filling, filling.lands_insert? inside, ?_⟩
  intro first last order lower upper firstBound lastBound
  exact filling.lands_delete? inside order lower upper firstBound lastBound

/-- Typing over the placeholder of a tab stop that has a mirror. -/
theorem cursor_of_running_mirror : ∃ e e' : Editor, Running Runner.disabled [] [] e ∧ e.validate.1 = true ∧
    e.insert? ['b', 'c'] = some e' ∧ e'.buffer.text = ['b', 'c', 'b', 'c'] ∧ e'.buffer.cursor = 2 ∧
    e'.Lands 1 0 ['b', 'c'] [] := by
  obtain ⟨e, started, active, valid, selected, s₁, session, current, found, e', inserted, text, cursor⟩ :
      ∃ e : Editor, (⟨⟨[], 0, none, ['\t']⟩, none, []⟩ : Editor).start? Runner.disabled
        ['$', '{', '1', ':', 'a', '}', '$', '1'] {} = some (none, e) ∧ e.isActive = true ∧
      e.validate.1 = true ∧ e.buffer.isSelected = true ∧ ∃ s, e.session = some s ∧
      s.current = 1 ∧ s.stops.get? 1 = some ⟨0, none, [1]⟩ ∧
      ∃ e', e.insert? ['b', 'c'] = some e' ∧ e'.buffer.text = ['b', 'c', 'b', 'c'] ∧ e'.buffer.cursor = 2 :=
    ⟨_, rfl, rfl, rfl, rfl, _, rfl, rfl, rfl, _, rfl, rfl, rfl⟩
  have run : Running Runner.disabled [] [] e := .start rfl rfl started active
  obtain ⟨s, stop, l, old, r, filling, types, -⟩ := cursor_of_running run valid
  obtain ⟨e'', front, typed, back, inserted', whole, -, rfl, lands⟩ := types ['b', 'c']
  obtain rfl := Option.some.inj (inserted.symm.trans inserted')
  obtain ⟨rfl, rfl⟩ := whole selected
  obtain rfl := Option.some.inj (session.symm.trans filling.session)
  rw [current] at lands
  obtain rfl := Option.some.inj (found.symm.trans (current ▸ filling.current))
  exact ⟨e, e', run, valid, inserted, text, cursor, lands⟩

/-- A transformation in front of its tab stop takes the cursor along when the text in front of the cursor is deleted. -/
theorem cursor_lost : ∃ e e' : Editor, Running Runner.disabled [] [] e ∧ e.buffer.text = ['a', 'b', 'a', 'b'] ∧
    e.validate.1 = true ∧ e.session.bind (fun s => s.stopRange? s.current) = some (2, 4) ∧
    e.delete? 2 3 = some e' ∧ e'.buffer.text = ['b', 'b'] ∧
    e'.session.bind (fun s => s.stopRange? s.current) = some (1, 2) ∧ e'.buffer.cursor = 0 ∧
    e'.validate.1 = false := by
  obtain ⟨e, started, active, text, valid, range, e', deleted, text', range', cursor', invalid⟩ :
      ∃ e : Editor, (⟨⟨[], 0, none, ['\t']⟩, none, []⟩ : Editor).start? Runner.disabled
        ['$', '{', '1', '/', 'x', '/', 'y', '/', '}', '$', '{', '1', ':', 'a', 'b', '}'] {} = some (none, e) ∧
      e.isActive = true ∧ e.buffer.text = ['a', 'b', 'a', 'b'] ∧
      ({ e with buffer := e.buffer.setCursor 3 } : Editor).validate.1 = true ∧
      e.session.bind (fun s => s.stopRange? s.current) = some (2, 4) ∧
      ∃ e', ({ e with buffer := e.buffer.setCursor 3 } : Editor).delete? 2 3 = some e' ∧
        e'.buffer.text = ['b', 'b'] ∧ e'.session.bind (fun s => s.stopRange? s.current) = some (1, 2) ∧
        e'.buffer.cursor = 0 ∧ e'.validate.1 = false :=
    ⟨_, rfl, rfl, rfl, rfl, rfl, _, rfl, rfl, rfl, rfl, rfl⟩
  have place : IsBoundary e.buffer.text 3 := ⟨['a', 'b', 'a'], ['b'], text, rfl⟩
  exact ⟨_, e', .move (.start rfl rfl started active) place, text, valid, range, deleted, text', range', cursor', invalid⟩

/-! ## Selections -/

/-- A text with a part replaced is the text with a wider part replaced only if that is the same part. -/
theorem append_eq_append_iff_nil {front left new right back : List Char} :
    front ++ new ++ back = (front ++ left) ++ new ++ (right ++ back) ↔ left = [] ∧ right = [] := by
  constructor
  · intro same
    have lengths := congrArg List.length same
    simp only [List.length_append] at lengths
    exact ⟨List.eq_nil_of_length_eq_zero (by omega), List.eq_nil_of_length_eq_zero (by omega)⟩
  · rintro ⟨rfl, rfl⟩
    simp

/-- In a run, what is typed at a selection inside the current tab stop stands for the whole text of the tab stop before what
shows it is brought up to date, and so for more than the selection unless the whole tab stop is selected. The cursor ends
behind it. -/
theorem selection_of_running (run : Running runner before after e) (inside : e.validate.1 = true) :
    ∃ s stop l old r, e.Filling s stop before l old r after ∧
      ∀ first last text, e.buffer.selection = some (first, last) → text ≠ ['\n'] →
        ∃ b e', e.insert? text = some e' ∧ b.text = (before ++ l) ++ text ++ (r ++ after) ∧
          b.cursor = byteLength (before ++ l ++ text) ∧ b.selection = none ∧ e.Refreshes s old text b e' ∧
          e'.Lands s.current stop.interval text [] ∧
          (first ≤ last → (s.range stop.interval).1 ≤ first → last ≤ (s.range stop.interval).2 →
            IsBoundary e.buffer.text first → IsBoundary e.buffer.text last →
            ∃ left picked right, old = left ++ picked ++ right ∧ first = byteLength (before ++ l ++ left) ∧
              last = first + byteLength picked ∧
              (b.text = (before ++ l ++ left) ++ text ++ (right ++ (r ++ after)) ↔ left = [] ∧ right = [])) := by
  obtain ⟨s, stop, l, old, r, filling⟩ := run.inSession
  refine ⟨s, stop, l, old, r, filling, fun first last text selection plain => ?_⟩
  have selected : e.buffer.isSelected = true := by rw [Buffer.isSelected, selection, Option.isSome_some]
  obtain ⟨b, e', inserted, retyped, cursor, refreshes⟩ :=
    filling.insert?_selected selected (filling.validate_iff.1 inside) text
  rw [typedAt, if_neg plain] at retyped cursor refreshes
  have whole : b.text = (before ++ l) ++ text ++ (r ++ after) := by simp [retyped.text]
  refine ⟨b, e', inserted, whole, cursor, retyped.selection, refreshes, ?_, ?_⟩
  · rw [← List.append_nil text] at retyped refreshes
    exact filling.lands retyped cursor refreshes
  · intro order lower upper firstBound lastBound
    obtain ⟨left, picked, right, split, rfl, rfl⟩ := filling.split_range order lower upper firstBound lastBound
    exact ⟨left, picked, right, split, rfl, rfl, by rw [whole]; exact append_eq_append_iff_nil⟩

/-- Typing over the first letter of a tab stop that has a mirror. -/
theorem selection_of_running_mirror : ∃ e e' : Editor, Running Runner.disabled [] [] e ∧ e.validate.1 = true ∧
    e.buffer.selection = some (0, 1) ∧ e.insert? ['X'] = some e' ∧ e'.buffer.text = ['X', 'X'] ∧
    e'.Lands 1 0 ['X'] [] := by
  obtain ⟨e, started, active, valid, s₁, session, current, found, e', inserted, text⟩ :
      ∃ e : Editor, (⟨⟨[], 0, none, ['\t']⟩, none, []⟩ : Editor).start? Runner.disabled
        ['$', '{', '1', ':', 'a', 'b', '}', '$', '1'] {} = some (none, e) ∧ e.isActive = true ∧
      ({ e with buffer := e.buffer.select 0 1 } : Editor).validate.1 = true ∧
      ∃ s, e.session = some s ∧ s.current = 1 ∧ s.stops.get? 1 = some ⟨0, none, [1]⟩ ∧
      ∃ e', ({ e with buffer := e.buffer.select 0 1 } : Editor).insert? ['X'] = some e' ∧
        e'.buffer.text = ['X', 'X'] :=
    ⟨_, rfl, rfl, rfl, _, rfl, rfl, rfl, _, rfl, rfl⟩
  have run : Running Runner.disabled [] [] { e with buffer := e.buffer.select 0 1 } :=
    .select 0 1 (.start rfl rfl started active)
  obtain ⟨s, stop, l, old, r, filling, types⟩ := selection_of_running run valid
  obtain ⟨b, e'', inserted', -, -, -, -, lands, -⟩ := types 0 1 ['X'] rfl (by decide)
  obtain rfl := Option.some.inj (inserted.symm.trans inserted')
  obtain rfl := Option.some.inj (session.symm.trans filling.session)
  rw [current] at lands
  obtain rfl := Option.some.inj (found.symm.trans (current ▸ filling.current))
  exact ⟨_, e', run, valid, rfl, inserted, text, lands⟩

/-- Typing over the middle letter of a tab stop, with the cursor in front of it, takes the letters around it along. -/
theorem selection_widened : ∃ e e' : Editor, Running Runner.disabled [] [] e ∧ e.buffer.text = ['a', 'b', 'c'] ∧
    e.buffer.cursor = 1 ∧ e.buffer.selection = some (1, 2) ∧ e.validate.1 = true ∧
    e.session.bind (fun s => s.stopRange? s.current) = some (0, 3) ∧ e.insert? ['X'] = some e' ∧
    e'.buffer.text ≠ ['a', 'X', 'c'] := by
  obtain ⟨e, started, active, text, cursor, valid, range, e', inserted, text'⟩ :
      ∃ e : Editor, (⟨⟨[], 0, none, ['\t']⟩, none, []⟩ : Editor).start? Runner.disabled
        ['$', '{', '1', ':', 'a', 'b', 'c', '}'] {} = some (none, e) ∧ e.isActive = true ∧
      e.buffer.text = ['a', 'b', 'c'] ∧ (e.buffer.setCursor 1).cursor = 1 ∧
      ({ e with buffer := (e.buffer.setCursor 1).select 1 2 } : Editor).validate.1 = true ∧
      e.session.bind (fun s => s.stopRange? s.current) = some (0, 3) ∧
      ∃ e', ({ e with buffer := (e.buffer.setCursor 1).select 1 2 } : Editor).insert? ['X'] = some e' ∧
        e'.buffer.text = ['X'] :=
    ⟨_, rfl, rfl, rfl, rfl, rfl, rfl, _, rfl, rfl⟩
  have place : IsBoundary e.buffer.text 1 := ⟨['a'], ['b', 'c'], text, rfl⟩
  have run : Running Runner.disabled [] [] { e with buffer := (e.buffer.setCursor 1).select 1 2 } :=
    .select 1 2 (.move (.start rfl rfl started active) place)
  exact ⟨_, e', run, text, cursor, rfl, valid, range, inserted, by rw [text']; decide⟩

end Editor

end EditorBundles.Snippet
