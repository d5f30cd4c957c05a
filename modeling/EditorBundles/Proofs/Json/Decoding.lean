import EditorBundles.Json.Decoder
import EditorBundles.Proofs.Json.Printed

/-!
# Decoding what was encoded

A decoder reads a value back from its JSON if it finds the value in front of whatever can follow it in printed
JSON. There is one law for each way to build a decoder, so that a record is read back as soon as its fields are.
-/

namespace EditorBundles.Json
set_option autoImplicit false
open Decoder

variable {α β σ : Type}

/-- The decoder reads the value from its JSON, wherever that stands in a text. -/
structure Decodes (d : Decoder α) (j : Json) (a : α) : Prop where
  starts : Starts (compact j).toList
  decodes : ∀ {k}, Stops k → d ((compact j).toList ++ k) = .ok (a, k)

/-- A text that holds nothing but the JSON of a value gives the value. -/
theorem Decodes.run {d : Decoder α} {j : Json} {a : α} (h : Decodes d j a) : d.run (compact j) = .ok a := by
  have whole : d (compact j).toList = .ok (a, []) := by
    have read := h.decodes stops_nil
    rwa [List.append_nil] at read
  rw [Decoder.run, whole]
  rfl

/-! ## Single values -/

theorem decodes_string (s : String) : Decodes Decoder.string (.string s) s := by
  refine ⟨starts_quote s, fun {k} stops => ?_⟩
  rw [compact, toList_quote, List.cons_append, Decoder.string, skipBlanks_cons rfl]
  show (readText .keeping _ >>= fun p => pure (String.ofList p.1, p.2)) = .ok (s, k)
  rw [readText_quote]
  show Except.ok (String.ofList s.toList, k) = .ok (s, k)
  rw [String.ofList_toList]

theorem decodes_bool (b : Bool) : Decodes Decoder.bool (.bool b) b := by
  cases b with
  | false => exact ⟨⟨'f', ['a', 'l', 's', 'e'], rfl, rfl, by decide, by decide⟩, fun _ => rfl⟩
  | true => exact ⟨⟨'t', ['r', 'u', 'e'], rfl, rfl, by decide, by decide⟩, fun _ => rfl⟩

theorem isBlank_of_isDigit {c : Char} (digit : c.isDigit = true) : isBlank c = false := by
  by_contra blank
  rw [Bool.not_eq_false, isBlank] at blank
  simp only [Bool.or_eq_true, decide_eq_true_eq] at blank
  rcases blank with ((rfl | rfl) | rfl) | rfl <;> cases digit

theorem starts_toDigits (n : Nat) : Starts (Nat.toDigits 10 n) := by
  obtain ⟨c, rest, shape, digit⟩ := exists_toDigits_cons n
  refine ⟨c, rest, shape, isBlank_of_isDigit digit, ?_, ?_⟩
  · rintro rfl
    cases digit
  · rintro rfl
    cases digit

/-- A whole number is read if it fits both the 64 bits of JSON and what is wanted. -/
theorem decodes_integer {fit : Int → Option α} {n : Int} {a : α} (low : -0x8000000000000000 ≤ n)
    (high : n < 0x10000000000000000) (fits : fit n = some a) : Decodes (Decoder.integer fit) (.integer n) a := by
  cases n with
  | ofNat m =>
    have text : (compact (.integer (.ofNat m))).toList = Nat.toDigits 10 m := by simp [compact, Int.repr]
    refine ⟨?_, fun {k} stops => ?_⟩
    · rw [text]
      exact starts_toDigits m
    · have value : integerValue? false m = some (.ofNat m) := by
        have bound : m < 0x10000000000000000 := Int.ofNat_lt.1 high
        rw [integerValue?, if_neg Bool.false_ne_true, if_pos bound]
        rfl
      have number := readNumber_toDigits .keeping false m stops value
      obtain ⟨c, rest, shape, digit⟩ := exists_toDigits_cons m
      have unsigned : c ≠ '-' := by
        rintro rfl
        cases digit
      rw [shape, List.cons_append] at number
      rw [text, shape, List.cons_append, Decoder.integer, skipBlanks_cons (isBlank_of_isDigit digit)]
      simp only [unsigned, digit, decide_false, or_true, if_true, if_false, number, fits]
  | negSucc m =>
    have text : (compact (.integer (.negSucc m))).toList = '-' :: Nat.toDigits 10 (m + 1) := by
      simp [compact, Int.repr]
    refine ⟨?_, fun {k} stops => ?_⟩
    · rw [text]
      exact ⟨'-', _, rfl, rfl, by decide, by decide⟩
    · have value : integerValue? true (m + 1) = some (.negSucc m) := by
        have bound : ¬(decide (m + 1 = 0) || decide (0x8000000000000000 < m + 1)) = true := by
          simp only [Bool.or_eq_true, decide_eq_true_eq]
          omega
        rw [integerValue?, if_pos rfl, if_neg bound]
        rfl
      have number := readNumber_toDigits .keeping true (m + 1) stops value
      rw [text, List.cons_append, Decoder.integer, skipBlanks_cons rfl]
      simp only [true_or, if_true, decide_true, number, fits]

theorem decodes_natural {limit n : Nat} (limited : limit ≤ 0x10000000000000000) (below : n < limit) :
    Decodes (Decoder.natural limit) (.integer n) n := by
  refine decodes_integer (by omega) (by omega) ?_
  rw [if_pos ⟨by omega, by omega⟩]
  rfl

/-- The numbers of 64 bits. -/
def IsInt64 (n : Int) : Prop := -0x8000000000000000 ≤ n ∧ n < 0x8000000000000000

theorem decodes_int64 {n : Int} (h : IsInt64 n) : Decodes Decoder.int64 (.integer n) n := by
  obtain ⟨low, high⟩ := h
  exact decodes_integer low (by omega) (if_pos ⟨low, high⟩)

/-! ## Changed values -/

theorem Decodes.map {d : Decoder α} {j : Json} {a : α} (h : Decodes d j a) (f : α → β) : Decodes (d.map f) j (f a) := by
  refine ⟨h.starts, fun {k} stops => ?_⟩
  rw [Decoder.map, h.decodes stops]
  rfl

theorem Decodes.mapFit {d : Decoder α} {j : Json} {a : α} {f : α → Option β} {b : β} (h : Decodes d j a) (fits : f a = some b) :
    Decodes (d.mapFit f) j b := by
  refine ⟨h.starts, fun {k} stops => ?_⟩
  rw [Decoder.mapFit, h.decodes stops]
  dsimp only
  rw [fits]

theorem decodes_none (d : Decoder α) : Decodes (optional d) .null none :=
  ⟨⟨'n', ['u', 'l', 'l'], rfl, rfl, by decide, by decide⟩, fun _ => rfl⟩

/-- A value is read where null could stand, as its text starts differently. -/
theorem Decodes.optional {d : Decoder α} {j : Json} {a : α} (h : Decodes d j a) (other : (compact j).toList.head? ≠ some 'n') :
    Decodes (optional d) j (some a) := by
  refine ⟨h.starts, fun {k} stops => ?_⟩
  have read := h.decodes stops
  obtain ⟨c, rest, shape, solid, -⟩ := h.starts
  rw [shape, List.cons_append] at read ⊢
  rw [Decoder.optional, skipBlanks_cons solid]
  split
  · rename_i same
    obtain ⟨rfl, -⟩ := List.cons.inj same
    exact absurd (congrArg List.head? shape) other
  · rw [read]
    rfl

/-! ## Arrays -/

theorem toList_compactItems_cons (first : Bool) (j : Json) (js : List Json) (k : List Char) :
    (compactItems first (j :: js)).toList ++ k =
      (if first then [] else [',']) ++ ((compact j).toList ++ ((compactItems false js).toList ++ k)) := by
  cases first <;> simp [compactItems]

theorem stops_items (js : List Json) (k : List Char) : Stops ((compactItems false js).toList ++ ']' :: k) := by
  cases js with
  | nil => exact stops_bracket k
  | cons j js =>
    rw [toList_compactItems_cons]
    exact stops_comma _

/-- The next item is found behind the comma, if there has to be one. -/
theorem nextItem_of_starts {cs : List Char} (h : Starts cs) (first : Bool) :
    nextItem first ((if first then [] else [',']) ++ cs) = .ok (some cs) := by
  obtain ⟨c, rest, rfl, solid, open_, -⟩ := h
  cases first with
  | true =>
    show nextItem true (c :: rest) = .ok (some (c :: rest))
    rw [nextItem, skipBlanks_cons solid]
    split
    · rename_i none_
      cases none_
    · rename_i closed
      exact absurd (List.cons.inj closed).1 open_
    · rename_i same
      obtain ⟨rfl, rfl⟩ := List.cons.inj same
      rfl
  | false =>
    show nextItem false (',' :: c :: rest) = .ok (some (c :: rest))
    rw [nextItem, skipBlanks_cons rfl]
    split
    · rename_i none_
      cases none_
    · rename_i closed
      cases (List.cons.inj closed).1
    · rename_i same
      obtain ⟨rfl, rfl⟩ := List.cons.inj same
      rw [if_neg Bool.false_ne_true, if_pos rfl, skipBlanks_cons solid]
      split
      · rename_i none_
        cases none_
      · rename_i closed
        exact absurd (List.cons.inj closed).1 open_
      · rfl

/-- The fuel lasts for the items, as it is more than the characters that are left. -/
theorem items_compactItems {d : Decoder α} {encode : α → Json} {as : List α} (each : ∀ a ∈ as, Decodes d (encode a) a)
    (first : Bool) (fuel : Nat) {k : List Char}
    (enough : ((compactItems first (as.map encode)).toList ++ ']' :: k).length < fuel) :
    items d fuel first ((compactItems first (as.map encode)).toList ++ ']' :: k) = .ok (as, k) := by
  induction as generalizing first fuel with
  | nil =>
    cases fuel with
    | zero => cases enough
    | succ fuel => rfl
  | cons a as ih =>
    have read := each a List.mem_cons_self
    have stops := stops_items (as.map encode) k
    have positive := read.starts.length_pos
    rw [List.map_cons, toList_compactItems_cons] at enough ⊢
    cases fuel with
    | zero => cases enough
    | succ fuel =>
      have behind := ih (fun a member => each a (List.mem_cons_of_mem _ member)) false fuel (by
        simp only [List.length_append] at enough ⊢
        omega)
      rw [items, nextItem_of_starts (read.starts.append _)]
      show (d _ >>= fun p => items d fuel false p.2 >>= fun q => pure (p.1 :: q.1, q.2)) = _
      rw [read.decodes stops]
      show (items d fuel false _ >>= fun q => pure (a :: q.1, q.2)) = _
      rw [behind]
      rfl

theorem decodes_list {d : Decoder α} {encode : α → Json} {as : List α} (each : ∀ a ∈ as, Decodes d (encode a) a) :
    Decodes (list d) (.array (as.map encode)) as := by
  have text (k : List Char) : (compact (.array (as.map encode))).toList ++ k =
      '[' :: ((compactItems true (as.map encode)).toList ++ ']' :: k) := by
    simp [compact]
  refine ⟨⟨'[', _, (List.append_nil _).symm.trans (text []), rfl, by decide, by decide⟩, fun {k} _ => ?_⟩
  rw [text, list, skipBlanks_cons rfl]
  exact items_compactItems each true _ (Nat.lt_succ_self _)

/-! ## Objects -/

theorem toList_compactMembers_cons (first : Bool) (key : String) (j : Json) (ms : List (String × Json)) (k : List Char) :
    (compactMembers first ((key, j) :: ms)).toList ++ k =
      (if first then [] else [',']) ++
        ((quote key).toList ++ ':' :: ((compact j).toList ++ ((compactMembers false ms).toList ++ k))) := by
  cases first <;> simp [compactMembers]

theorem stops_members (ms : List (String × Json)) (k : List Char) : Stops ((compactMembers false ms).toList ++ '}' :: k) := by
  cases ms with
  | nil => exact stops_brace k
  | cons m ms =>
    rw [toList_compactMembers_cons]
    exact stops_comma _

/-- The next key is found behind the comma, if there has to be one. -/
theorem nextKey_quote (first : Bool) (key : String) (k : List Char) :
    nextKey first ((if first then [] else [',']) ++ ((quote key).toList ++ k)) = .ok (some key, k) := by
  have read := readKeyText_quote .keeping key k
  rw [toList_quote, List.cons_append] at read ⊢
  cases first with
  | true =>
    show nextKey true ('"' :: _) = .ok (some key, k)
    rw [nextKey, skipBlanks_cons rfl]
    show (readKeyText .keeping ('"' :: _)).map _ = _
    rw [read]
    rfl
  | false =>
    show nextKey false (',' :: '"' :: _) = .ok (some key, k)
    rw [nextKey, skipBlanks_cons rfl]
    show (readKeyText .keeping (skipBlanks ('"' :: _))).map _ = _
    rw [skipBlanks_cons rfl, read]
    rfl

theorem members_compactMembers {d : Decoder α} {encode : α → Json} {ms : List (String × α)}
    (each : ∀ m ∈ ms, Decodes d (encode m.2) m.2) (first : Bool) (fuel : Nat) {k : List Char}
    (enough : ((compactMembers first (ms.map fun m => (m.1, encode m.2))).toList ++ '}' :: k).length < fuel) :
    members d fuel first ((compactMembers first (ms.map fun m => (m.1, encode m.2))).toList ++ '}' :: k) = .ok (ms, k) := by
  induction ms generalizing first fuel with
  | nil =>
    cases fuel with
    | zero => cases enough
    | succ fuel => rfl
  | cons m ms ih =>
    have read := each m List.mem_cons_self
    have stops := stops_members (ms.map fun m => (m.1, encode m.2)) k
    rw [List.map_cons, toList_compactMembers_cons] at enough ⊢
    cases fuel with
    | zero => cases enough
    | succ fuel =>
      have behind := ih (fun m member => each m (List.mem_cons_of_mem _ member)) false fuel (by
        simp only [List.length_append, List.length_cons] at enough ⊢
        omega)
      rw [members, nextKey_quote]
      show (d _ >>= fun p => members d fuel false p.2 >>= fun q => pure ((m.1, p.1) :: q.1, q.2)) = _
      rw [read.decodes stops]
      show (members d fuel false _ >>= fun q => pure ((m.1, m.2) :: q.1, q.2)) = _
      rw [behind]
      rfl

/-- Members with distinct keys are put one behind the other. -/
theorem foldl_put_of_nodup (seen : List (String × α)) {ms : List (String × α)} (distinct : (Entries.keys (seen ++ ms)).Nodup) :
    ms.foldl (fun seen m => Entries.put seen m.1 m.2) seen = seen ++ ms := by
  induction ms generalizing seen with
  | nil => exact (List.append_nil seen).symm
  | cons m ms ih =>
    have fresh : m.1 ∉ Entries.keys seen := by
      intro before
      rw [Entries.keys_append, List.nodup_append] at distinct
      exact distinct.2.2 m.1 before m.1 List.mem_cons_self rfl
    rw [List.append_cons] at distinct ⊢
    rw [List.foldl_cons, Entries.put_of_not_mem fresh]
    exact ih _ distinct

theorem toList_compact_object (ms : List (String × Json)) (k : List Char) :
    (compact (.object ms)).toList ++ k = '{' :: ((compactMembers true ms).toList ++ '}' :: k) := by
  simp [compact]

theorem starts_object (ms : List (String × Json)) : Starts (compact (.object ms)).toList := by
  have text := toList_compact_object ms []
  rw [List.append_nil] at text
  exact ⟨'{', _, text, rfl, by decide, by decide⟩

theorem decodes_entries {d : Decoder α} {encode : α → Json} {ms : List (String × α)} (distinct : (Entries.keys ms).Nodup)
    (each : ∀ m ∈ ms, Decodes d (encode m.2) m.2) : Decodes (entries d) (.object (ms.map fun m => (m.1, encode m.2))) ms := by
  refine ⟨starts_object _, fun {k} _ => ?_⟩
  rw [toList_compact_object, entries, skipBlanks_cons rfl]
  show (members d _ true _).map _ = _
  rw [members_compactMembers each true _ (Nat.lt_succ_self _)]
  show Except.ok (ms.foldl (fun seen m => Entries.put seen m.1 m.2) [], k) = .ok (ms, k)
  rw [foldl_put_of_nodup [] distinct]
  rfl

/-- A case is named by its key. -/
theorem Decodes.oneOf {d : Decoder α} {j : Json} {a : α} (h : Decodes d j a) {cases : String → Option (Decoder α)} {key : String}
    (named : cases key = some d) : Decodes (oneOf cases) (.object [(key, j)]) a := by
  refine ⟨starts_object _, fun {k} _ => ?_⟩
  have name := readKeyText_quote .keeping key (':' :: ((compact j).toList ++ '}' :: k))
  rw [toList_compact_object, toList_compactMembers_cons, Decoder.oneOf, skipBlanks_cons rfl]
  rw [toList_quote, List.cons_append] at name ⊢
  show (readKeyText .keeping (skipBlanks ('"' :: _)) >>= _) = _
  rw [skipBlanks_cons rfl]
  show (readKeyText .keeping ('"' :: (_ ++ ':' :: ((compact j).toList ++ '}' :: k))) >>= _) = _
  rw [name]
  simp only [bind, Except.bind, named]
  show (d ((compact j).toList ++ '}' :: k) >>= _) = _
  rw [h.decodes (stops_brace k)]
  rfl

/-! ## Records -/

/-- The fields of a record are read in order from its members, until the rest of them is missing. -/
inductive FieldsRead : List (Field σ) → σ → List (String × Json) → σ → Prop where
  | rest {fields : List (Field σ)} {s s' : σ} (completed : complete [] fields s = some s') : FieldsRead fields s [] s'
  | next {field : Field σ} {fields : List (Field σ)} {s s₁ s' : σ} {j : Json} {ms : List (String × Json)}
    (read : Decodes (field.decode s) j s₁) (behind : FieldsRead fields s₁ ms s') :
    FieldsRead (field :: fields) s ((field.key, j) :: ms) s'

/-- Fields that were seen need not be completed. -/
theorem complete_append {seen : List String} {front back : List (Field σ)} (before : ∀ field ∈ front, field.key ∈ seen)
    (after : ∀ field ∈ back, field.key ∉ seen) (s : σ) : complete seen (front ++ back) s = complete [] back s := by
  induction front with
  | nil =>
    rw [List.nil_append]
    induction back generalizing s with
    | nil => rfl
    | cons field back ih =>
      rw [complete, complete, if_neg (after field List.mem_cons_self), if_neg List.not_mem_nil]
      exact congrArg _ (funext (ih fun field member => after field (List.mem_cons_of_mem _ member)))
  | cons field front ih =>
    rw [List.cons_append, complete, if_pos (before field List.mem_cons_self)]
    exact ih fun field member => before field (List.mem_cons_of_mem _ member)

/-- What is behind some fields is read after these were, which is why they are not looked for again. -/
theorem fieldMembers_compactMembers (front : List (Field σ)) {back : List (Field σ)} (seen : List String) {s s' : σ}
    {ms : List (String × Json)}
    (read : FieldsRead back s ms s') (distinct : ((front ++ back).map Field.key).Nodup)
    (all : ∀ key, key ∈ seen ↔ key ∈ front.map Field.key) (first : Bool) (fuel : Nat) {k : List Char}
    (enough : ((compactMembers first ms).toList ++ '}' :: k).length < fuel) :
    fieldMembers (front ++ back) fuel first seen s ((compactMembers first ms).toList ++ '}' :: k) = .ok (s', k) := by
  induction read generalizing front seen first fuel with
  | @rest back s s' completed =>
    cases fuel with
    | zero => cases enough
    | succ fuel =>
      rw [List.map_append, List.nodup_append] at distinct
      have before : ∀ field ∈ front, field.key ∈ seen := by
        intro field member
        exact (all field.key).2 (List.mem_map_of_mem member)
      have after : ∀ field ∈ back, field.key ∉ seen := by
        intro field member known
        exact distinct.2.2 _ ((all field.key).1 known) _ (List.mem_map_of_mem member) rfl
      simp only [fieldMembers]
      rw [complete_append before after, completed]
      rfl
  | @next field back s s₁ s' j ms read behind ih =>
    have stops := stops_members ms k
    rw [toList_compactMembers_cons] at enough ⊢
    cases fuel with
    | zero => cases enough
    | succ fuel =>
      have apart := distinct
      rw [List.map_append, List.nodup_append] at apart
      have earlier : field.key ∉ front.map Field.key := by
        intro member
        exact apart.2.2 _ member _ List.mem_cons_self rfl
      have found : (front ++ field :: back).find? (·.key = field.key) = some field := by
        rw [List.find?_append, List.find?_eq_none.2, List.find?_cons_of_pos (by simp)]
        · rfl
        · intro other member same
          exact earlier (List.mem_map.2 ⟨other, member, of_decide_eq_true same⟩)
      have fresh : field.key ∉ seen := by
        rw [all]
        exact earlier
      rw [List.append_cons] at distinct
      have rest := ih (front ++ [field]) (field.key :: seen) distinct (by
        intro key
        rw [List.mem_cons, all, List.map_append, List.mem_append, List.map_singleton, List.mem_singleton, or_comm])
        false fuel (by
        simp only [List.length_append, List.length_cons] at enough ⊢
        omega)
      rw [← List.append_cons] at rest
      rw [fieldMembers, nextKey_quote]
      simp only [bind, Except.bind, found]
      rw [if_neg fresh]
      show (field.decode s _ >>= fun p => fieldMembers _ fuel false (field.key :: seen) p.1 p.2) = _
      rw [read.decodes stops]
      exact rest

theorem FieldsRead.decodes_record {fields : List (Field σ)} {start s : σ} {ms : List (String × Json)}
    (h : FieldsRead fields start ms s) (distinct : (fields.map Field.key).Nodup) :
    Decodes (record fields start) (.object ms) s := by
  refine ⟨starts_object _, fun {k} _ => ?_⟩
  rw [toList_compact_object, record, skipBlanks_cons rfl]
  exact fieldMembers_compactMembers [] [] h distinct (fun _ => Iff.rfl) true _ (Nat.lt_succ_self _)

theorem Decodes.field {d : Decoder α} {j : Json} {a : α} (h : Decodes d j a) {key : String} {store : σ → α → σ} (s : σ) :
    Decodes ((Decoder.field key d store).decode s) j (store s a) := h.map (store s)

theorem Decodes.optionalField {d : Decoder α} {j : Json} {a : α} (h : Decodes d j a) {key : String} {store : σ → α → σ} (s : σ) :
    Decodes ((Decoder.optionalField key d store).decode s) j (store s a) := h.map (store s)

theorem Decodes.nullableField {d : Decoder α} {j : Json} {a : Option α} (h : Decodes (Decoder.optional d) j a) {key : String}
    {store : σ → Option α → σ} (s : σ) : Decodes ((Decoder.nullableField key d store).decode s) j (store s a) := h.map (store s)

end EditorBundles.Json
