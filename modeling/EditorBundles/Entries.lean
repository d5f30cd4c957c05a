/-!
# Ordered maps

A map from keys to values is a list of pairs in the order in which the keys came in. Writing to a
key that is there keeps its place, and erasing one keeps the order of the others.
-/

namespace EditorBundles.Entries
set_option autoImplicit false

variable {κ α : Type} [DecidableEq κ]

/-- The value at `key`. -/
def get? (entries : List (κ × α)) (key : κ) : Option α :=
  match entries with
  | [] => none
  | (k, v) :: rest => if k = key then some v else get? rest key

/-- Writes `value` at `key`: in place if the key is there, else at the end. -/
def put (entries : List (κ × α)) (key : κ) (value : α) : List (κ × α) :=
  match entries with
  | [] => [(key, value)]
  | (k, v) :: rest => if k = key then (key, value) :: rest else (k, v) :: put rest key value

/-- Takes `key` and its value out. -/
def erase (entries : List (κ × α)) (key : κ) : List (κ × α) :=
  match entries with
  | [] => []
  | (k, v) :: rest => if k = key then rest else (k, v) :: erase rest key

/-- The keys in order. -/
def keys (entries : List (κ × α)) : List κ := entries.map Prod.fst

/-- Reading a key that was just written gives the value written. -/
@[simp] theorem get?_put_self (entries : List (κ × α)) (key : κ) (value : α) :
    get? (put entries key value) key = some value := by
  induction entries with
  | nil => simp [put, get?]
  | cons entry rest ih =>
    obtain ⟨k, v⟩ := entry
    by_cases h : k = key <;> simp [put, get?, h, ih]

/-- Writing a key leaves the other keys alone. -/
theorem get?_put_of_ne {key other : κ} (h : other ≠ key) (entries : List (κ × α)) (value : α) :
    get? (put entries key value) other = get? entries other := by
  induction entries with
  | nil => simp [put, get?, h.symm]
  | cons entry rest ih =>
    obtain ⟨k, v⟩ := entry
    by_cases hk : k = key
    · subst hk
      simp [put, get?, h.symm]
    · simp [put, get?, hk, ih]

/-- A key that is there keeps its place, and a new one goes last. -/
theorem keys_put (entries : List (κ × α)) (key : κ) (value : α) :
    keys (put entries key value) = if key ∈ keys entries then keys entries else keys entries ++ [key] := by
  induction entries with
  | nil => simp [put, keys]
  | cons entry rest ih =>
    obtain ⟨k, v⟩ := entry
    by_cases hk : k = key
    · simp [put, keys, hk]
    · simp only [keys] at ih
      have hk' : ¬key = k := fun e => hk e.symm
      by_cases hm : key ∈ rest.map Prod.fst <;> simp [put, keys, hk, hk', ih, hm]

omit [DecidableEq κ] in
@[simp] theorem keys_nil : keys ([] : List (κ × α)) = [] := rfl

omit [DecidableEq κ] in
@[simp] theorem keys_cons (entry : κ × α) (rest : List (κ × α)) : keys (entry :: rest) = entry.1 :: keys rest := rfl

omit [DecidableEq κ] in
@[simp] theorem keys_append (front back : List (κ × α)) : keys (front ++ back) = keys front ++ keys back := by
  simp [keys]

omit [DecidableEq κ] in
/-- A map is made up of its keys and its values. -/
theorem ext {entries others : List (κ × α)} (sameKeys : keys entries = keys others)
    (sameValues : entries.map Prod.snd = others.map Prod.snd) : entries = others :=
  (List.zip_of_prod sameKeys sameValues).trans (List.zip_of_prod rfl rfl).symm

/-- A key that reads as nothing is not there. -/
theorem get?_eq_none_iff {entries : List (κ × α)} {key : κ} : get? entries key = none ↔ key ∉ keys entries := by
  induction entries with
  | nil => simp [get?]
  | cons entry rest ih =>
    obtain ⟨k, v⟩ := entry
    by_cases h : k = key
    · simp [get?, h]
    · simp [get?, h, ih, Ne.symm h]

/-- Two maps with the same keys, none of them twice, and the same value at every key are one. -/
theorem ext_get? {entries others : List (κ × α)} (sameKeys : keys entries = keys others)
    (distinct : (keys entries).Nodup) (sameValues : ∀ key, get? entries key = get? others key) :
    entries = others := by
  induction entries generalizing others with
  | nil => exact (List.map_eq_nil_iff.1 sameKeys.symm).symm
  | cons entry entries ih =>
    obtain ⟨key, v⟩ := entry
    cases others with
    | nil => cases sameKeys
    | cons other others =>
      obtain ⟨key', v'⟩ := other
      obtain ⟨rfl, sameRest⟩ : key = key' ∧ keys entries = keys others := List.cons.inj sameKeys
      obtain ⟨fresh, distinct⟩ := List.nodup_cons.1 distinct
      obtain rfl : v = v' := by simpa [get?] using sameValues key
      have behind (k : κ) : get? entries k = get? others k := by
        by_cases here : key = k
        · subst here
          rw [get?_eq_none_iff.2 fresh, get?_eq_none_iff.2 (sameRest ▸ fresh)]
        · simpa [get?, here] using sameValues k
      rw [ih sameRest distinct behind]

/-- A key that is there splits the map: the entries before it have other keys. -/
theorem exists_split_of_get? {entries : List (κ × α)} {key : κ} {value : α} (h : get? entries key = some value) :
    ∃ front back, entries = front ++ (key, value) :: back ∧ key ∉ keys front := by
  induction entries with
  | nil => simp [get?] at h
  | cons entry rest ih =>
    obtain ⟨k, v⟩ := entry
    by_cases same : k = key
    · simp only [get?, same, if_true, Option.some.injEq] at h
      exact ⟨[], rest, by simp [same, h], by simp⟩
    · simp only [get?, same, if_false] at h
      obtain ⟨front, back, rfl, fresh⟩ := ih h
      exact ⟨(k, v) :: front, back, rfl, by simp [Ne.symm same, fresh]⟩

theorem mem_of_get? {entries : List (κ × α)} {key : κ} {value : α} (h : get? entries key = some value) :
    (key, value) ∈ entries := by
  obtain ⟨front, back, rfl, -⟩ := exists_split_of_get? h
  simp

theorem mem_keys_of_get? {entries : List (κ × α)} {key : κ} {value : α} (h : get? entries key = some value) :
    key ∈ keys entries := List.mem_map_of_mem (mem_of_get? h)

section Split

variable {front back : List (κ × α)} {key : κ} (fresh : key ∉ keys front)
include fresh

theorem get?_split (value : α) : get? (front ++ (key, value) :: back) key = some value := by
  induction front with
  | nil => simp [get?]
  | cons entry rest ih =>
    obtain ⟨k, v⟩ := entry
    simp only [keys_cons, List.mem_cons, not_or] at fresh
    simp [get?, Ne.symm fresh.1, ih fresh.2]

/-- Writing a key that is there changes its entry alone. -/
theorem put_split (old value : α) : put (front ++ (key, old) :: back) key value = front ++ (key, value) :: back := by
  induction front with
  | nil => simp [put]
  | cons entry rest ih =>
    obtain ⟨k, v⟩ := entry
    simp only [keys_cons, List.mem_cons, not_or] at fresh
    simp [put, Ne.symm fresh.1, ih fresh.2]

/-- Erasing a key that is there takes its entry alone. -/
theorem erase_split (old : α) : erase (front ++ (key, old) :: back) key = front ++ back := by
  induction front with
  | nil => simp [erase]
  | cons entry rest ih =>
    obtain ⟨k, v⟩ := entry
    simp only [keys_cons, List.mem_cons, not_or] at fresh
    simp [erase, Ne.symm fresh.1, ih fresh.2]

end Split

/-- If no key is there twice, what is at a key is its value. -/
theorem get?_of_mem {entries : List (κ × α)} {key : κ} {value : α} (distinct : (keys entries).Nodup)
    (member : (key, value) ∈ entries) : get? entries key = some value := by
  obtain ⟨front, back, rfl⟩ := List.append_of_mem member
  rw [keys_append, keys_cons, List.nodup_append] at distinct
  have fresh : key ∉ keys front := fun before => distinct.2.2 key before key List.mem_cons_self rfl
  exact get?_split fresh value

/-- Writing the value that is there changes nothing. -/
theorem put_of_get? {entries : List (κ × α)} {key : κ} {value : α} (h : get? entries key = some value) :
    put entries key value = entries := by
  obtain ⟨front, back, rfl, fresh⟩ := exists_split_of_get? h
  exact put_split fresh value value

/-- Of two values written at a key the second stays. -/
@[simp] theorem put_put (entries : List (κ × α)) (key : κ) (old value : α) :
    put (put entries key old) key value = put entries key value := by
  induction entries with
  | nil => simp [put]
  | cons entry rest ih =>
    obtain ⟨k, v⟩ := entry
    by_cases h : k = key <;> simp [put, h, ih]

/-- A new key goes last. -/
theorem put_of_not_mem {entries : List (κ × α)} {key : κ} (h : key ∉ keys entries) (value : α) :
    put entries key value = entries ++ [(key, value)] := by
  induction entries with
  | nil => simp [put]
  | cons entry rest ih =>
    obtain ⟨k, v⟩ := entry
    simp only [keys_cons, List.mem_cons, not_or] at h
    simp [put, Ne.symm h.1, ih h.2]

/-- Erasing a key that is not there changes nothing. -/
theorem erase_of_not_mem {entries : List (κ × α)} {key : κ} (h : key ∉ keys entries) : erase entries key = entries := by
  induction entries with
  | nil => rfl
  | cons entry rest ih =>
    obtain ⟨k, v⟩ := entry
    simp only [keys_cons, List.mem_cons, not_or] at h
    simp [erase, Ne.symm h.1, ih h.2]

/-- Erasing a key keeps the order of the others. -/
theorem keys_erase (entries : List (κ × α)) (key : κ) : keys (erase entries key) = (keys entries).erase key := by
  induction entries with
  | nil => rfl
  | cons entry rest ih =>
    obtain ⟨k, v⟩ := entry
    by_cases h : k = key <;> simp [erase, h, ih]

/-- Writing keeps the keys distinct. -/
theorem nodup_keys_put {entries : List (κ × α)} (distinct : (keys entries).Nodup) (key : κ) (value : α) :
    (keys (put entries key value)).Nodup := by
  rw [keys_put]
  split
  · exact distinct
  · next h => exact List.nodup_append.2 ⟨distinct, by simp, by simp; exact fun a ha e => h (e ▸ ha)⟩

/-- Erasing keeps the keys distinct. -/
theorem nodup_keys_erase {entries : List (κ × α)} (distinct : (keys entries).Nodup) (key : κ) :
    (keys (erase entries key)).Nodup := by
  rw [keys_erase]
  exact distinct.erase key

/-- Erasing other keys keeps the first entry. -/
theorem foldl_erase_cons {key : κ} {doomed : List κ} (h : key ∉ doomed) (value : α) (rest : List (κ × α)) :
    doomed.foldl erase ((key, value) :: rest) = (key, value) :: doomed.foldl erase rest := by
  induction doomed generalizing rest with
  | nil => rfl
  | cons other doomed ih =>
    simp only [List.mem_cons, not_or] at h
    rw [List.foldl_cons, erase, if_neg h.1, ih h.2, List.foldl_cons]

/-- Erasing the keys of some kind leaves the entries of the other kind. -/
theorem foldl_erase_filter {entries : List (κ × α)} (distinct : (keys entries).Nodup) (doomed : κ → Bool) :
    ((keys entries).filter doomed).foldl erase entries = entries.filter fun entry => !doomed entry.1 := by
  induction entries with
  | nil => rfl
  | cons entry rest ih =>
    obtain ⟨k, v⟩ := entry
    obtain ⟨fresh, distinct⟩ := List.nodup_cons.1 distinct
    cases h : doomed k with
    | true => simpa [h, erase] using ih distinct
    | false =>
      have apart : k ∉ (keys rest).filter doomed := fun member => fresh (List.mem_filter.1 member).1
      simpa [h, foldl_erase_cons apart] using ih distinct

end EditorBundles.Entries
