/-!
# Ordered entries

A list of key–value pairs in which the order of first insertion is kept: assigning a key that is
present changes its value in place, assigning a new key adds it at the end. The same functions serve
the attributes of an element and the members of a configuration section.

Look-up takes the first entry of a key, so its laws hold of every list, whether or not a key occurs
twice; `put` and `drop` keep the keys distinct (`nodup_keys_put`, `nodup_keys_drop`).

Keys are compared as texts, character by character. Removing a key that is not there changes
nothing; the functions that have to fail in that case look first. Every law here is about one key at
a time: what is found under it afterwards, and that nothing changes under the others.
-/

namespace TreePath

/-- Pairs of a key and a value, in order of insertion. -/
abbrev Entries (α : Type) := List (String × α)

namespace Entries

variable {α β : Type}

/-- The keys, in order. -/
def keys (es : Entries α) : List String :=
  es.map Prod.fst

/-- The value at a key. -/
def get? : Entries α → String → Option α
  | [], _ => none
  | (k, v) :: es, key => if k = key then some v else get? es key

/-- Whether a key is present. -/
def has (es : Entries α) (key : String) : Bool :=
  (es.get? key).isSome

/-- Assigns a key: in place if it is present, else at the end. -/
def put : Entries α → String → α → Entries α
  | [], key, value => [(key, value)]
  | (k, v) :: es, key, value => if k = key then (k, value) :: es else (k, v) :: put es key value

/-- Removes a key. -/
def drop : Entries α → String → Entries α
  | [], _ => []
  | (k, v) :: es, key => if k = key then drop es key else (k, v) :: drop es key

/-- The entries that remain of a list of assignments made in order: the last value of each key, at
the place of its first. -/
def ofPairs (pairs : List (String × α)) : Entries α :=
  pairs.foldl (fun es p ↦ es.put p.1 p.2) []

@[simp] theorem keys_nil : keys ([] : Entries α) = [] := rfl

@[simp] theorem keys_cons (k : String) (v : α) (es : Entries α) :
    keys ((k, v) :: es) = k :: keys es := rfl

/-! ### Look-up after a change -/

@[simp] theorem get?_nil (key : String) : get? ([] : Entries α) key = none := rfl

/-- The first entry with a key decides. -/
theorem get?_cons (k : String) (v : α) (es : Entries α) (key : String) :
    get? ((k, v) :: es) key = if k = key then some v else get? es key := rfl

/-- What was put under a key is found there. -/
@[simp] theorem get?_put_self (es : Entries α) (key : String) (value : α) :
    (es.put key value).get? key = some value := by
  induction es with
  | nil => simp [put, get?]
  | cons e es ih =>
    obtain ⟨k, v⟩ := e
    by_cases h : k = key <;> simp [put, get?, h, ih]

/-- To put something under a key changes nothing under other keys. -/
theorem get?_put_of_ne (es : Entries α) {key other : String} (value : α) (h : other ≠ key) :
    (es.put key value).get? other = es.get? other := by
  induction es with
  | nil => simp [put, get?, Ne.symm h]
  | cons e es ih =>
    obtain ⟨k, v⟩ := e
    by_cases hk : k = key
    · subst hk
      simp [put, get?, Ne.symm h]
    · simp [put, get?, hk, ih]

/-- Of two values assigned to one key, the second stays, at the place of the first. -/
@[simp] theorem put_put_self (es : Entries α) (key : String) (value other : α) :
    (es.put key value).put key other = es.put key other := by
  induction es with
  | nil => simp [put]
  | cons e es ih =>
    obtain ⟨k, v⟩ := e
    by_cases h : k = key <;> simp [put, h, ih]

/-- Under a key that was dropped nothing is found. -/
@[simp] theorem get?_drop_self (es : Entries α) (key : String) : (es.drop key).get? key = none := by
  induction es with
  | nil => rfl
  | cons e es ih =>
    obtain ⟨k, v⟩ := e
    by_cases h : k = key <;> simp [drop, h, get?, ih]

/-- To drop a key changes nothing under other keys. -/
theorem get?_drop_of_ne (es : Entries α) {key other : String} (h : other ≠ key) :
    (es.drop key).get? other = es.get? other := by
  induction es with
  | nil => rfl
  | cons e es ih =>
    obtain ⟨k, v⟩ := e
    by_cases hk : k = key
    · subst hk
      simp [drop, get?, Ne.symm h, ih]
    · simp [drop, hk, get?, ih]

/-! ### The keys after a change -/

/-- A key is there if it is among the keys. -/
theorem has_eq_true_iff_mem_keys (es : Entries α) (key : String) :
    es.has key = true ↔ key ∈ es.keys := by
  induction es with
  | nil => simp [has]
  | cons e es ih =>
    obtain ⟨k, v⟩ := e
    simp only [has] at ih
    by_cases h : k = key
    · simp [has, get?, h]
    · simp [has, get?, h, Ne.symm h, ih]

/-- A new key comes last; a key that was there keeps its place. -/
theorem keys_put (es : Entries α) (key : String) (value : α) :
    (es.put key value).keys = if key ∈ es.keys then es.keys else es.keys ++ [key] := by
  induction es with
  | nil => simp [put]
  | cons e es ih =>
    obtain ⟨k, v⟩ := e
    by_cases h : k = key
    · simp [put, h]
    · have h' : ¬ key = k := fun e ↦ h e.symm
      by_cases hm : key ∈ keys es
      · simp [put, h, ih, hm]
      · simp [put, h, h', ih, hm]

/-- A new key comes last. -/
theorem put_of_not_mem_keys (es : Entries α) {key : String} (value : α) (h : key ∉ es.keys) :
    es.put key value = es ++ [(key, value)] := by
  induction es with
  | nil => rfl
  | cons e es ih =>
    obtain ⟨k, v⟩ := e
    rw [keys_cons, List.mem_cons, not_or] at h
    rw [put, if_neg (Ne.symm h.1), ih h.2, List.cons_append]

/-- No key is put twice. -/
theorem nodup_keys_put {es : Entries α} (h : es.keys.Nodup) (key : String) (value : α) :
    (es.put key value).keys.Nodup := by
  rw [keys_put]
  split
  · exact h
  · rename_i hk
    exact List.nodup_append.mpr ⟨h, by simp, fun a ha b hb ↦ by
      rw [List.mem_singleton] at hb
      rintro rfl
      exact hk (hb ▸ ha)⟩

/-- To drop a key keeps the order of the others. -/
theorem drop_sublist (es : Entries α) (key : String) : List.Sublist (es.drop key) es := by
  induction es with
  | nil => exact List.Sublist.slnil
  | cons e es ih =>
    obtain ⟨k, v⟩ := e
    by_cases h : k = key
    · simpa [drop, h] using ih.cons (k, v)
    · simpa [drop, h] using ih

/-- Of pairs with the same key only one entry is made. -/
theorem nodup_keys_ofPairs (pairs : List (String × α)) : (ofPairs pairs).keys.Nodup := by
  have hall (es : Entries α) (h : es.keys.Nodup) :
      (pairs.foldl (fun es p ↦ es.put p.1 p.2) es).keys.Nodup := by
    induction pairs generalizing es with
    | nil => exact h
    | cons p pairs ih => exact ih _ (nodup_keys_put h p.1 p.2)
  exact hall [] List.nodup_nil

/-- To drop a key repeats none. -/
theorem nodup_keys_drop {es : Entries α} (h : es.keys.Nodup) (key : String) :
    (es.drop key).keys.Nodup :=
  h.sublist ((drop_sublist es key).map Prod.fst)

end Entries

end TreePath
