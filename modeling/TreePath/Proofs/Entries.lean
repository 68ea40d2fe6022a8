import Mathlib.Data.List.Nodup
import TreePath.Entries

/-!
# Entries as functions of their keys

As long as no key occurs twice, entries are a function from keys to values together with the order
in which the keys stand: what is listed is what is found (`get?_eq_some_iff`), and two lists of
entries are equal if they have the same keys in the same order and the same is found at each
(`eq_of_keys_eq`).

Changes of entries are defined by going through the list, and so the lemmas beside the definitions
speak of one key at a time. Here the list is taken as a whole. That no key occurs twice is a
hypothesis and not part of the type, since the members of a JSON value are entries, too, and values
can be built in which a name occurs twice. It is needed just where the first entry under a key would
hide a second one: what is found is always listed, and the converse fails without it.
-/

namespace TreePath.Entries

variable {α : Type}

/-- Nothing is found exactly under the keys that are not there. -/
theorem get?_eq_none_iff {es : Entries α} {key : String} : es.get? key = none ↔ key ∉ es.keys := by
  rw [← has_eq_true_iff_mem_keys, has, Option.isSome_iff_ne_none, not_not]

/-- What is found is listed. -/
theorem mem_of_get?_eq_some {es : Entries α} {key : String} {value : α}
    (h : es.get? key = some value) : (key, value) ∈ es := by
  induction es with
  | nil => cases h
  | cons e es ih =>
    obtain ⟨k, v⟩ := e
    rw [get?_cons] at h
    by_cases hk : k = key
    · rw [if_pos hk] at h
      cases h
      exact hk ▸ List.mem_cons_self
    · rw [if_neg hk] at h
      exact List.mem_cons_of_mem _ (ih h)

/-- What is listed is found, if no key occurs twice. -/
theorem get?_eq_some_iff {es : Entries α} (h : es.keys.Nodup) {key : String} {value : α} :
    es.get? key = some value ↔ (key, value) ∈ es := by
  refine ⟨mem_of_get?_eq_some, fun hmem ↦ ?_⟩
  induction es with
  | nil => cases hmem
  | cons e es ih =>
    obtain ⟨k, v⟩ := e
    rw [keys_cons, List.nodup_cons] at h
    rw [get?_cons]
    rcases List.mem_cons.1 hmem with heq | hmem
    · cases heq
      exact if_pos rfl
    · have hkey : key ∈ keys es := List.mem_map_of_mem hmem
      have hne : k ≠ key := fun heq ↦ h.1 (heq ▸ hkey)
      rw [if_neg hne, ih h.2 hmem]

/-- The keys in their order, and what is found at each, are all there is to entries. -/
theorem eq_of_keys_eq {es es' : Entries α} (h : es.keys.Nodup) (hkeys : es.keys = es'.keys)
    (hget : ∀ key, es.get? key = es'.get? key) : es = es' := by
  induction es generalizing es' with
  | nil => exact (List.map_eq_nil_iff.1 hkeys.symm).symm
  | cons e es ih =>
    obtain ⟨k, v⟩ := e
    rcases es' with - | ⟨⟨k', v'⟩, es'⟩
    · cases hkeys
    · rw [keys_cons, keys_cons, List.cons.injEq] at hkeys
      obtain ⟨rfl, hrest⟩ := hkeys
      rw [keys_cons, List.nodup_cons] at h
      have hhead : v = v' := by simpa [get?_cons] using hget k
      refine congrArg₂ List.cons (by rw [hhead]) (ih h.2 hrest fun key ↦ ?_)
      by_cases hk : key = k
      · -- the first key occurs in neither rest
        rw [get?_eq_none_iff.2 (hk ▸ h.1), get?_eq_none_iff.2 (hk ▸ hrest ▸ h.1)]
      · have hkey := hget key
        rwa [get?_cons, get?_cons, if_neg (Ne.symm hk), if_neg (Ne.symm hk)] at hkey

end TreePath.Entries
