import Mathlib.Data.List.Nodup
import TreePath.Path
import TreePath.Proofs.Entries

/-!
# Equality of steps

Two steps are equal exactly if their hash keys are the same (`Step.same_iff`). A hash key is a
normal form: it lists attributes in ascending order, keeps the order of members, and holds a
function or a step of no known kind by its number. So equality of steps and of paths is sameness of
a normal form, and that it is an equivalence relation which hashing respects needs no further
induction.

The one place where two equal steps differ is the order of attributes, which a sorted list forgets
(`Attributes.same_iff`): as no name occurs twice, a list in ascending order is determined by what is
in it.

A hash key is not the written form of a step, which would not tell two functions of one name apart.
Keys are nested as steps are, and so the proof is an induction on the step in which all members of a
conjunction are at hand (`Step.same_iff`).
-/

namespace TreePath

/-! ### Attributes -/

namespace Attributes

variable {a b : Attributes}

theorem within_iff : a.within b = true ↔ ∀ name value,
    a.get? name = some value → b.get? name = some value := by
  rw [within, List.all_eq_true]
  constructor
  · intro h name value hget
    simpa using h _ (Entries.mem_of_get?_eq_some hget)
  · rintro h ⟨name, value⟩ hmem
    simpa using h name value ((Entries.get?_eq_some_iff a.nodup_keys).2 hmem)

/-- Attributes are equal if they hold the same at every name. -/
theorem same_iff_get? : a.same b = true ↔ ∀ name, a.get? name = b.get? name := by
  rw [same, Bool.and_eq_true, within_iff, within_iff]
  constructor
  · rintro ⟨hab, hba⟩ name
    exact Option.ext fun value ↦ ⟨hab name value, hba name value⟩
  · intro h
    exact ⟨fun name value hget ↦ h name ▸ hget, fun name value hget ↦ (h name).symm ▸ hget⟩

theorem mem_sorted {e : String × String} : e ∈ a.sorted ↔ a.get? e.1 = some e.2 := by
  rw [sorted, List.mem_mergeSort, get?, Entries.get?_eq_some_iff a.nodup_keys]

theorem pairwise_sorted (a : Attributes) : a.sorted.Pairwise fun x y ↦ x.1 ≤ y.1 := by
  have htrans (x y z : String × String) (hxy : decide (x.1 ≤ y.1) = true)
      (hyz : decide (y.1 ≤ z.1) = true) : decide (x.1 ≤ z.1) = true :=
    decide_eq_true (String.le_trans (of_decide_eq_true hxy) (of_decide_eq_true hyz))
  have htotal (x y : String × String) : (decide (x.1 ≤ y.1) || decide (y.1 ≤ x.1)) = true := by
    rw [Bool.or_eq_true, decide_eq_true_eq, decide_eq_true_eq]
    exact String.le_total x.1 y.1
  exact (List.pairwise_mergeSort htrans htotal a.entries).imp of_decide_eq_true

theorem nodup_sorted (a : Attributes) : a.sorted.Nodup :=
  (List.mergeSort_perm a.entries _).nodup_iff.2 (List.Nodup.of_map _ a.nodup_keys)

/-- Attributes are equal exactly if they are listed alike in ascending order. -/
theorem same_iff : a.same b = true ↔ a.sorted = b.sorted := by
  rw [same_iff_get?]
  constructor
  · intro h
    have hmem (e : String × String) : e ∈ a.sorted ↔ e ∈ b.sorted := by
      rw [mem_sorted, mem_sorted, h]
    refine List.Perm.eq_of_pairwise (fun x y hx hy hxy hyx ↦ ?_) a.pairwise_sorted
      b.pairwise_sorted ((List.perm_ext_iff_of_nodup a.nodup_sorted b.nodup_sorted).2 hmem)
    -- of each name there is one entry only
    have hname : x.1 = y.1 := String.le_antisymm hxy hyx
    have hvalue : some x.2 = some y.2 := by
      rw [← mem_sorted.1 ((hmem x).1 hx), hname, mem_sorted.1 hy]
    exact Prod.ext hname (Option.some.inj hvalue)
  · intro h name
    refine Option.ext fun value ↦ ?_
    have ha : (name, value) ∈ a.sorted ↔ a.get? name = some value := mem_sorted
    have hb : (name, value) ∈ b.sorted ↔ b.get? name = some value := mem_sorted
    rw [← ha, ← hb, h]

end Attributes

/-! ### Steps -/

namespace Step

theorem sameAll_iff_of_forall {xs : List Step}
    (h : ∀ x ∈ xs, ∀ y, x.same y = true ↔ x.hashKey = y.hashKey) :
    ∀ ys, sameAll xs ys = true ↔ hashKeys xs = hashKeys ys := by
  induction xs with
  | nil =>
    rintro (- | ⟨y, ys⟩)
    · simp [sameAll, hashKeys]
    · simp [sameAll, hashKeys]
  | cons x xs ih =>
    rintro (- | ⟨y, ys⟩)
    · simp [sameAll, hashKeys]
    · rw [sameAll, hashKeys, hashKeys, Bool.and_eq_true, List.cons.injEq]
      rw [h x List.mem_cons_self, ih (fun z hz ↦ h z (List.mem_cons_of_mem x hz)) ys]

/-- **Steps are equal exactly if they have the same hash key.** -/
theorem same_iff (a b : Step) : a.same b = true ↔ a.hashKey = b.hashKey := by
  induction a using Step.induction generalizing b with
  | name s => cases b <;> simp [same, hashKey]
  | attributes wanted =>
    cases b with
    | attributes wanted' =>
      rw [same, hashKey, hashKey, HashKey.attributes.injEq, Attributes.same_iff]
    | _ => simp [same, hashKey]
  | predicate p => cases b <;> simp [same, hashKey]
  | all ms ih =>
    cases b with
    | all ms' => rw [same, hashKey, hashKey, HashKey.all.injEq, sameAll_iff_of_forall ih]
    | _ => simp [same, hashKey]
  | unknown i => cases b <;> simp [same, hashKey]

theorem sameAll_iff (xs ys : List Step) : sameAll xs ys = true ↔ hashKeys xs = hashKeys ys :=
  sameAll_iff_of_forall (fun x _ y ↦ same_iff x y) ys

/-! ### Hash keys -/

mutual

theorem HashKey.same_self : ∀ k : HashKey, k.same k = true
  | .name _ => by rw [HashKey.same, beq_self_eq_true]
  | .attributes _ => by rw [HashKey.same, beq_self_eq_true]
  | .predicate _ => by rw [HashKey.same, beq_self_eq_true]
  | .all ks => by rw [HashKey.same, HashKey.sameAll_self ks]
  | .unknown _ => by rw [HashKey.same, beq_self_eq_true]

theorem HashKey.sameAll_self : ∀ ks : List HashKey, HashKey.sameAll ks ks = true
  | [] => rfl
  | k :: ks => by rw [HashKey.sameAll, HashKey.same_self k, HashKey.sameAll_self ks, Bool.and_self]

end

end Step

/-! ### Paths -/

/-- Paths are equal exactly if their steps have the same hash keys. -/
theorem Path.same_iff (p q : Path) :
    p.same q = true ↔ Step.hashKeys p.steps = Step.hashKeys q.steps :=
  Step.sameAll_iff p.steps q.steps

end TreePath
