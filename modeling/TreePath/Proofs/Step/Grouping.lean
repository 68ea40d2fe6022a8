import Mathlib.Logic.Relation
import TreePath.Step.Basic

/-!
# Regrouping conjunctions

How the conjunctions in a step are nested can be changed in small ways (`Step.Regroups`):
neighbouring members are put into a conjunction of their own, be they several, a single one or none
at all, and a step is made the only member of a conjunction. Such changes, made and taken back, turn
two steps into each other exactly if they have the same leaves (`Step.eqvGen_regroups_iff`). So
whatever is said of the leaves of a step, in their order, holds however they are grouped.

To join two steps (`Step.and`) is to put their leaves one after the other (`Step.leaves_and`).
Joining opens conjunctions on both sides, but only the outermost ones. That suffices for it to be
associative (`Step.and_assoc`): what it makes is a conjunction, and is opened when it is joined
again.

The changes are small so that it can be seen of each that it moves no leaf. Closing them under all
conjunctions around is part of the relation, as is what surrounds a row of neighbours on both sides.
That they suffice is shown by opening: each step is turned into the row of its leaves, in one
conjunction, and two steps with the same leaves meet there.
-/

namespace TreePath

namespace Step

variable {s t : Step}

/-! ### Leaves -/

theorem leavesOfAll_eq_flatMap (ms : List Step) : leavesOfAll ms = ms.flatMap leaves := by
  induction ms with
  | nil => rfl
  | cons m ms ih => rw [leavesOfAll, ih, List.flatMap_cons]

theorem leaves_all (ms : List Step) : (all ms).leaves = ms.flatMap leaves := by
  rw [leaves, leavesOfAll_eq_flatMap]

/-- A step that is no conjunction is its own only leaf. -/
theorem leaves_eq_self (h : ∀ ms, s ≠ all ms) : s.leaves = [s] := by
  rw [leaves]
  exact h

/-- The leaves of a step are no conjunctions. -/
theorem ne_all_of_mem_leaves {l : Step} (h : l ∈ s.leaves) : ∀ ms, l ≠ all ms := by
  induction s using Step.induction with
  | all ms ih =>
    rw [leaves_all, List.mem_flatMap] at h
    obtain ⟨m, hm, hl⟩ := h
    exact ih m hm hl
  | _ =>
    rw [leaves_eq_self (by simp), List.mem_singleton] at h
    simp [h]

/-! ### Regrouping -/

/-- The nesting of conjunctions is changed at one place. -/
inductive Regroups : Step → Step → Prop
  /-- Neighbouring members are put into a conjunction of their own. -/
  | group (xs ys zs : List Step) : Regroups (all (xs ++ ys ++ zs)) (all (xs ++ all ys :: zs))
  /-- A step is made the only member of a conjunction. -/
  | wrap (s : Step) : Regroups s (all [s])
  /-- A member is changed. -/
  | inside {s t : Step} (xs zs : List Step) (h : Regroups s t) :
    Regroups (all (xs ++ s :: zs)) (all (xs ++ t :: zs))

/-- Regrouping keeps the leaves, in their order. -/
theorem Regroups.leaves_eq (h : Regroups s t) : s.leaves = t.leaves := by
  induction h with
  | group xs ys zs =>
    simp only [leaves_all, List.flatMap_append, List.flatMap_cons, List.append_assoc]
  | wrap s => rw [leaves_all, List.flatMap_singleton]
  | inside xs zs _ ih => simp only [leaves_all, List.flatMap_append, List.flatMap_cons, ih]

/-- Members can be turned into each other where they stand. -/
theorem eqvGen_regroups_inside (h : Relation.EqvGen Regroups s t) (xs zs : List Step) :
    Relation.EqvGen Regroups (all (xs ++ s :: zs)) (all (xs ++ t :: zs)) := by
  induction h with
  | rel s t h => exact .rel _ _ (.inside xs zs h)
  | refl s => exact .refl _
  | symm s t _ ih => exact .symm _ _ ih
  | trans s t u _ _ ihst ihtu => exact .trans _ _ _ ihst ihtu

/-- Every step can be turned into one plain conjunction of its leaves. -/
theorem eqvGen_regroups_leaves (s : Step) : Relation.EqvGen Regroups s (all s.leaves) := by
  induction s using Step.induction with
  | all ms ih =>
    rw [leaves_all]
    -- member by member; the leaves of those before stand on the left
    suffices h : ∀ xs, Relation.EqvGen Regroups (all (xs ++ ms)) (all (xs ++ ms.flatMap leaves)) by
      exact h []
    induction ms with
    | nil => exact fun xs ↦ .refl _
    | cons m ms ihms =>
      rw [List.forall_mem_cons] at ih
      intro xs
      have hopened := eqvGen_regroups_inside ih.1 xs ms
      have hspread := Relation.EqvGen.symm _ _ (.rel _ _ (Regroups.group xs m.leaves ms))
      have hrest := ihms ih.2 (xs ++ m.leaves)
      rw [List.append_assoc xs m.leaves (ms.flatMap leaves), ← List.flatMap_cons] at hrest
      exact .trans _ _ _ hopened (.trans _ _ _ hspread hrest)
  | _ => exact .rel _ _ (.wrap _)

/-- **Steps can be regrouped into each other exactly if they have the same leaves.** -/
theorem eqvGen_regroups_iff : Relation.EqvGen Regroups s t ↔ s.leaves = t.leaves := by
  constructor
  · intro h
    have hleaves : Equivalence fun s t : Step ↦ s.leaves = t.leaves :=
      ⟨fun s ↦ rfl, Eq.symm, Eq.trans⟩
    exact hleaves.eqvGen_iff.1 (h.mono fun s t ↦ Regroups.leaves_eq)
  · intro h
    have ht := eqvGen_regroups_leaves t
    rw [← h] at ht
    exact .trans _ _ _ (eqvGen_regroups_leaves s) (.symm _ _ ht)

/-! ### Joining -/

theorem conjuncts_eq_self (h : ∀ ms, s ≠ all ms) : s.conjuncts = [s] := by
  rw [conjuncts]
  exact h

theorem leavesOfAll_conjuncts (s : Step) : leavesOfAll s.conjuncts = s.leaves := by
  cases s with
  | all ms => rw [conjuncts, leaves]
  | _ => rw [conjuncts_eq_self (by simp), leavesOfAll_eq_flatMap, List.flatMap_singleton]

/-- The leaves of two joined steps are those of the first, then those of the second. -/
theorem leaves_and (a b : Step) : (a.and b).leaves = a.leaves ++ b.leaves := by
  rw [Step.and, leaves, leavesOfAll_eq_flatMap, List.flatMap_append, ← leavesOfAll_eq_flatMap,
    ← leavesOfAll_eq_flatMap, leavesOfAll_conjuncts, leavesOfAll_conjuncts]

/-- The members of a join are those of both steps. -/
theorem conjuncts_and (a b : Step) : (a.and b).conjuncts = a.conjuncts ++ b.conjuncts := by
  rw [Step.and, conjuncts]

/-- Joining is associative. -/
theorem and_assoc (a b c : Step) : (a.and b).and c = a.and (b.and c) := by
  rw [Step.and, conjuncts_and, Step.and.eq_1 a (b.and c), conjuncts_and, List.append_assoc]

end Step

end TreePath
