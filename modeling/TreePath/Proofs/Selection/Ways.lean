import Mathlib.Data.List.Flatten
import Mathlib.Data.List.Forall2
import Mathlib.Data.List.Perm.Basic
import TreePath.Proofs.Selection.Plan
import TreePath.Selection.Engine

/-!
# The tests of the two ways

Both ways of selecting follow a plan (`planned_descend`, `planned_levels`), so that under given
answers each makes certain tests and comes to certain nodes, whatever happens in the world
meanwhile. Both come to the same nodes in the same order (`Forest.reach`), since a level is what its
parents contribute, one after the other. Depth first and level by level, the same tests are made in
different orders (`Forest.levelTests_perm`): a level takes the first tests of all its nodes
together.

The level-by-level way stops at an empty level; below no nodes there is nothing to test anyway.

The functions on answers that stand here for the two searches go down by the list of steps, as the
searches do. What they leave out is everything that could go wrong or be observed. What is reached
depends on the answers to all tests, and no test is left out because of what another one came to, so
that the two lists of tests can be compared without looking at the answers again.
-/

namespace TreePath

namespace Forest

variable (f : Forest) (τ : Answers)

/-! ### What is tested and what is reached -/

/-- The tests of a step on the children of a node. -/
def childTests (s : Step) (i : NodeId) : List Test :=
  (f.elementChildren i).map (Test.mk · s)

/-- The children of a node that pass a step. -/
def passing (s : Step) (i : NodeId) : List NodeId :=
  (f.elementChildren i).filter fun c ↦ τ ⟨c, s⟩

/-- The nodes that steps lead to from a node. -/
def reach : List Step → NodeId → List NodeId
  | [], i => [i]
  | s :: rest, i => (f.passing τ s i).flatMap (reach rest)

/-- The tests made below a node when each candidate is followed down before the next one. -/
def depthTests : List Step → NodeId → List Test
  | [], _ => []
  | s :: rest, i => f.childTests s i ++ (f.passing τ s i).flatMap (depthTests rest)

/-- The tests made below the nodes of a level when all of them are tested before the next level. -/
def levelTests : List Step → List NodeId → List Test
  | [], _ => []
  | s :: rest, level =>
    level.flatMap (f.childTests s) ++ levelTests rest (level.flatMap (f.passing τ s))

theorem levelTests_nil (steps : List Step) : f.levelTests τ steps [] = [] := by
  induction steps with
  | nil => rfl
  | cons s rest ih => exact ih

/-- Level by level the same tests are made as depth first, below each node of the level. -/
theorem levelTests_perm (steps : List Step) (level : List NodeId) :
    (f.levelTests τ steps level).Perm (level.flatMap (f.depthTests τ steps)) := by
  induction steps generalizing level with
  | nil => simp [levelTests, depthTests]
  | cons s rest ih =>
    have hrest := (ih (level.flatMap (f.passing τ s))).append_left (level.flatMap (f.childTests s))
    rw [List.flatMap_assoc] at hrest
    exact hrest.trans (List.flatMap_append_perm level _ _)

/-- If at every level what passes in one forest passes in another of the same shape, what is reached
in the one is reached in the other, in the same order. -/
theorem reach_sublist_reach {f f' : Forest} {τ τ' : Answers} {ss ss' : List Step}
    (hchildren : ∀ i, f.elementChildren i = f'.elementChildren i)
    (h : List.Forall₂ (fun s s' ↦ ∀ c, τ ⟨c, s⟩ = true → τ' ⟨c, s'⟩ = true) ss ss') (i : NodeId) :
    (f.reach τ ss i).Sublist (f'.reach τ' ss' i) := by
  induction h generalizing i with
  | nil => exact .refl _
  | @cons s s' rest rest' hhead _ ih =>
    have hpassing : (f.passing τ s i).Sublist (f'.passing τ' s' i) := by
      rw [passing, passing, hchildren]
      exact List.monotone_filter_right _ hhead
    exact (hpassing.flatMap _).trans (List.Sublist.flatMap_right _ fun c _ ↦ ih c)

end Forest

/-! ### The plans of the two ways -/

variable {σ : Setting}

theorem planned_candidatesAmong (s : Step) (is : List NodeId) :
    Planned σ (candidatesAmong σ s is)
      (fun _ ↦ (is.filter σ.forest.isElement).map (Test.mk · s))
      fun τ ↦ (is.filter σ.forest.isElement).filter fun c ↦ τ ⟨c, s⟩ := by
  induction is with
  | nil => exact Planned.pure []
  | cons i rest ih =>
    rw [candidatesAmong]
    cases hi : σ.forest.isElement i with
    | false => simpa [hi] using ih
    | true =>
      have hkept : Planned σ (do return i :: (← candidatesAmong σ s rest)) _ _ :=
        ih.bind fun found ↦ Planned.pure (i :: found)
      have hnext (b : Bool) : Planned σ
          (if b then do return i :: (← candidatesAmong σ s rest) else candidatesAmong σ s rest)
          (fun _ ↦ (rest.filter σ.forest.isElement).map (Test.mk · s))
          fun τ ↦ (if b then [i] else []) ++
            (rest.filter σ.forest.isElement).filter fun c ↦ τ ⟨c, s⟩ := by
        cases b with
        | true => exact hkept.congr (fun τ ↦ List.append_nil _) fun τ ↦ rfl
        | false => exact ih
      refine ((Planned.test ⟨i, s⟩).bind hnext).congr (fun τ ↦ ?_) fun τ ↦ ?_
      · simp [hi]
      · cases hτ : τ ⟨i, s⟩ <;> simp [hi, hτ]

theorem planned_candidates (s : Step) (i : NodeId) :
    Planned σ (candidates σ s i) (fun _ ↦ σ.forest.childTests s i)
      fun τ ↦ σ.forest.passing τ s i :=
  planned_candidatesAmong s (σ.forest.children i)

/-- Computations for the nodes of a list make their tests one after the other. -/
theorem planned_gather {g : NodeId → SelectM (List NodeId)} {tests : Answers → NodeId → List Test}
    {result : Answers → NodeId → List NodeId}
    (hg : ∀ i, Planned σ (g i) (fun τ ↦ tests τ i) fun τ ↦ result τ i) (is : List NodeId) :
    Planned σ (gather g is) (fun τ ↦ is.flatMap (tests τ)) fun τ ↦ is.flatMap (result τ) := by
  induction is with
  | nil => exact Planned.pure []
  | cons i rest ih =>
    have hrest (found : List NodeId) : Planned σ (do return found ++ (← gather g rest)) _ _ :=
      ih.bind fun more ↦ Planned.pure (found ++ more)
    refine ((hg i).bind hrest).congr (fun τ ↦ ?_) fun τ ↦ rfl
    rw [List.flatMap_cons, List.append_nil]

/-- The plan of the depth-first way. -/
theorem planned_descend (steps : List Step) (i : NodeId) :
    Planned σ (descend σ steps i) (fun τ ↦ σ.forest.depthTests τ steps i)
      fun τ ↦ σ.forest.reach τ steps i := by
  induction steps generalizing i with
  | nil => exact Planned.pure [i]
  | cons s rest ih =>
    exact (planned_candidates s i).bind fun found ↦ planned_gather ih found

/-- The plan of the level-by-level way. -/
theorem planned_levels (steps : List Step) (level : List NodeId) :
    Planned σ (levels σ steps level) (fun τ ↦ σ.forest.levelTests τ steps level)
      fun τ ↦ level.flatMap (σ.forest.reach τ steps) := by
  induction steps generalizing level with
  | nil =>
    refine (Planned.pure level).congr (fun τ ↦ rfl) fun τ ↦ ?_
    exact (List.flatMap_singleton' level).symm
  | cons s rest ih =>
    have hnext (next : List NodeId) : Planned σ
        (if next.isEmpty then return [] else levels σ rest next)
        (fun τ ↦ σ.forest.levelTests τ rest next)
        fun τ ↦ next.flatMap (σ.forest.reach τ rest) := by
      cases next with
      | nil =>
        exact (Planned.pure []).congr (fun τ ↦ (σ.forest.levelTests_nil τ rest).symm) fun τ ↦ rfl
      | cons i is => exact ih (i :: is)
    refine ((planned_gather (planned_candidates s) level).bind hnext).congr (fun τ ↦ rfl) fun τ ↦ ?_
    exact List.flatMap_assoc

/-! ### The plan of an engine -/

namespace Engine

/-- The tests that an engine makes under given answers, in order. -/
def tests (e : Engine) (f : Forest) (τ : Answers) (i : NodeId) (p : Path) : List Test :=
  match e.strategy with
  | .recursive => f.depthTests τ p.steps i
  | .iterative => f.levelTests τ p.steps [i]

/-- Every engine makes the same tests, in one order or another. -/
theorem tests_perm (e : Engine) (f : Forest) (τ : Answers) (i : NodeId) (p : Path) :
    (e.tests f τ i p).Perm (f.depthTests τ p.steps i) := by
  rw [tests]
  cases e.strategy with
  | recursive => exact .refl _
  | iterative => simpa using f.levelTests_perm τ p.steps [i]

/-- Every engine comes to the same nodes. -/
theorem planned_find (e : Engine) (i : NodeId) (p : Path) :
    Planned σ (e.find σ i p) (fun τ ↦ e.tests σ.forest τ i p)
      fun τ ↦ σ.forest.reach τ p.steps i := by
  unfold find tests
  cases e.strategy with
  | recursive => exact planned_descend p.steps i
  | iterative =>
    refine (planned_levels p.steps [i]).congr (fun τ ↦ rfl) fun τ ↦ ?_
    exact List.flatMap_singleton _ i

end Engine

end TreePath
