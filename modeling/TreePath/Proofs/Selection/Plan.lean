import Mathlib.Data.List.Nodup
import Mathlib.Logic.Function.Basic
import TreePath.Selection.Matching

/-!
# Plans

A selection does nothing to the world but test steps on nodes, and what it does next depends on the
answers only. A plan (`Plan`) is such a computation with the tests left open: it is done, or it asks
for a test and has a plan for either answer. Under given answers a plan makes a certain list of
tests and comes to a certain result; these are functions of the answers, in which neither worlds nor
failures occur. That a computation follows a plan with these tests and this result is
`Planned σ x tests result`, and it is put together as the computation is (`Planned.bind`).

What is known of the tests is then known of the computation. If no plan repeats a test, the
computation makes all of its tests, in order, or is ended by the first that raises something
(`Planned.exists_ends`). The answers are those that were really given, whatever a judge that changes
its mind would say at another time; that they can be read as one function of the tests is where it
is used that no test is repeated.
-/

namespace TreePath

/-- A step asked of a node. -/
structure Test where
  /-- The node. -/
  node : NodeId
  /-- The step. -/
  step : Step

/-- Makes a test. -/
def Test.run (σ : Setting) (t : Test) : SelectM Bool :=
  matchesStep σ t.node t.step

/-- An answer to every test. -/
abbrev Answers := Test → Bool

/-- A computation with tests left open. -/
inductive Plan (α : Type) where
  /-- Comes to a result. -/
  | done (a : α)
  /-- Asks for a test and goes on by its answer. -/
  | ask (t : Test) (next : Bool → Plan α)

namespace Plan

variable {α β : Type}

/-- Carries out a plan. -/
def run (σ : Setting) : Plan α → SelectM α
  | done a => pure a
  | ask t next => t.run σ >>= fun b ↦ (next b).run σ

/-- The tests that a plan makes under given answers, in order. -/
def tests (τ : Answers) : Plan α → List Test
  | done _ => []
  | ask t next => t :: (next (τ t)).tests τ

/-- What a plan comes to under given answers. -/
def result (τ : Answers) : Plan α → α
  | done a => a
  | ask t next => (next (τ t)).result τ

/-- One plan after another. -/
def bind : Plan α → (α → Plan β) → Plan β
  | done a, g => g a
  | ask t next, g => ask t fun b ↦ (next b).bind g

theorem run_bind (σ : Setting) (P : Plan α) (g : α → Plan β) :
    (P.bind g).run σ = P.run σ >>= fun a ↦ (g a).run σ := by
  induction P with
  | done a => simp [bind, run]
  | ask t next ih => simp [bind, run, ih]

theorem tests_bind (τ : Answers) (P : Plan α) (g : α → Plan β) :
    (P.bind g).tests τ = P.tests τ ++ (g (P.result τ)).tests τ := by
  induction P with
  | done a => rfl
  | ask t next ih => exact congrArg (t :: ·) (ih (τ t))

theorem result_bind (τ : Answers) (P : Plan α) (g : α → Plan β) :
    (P.bind g).result τ = (g (P.result τ)).result τ := by
  induction P with
  | done a => rfl
  | ask t next ih => exact ih (τ t)

/-- Answers to tests that are not made do not matter. -/
theorem congr_of_agree {τ τ' : Answers} {P : Plan α} (h : ∀ t ∈ P.tests τ, τ' t = τ t) :
    P.tests τ' = P.tests τ ∧ P.result τ' = P.result τ := by
  induction P with
  | done a => exact ⟨rfl, rfl⟩
  | ask t next ih =>
    rw [tests, List.forall_mem_cons] at h
    obtain ⟨htests, hresult⟩ := ih (τ t) h.2
    rw [tests, tests, result, result, h.1, htests, hresult]
    exact ⟨rfl, rfl⟩

end Plan

/-! ### Runs of tests -/

/-- The tests of a list, made one after the other from the first world on, got the given answers and
left the second world behind. -/
inductive Answered (σ : Setting) (τ : Answers) : List Test → World → World → Prop
  /-- No test was made. -/
  | nil (w : World) : Answered σ τ [] w w
  /-- A test was answered before the others. -/
  | cons {t : Test} {ts : List Test} {w w₁ w' : World} (ht : (t.run σ).run w = .ok (τ t) w₁)
    (hts : Answered σ τ ts w₁ w') : Answered σ τ (t :: ts) w w'

theorem Answered.congr {σ : Setting} {τ τ' : Answers} {ts : List Test} {w w' : World}
    (h : Answered σ τ ts w w') (hτ : ∀ t ∈ ts, τ' t = τ t) : Answered σ τ' ts w w' := by
  induction h with
  | nil w => exact .nil w
  | cons ht _ ih =>
    rw [List.forall_mem_cons] at hτ
    refine .cons ?_ (ih hτ.2)
    rw [hτ.1]
    exact ht

/-- How a computation ends that makes tests and comes to a result. -/
inductive Ends {α : Type} (σ : Setting) (τ : Answers) (tests : List Test) (result : α)
    (x : SelectM α) (w : World) : Prop
  /-- All tests were answered, and it returns the result. -/
  | returns {w' : World} (answered : Answered σ τ tests w w') (run : x.run w = .ok result w')
  /-- A test raised something when those before it were answered, and nothing was made of it. -/
  | raises {before after : List Test} {t : Test} {r : Raised} {w₁ w' : World}
    (split : tests = before ++ t :: after) (answered : Answered σ τ before w w₁)
    (raised : (t.run σ).run w₁ = .error r w') (run : x.run w = .error r w')

namespace Plan

variable {α : Type}

/-- An answer that is entered for one test changes nothing for others. -/
theorem update_eq_of_not_mem [DecidableEq Test] {ts : List Test} {t : Test} (h : t ∉ ts)
    (τ : Answers) (b : Bool) : ∀ t' ∈ ts, Function.update τ t b t' = τ t' := by
  intro t' ht'
  refine Function.update_of_ne ?_ b τ
  rintro rfl
  exact h ht'

/-- The tests after a test that is not repeated are the same whatever its answer is taken to be. -/
theorem tests_update [DecidableEq Test] {τ : Answers} {P : Plan α} {t : Test} {b : Bool}
    (h : t ∉ P.tests (Function.update τ t b)) :
    P.tests (Function.update τ t b) = P.tests τ ∧
      P.result (Function.update τ t b) = P.result τ := by
  have hsame := update_eq_of_not_mem h τ b
  obtain ⟨htests, hresult⟩ := congr_of_agree fun t' ht' ↦ (hsame t' ht').symm
  exact ⟨htests.symm, hresult.symm⟩

open Classical in
/-- A plan that repeats no test makes its tests in order, up to the end or to the first that raises
something. -/
theorem exists_ends (σ : Setting) {P : Plan α} (h : ∀ τ, (P.tests τ).Nodup) (w : World) :
    ∃ τ, Ends σ τ (P.tests τ) (P.result τ) (P.run σ) w := by
  induction P generalizing w with
  | done a => exact ⟨fun _ ↦ false, .returns (.nil w) rfl⟩
  | ask t next ih =>
    cases ht : (t.run σ).run w with
    | error r w' =>
      have hsplit : (ask t next).tests (fun _ ↦ false) =
          [] ++ t :: (next false).tests fun _ ↦ false := rfl
      refine ⟨fun _ ↦ false, .raises hsplit (.nil w) ht ?_⟩
      rw [run, EStateM.run_bind, ht]
    | ok b w₁ =>
      -- answers for the rest of the plan come from the induction; this one is entered for the test,
      -- which the rest does not make again
      have hrest (τ : Answers) : t ∉ (next b).tests (Function.update τ t b) ∧
          ((next b).tests (Function.update τ t b)).Nodup := by
        have hnodup := h (Function.update τ t b)
        rwa [tests, Function.update_self, List.nodup_cons] at hnodup
      have hnodup (τ : Answers) : ((next b).tests τ).Nodup := by
        rw [← (tests_update (hrest τ).1).1]
        exact (hrest τ).2
      obtain ⟨τ, hτ⟩ := ih b hnodup w₁
      obtain ⟨htests, hresult⟩ := tests_update (hrest τ).1
      have hnew : t ∉ (next b).tests τ := htests ▸ (hrest τ).1
      have hrun : (run σ (ask t next)).run w = ((next b).run σ).run w₁ := by
        rw [run, EStateM.run_bind, ht]
      have ht' : (t.run σ).run w = .ok (Function.update τ t b t) w₁ := by
        rw [Function.update_self, ht]
      refine ⟨Function.update τ t b, ?_⟩
      rw [tests, result, Function.update_self, htests, hresult]
      cases hτ with
      | returns answered run =>
        have hanswered := answered.congr (update_eq_of_not_mem hnew τ b)
        exact .returns (.cons ht' hanswered) (hrun.trans run)
      | raises split answered raised run =>
        rw [split] at hnew
        have hbefore := fun hmem ↦ hnew (List.mem_append_left _ hmem)
        have hanswered := answered.congr (update_eq_of_not_mem hbefore τ b)
        exact .raises (congrArg (t :: ·) split) (.cons ht' hanswered) raised (hrun.trans run)

end Plan

/-! ### Computations that follow a plan -/

/-- A computation follows a plan with these tests and this result. -/
def Planned {α : Type} (σ : Setting) (x : SelectM α) (tests : Answers → List Test)
    (result : Answers → α) : Prop :=
  ∃ P : Plan α, P.run σ = x ∧ P.tests = tests ∧ P.result = result

namespace Planned

variable {α β : Type} {σ : Setting} {x : SelectM α} {tests tests' : Answers → List Test}
  {result result' : Answers → α}

/-- What returns at once makes no test. -/
theorem pure (a : α) : Planned σ (Pure.pure a) (fun _ ↦ []) fun _ ↦ a :=
  ⟨.done a, rfl, rfl, rfl⟩

/-- A test makes itself. -/
theorem test (t : Test) : Planned σ (t.run σ) (fun _ ↦ [t]) fun τ ↦ τ t :=
  ⟨.ask t .done, bind_pure _, rfl, rfl⟩

/-- What is done with the result of a computation comes after the computation's tests. -/
theorem bind {g : α → SelectM β} {testsOf : α → Answers → List Test} {resultOf : α → Answers → β}
    (hx : Planned σ x tests result) (hg : ∀ a, Planned σ (g a) (testsOf a) (resultOf a)) :
    Planned σ (x >>= g) (fun τ ↦ tests τ ++ testsOf (result τ) τ)
      fun τ ↦ resultOf (result τ) τ := by
  obtain ⟨P, rfl, rfl, rfl⟩ := hx
  choose Q hrun htests hresult using hg
  refine ⟨P.bind Q, ?_, ?_, ?_⟩
  · rw [Plan.run_bind]
    exact congrArg (P.run σ >>= ·) (funext hrun)
  · funext τ
    rw [Plan.tests_bind, ← htests]
  · funext τ
    rw [Plan.result_bind, ← hresult]

theorem congr (hx : Planned σ x tests result) (htests : ∀ τ, tests τ = tests' τ)
    (hresult : ∀ τ, result τ = result' τ) : Planned σ x tests' result' := by
  rwa [← funext htests, ← funext hresult]

/-- A computation whose plan repeats no test makes its tests in order, up to the end or to the first
that raises something. -/
theorem exists_ends (hx : Planned σ x tests result) (h : ∀ τ, (tests τ).Nodup) (w : World) :
    ∃ τ, Ends σ τ (tests τ) (result τ) x w := by
  obtain ⟨P, rfl, rfl, rfl⟩ := hx
  exact P.exists_ends σ h w

end Planned

end TreePath
