import TreePath.Proofs.Selection.Plan
import TreePath.Proofs.Selection.Selecting

/-!
# Steady judges

A judge is steady if what it says about a node, or raises, depends on the predicate and the node
only: never on what was reported, called or raised before. It may still do to the world what it
likes. Which failure of its kind is raised does depend on what was raised before, since failures are
numbered; so what comes out of a computation (`SelectM.outcome`) is taken without the number.

Under a steady judge every test is steady (`steady_test`), and there is one answer to every test
(`Setting.answers`) and one thing that it raises if it raises anything (`Setting.complaint?`). A
computation that follows a plan then makes the tests that its plan makes under these answers, up to
the first that raises something (`Planned.ends`), and what comes out of it can be read off them
(`Planned.outcome_eq`): what that test raises, and the result if there is none.
-/

namespace TreePath

open SelectM

/-! ### What comes out of a computation -/

/-- What is raised, apart from which failure of its kind it is. -/
def Raised.unnumbered : Raised → Raised
  | failure e => failure { e with number := 0 }
  | fault e => fault e

namespace SelectM

variable {α β : Type}

/-- What a computation returns or raises. -/
def outcome (x : SelectM α) (w : World) : Except Raised α :=
  match x.run w with
  | .ok a _ => .ok a
  | .error r _ => .error r.unnumbered

/-- What comes out of a computation is the same in every world. -/
def Steady (x : SelectM α) : Prop := ∀ w w', outcome x w = outcome x w'

theorem outcome_of_ok {x : SelectM α} {a : α} {w w' : World} (h : x.run w = .ok a w') :
    outcome x w = .ok a := by
  rw [outcome, h]

theorem outcome_of_error {x : SelectM α} {r : Raised} {w w' : World} (h : x.run w = .error r w') :
    outcome x w = .error r.unnumbered := by
  rw [outcome, h]

theorem exists_ok_of_outcome {x : SelectM α} {a : α} {w : World} (h : outcome x w = .ok a) :
    ∃ w', x.run w = .ok a w' := by
  cases hx : x.run w with
  | ok b w' =>
    rw [outcome_of_ok hx] at h
    cases h
    exact ⟨w', rfl⟩
  | error r w' =>
    rw [outcome_of_error hx] at h
    cases h

theorem exists_error_of_outcome {x : SelectM α} {r : Raised} {w : World}
    (h : outcome x w = .error r) : ∃ r' w', x.run w = .error r' w' ∧ r'.unnumbered = r := by
  cases hx : x.run w with
  | ok b w' =>
    rw [outcome_of_ok hx] at h
    cases h
  | error r' w' =>
    rw [outcome_of_error hx] at h
    cases h
    exact ⟨r', w', rfl, rfl⟩

theorem outcome_bind_of_ok {x : SelectM α} {a : α} {w w' : World} (h : x.run w = .ok a w')
    (g : α → SelectM β) : outcome (x >>= g) w = outcome (g a) w' := by
  rw [outcome, EStateM.run_bind, h]
  rfl

theorem outcome_bind_of_error {x : SelectM α} {r : Raised} {w w' : World}
    (h : x.run w = .error r w') (g : α → SelectM β) :
    outcome (x >>= g) w = .error r.unnumbered := by
  rw [outcome, EStateM.run_bind, h]

namespace Steady

theorem pure (a : α) : Steady (Pure.pure a : SelectM α) := fun _ _ ↦ rfl

theorem throw (r : Raised) : Steady (MonadExcept.throw r : SelectM α) := fun _ _ ↦ rfl

theorem bind {x : SelectM α} {g : α → SelectM β} (hx : Steady x) (hg : ∀ a, Steady (g a)) :
    Steady (x >>= g) := by
  intro w w'
  have h := hx w w'
  cases hw : x.run w with
  | ok a v =>
    rw [outcome_of_ok hw] at h
    obtain ⟨v', hw'⟩ := exists_ok_of_outcome h.symm
    rw [outcome_bind_of_ok hw, outcome_bind_of_ok hw']
    exact hg a v v'
  | error r v =>
    rw [outcome_of_error hw] at h
    obtain ⟨r', v', hw', hr⟩ := exists_error_of_outcome h.symm
    rw [outcome_bind_of_error hw, outcome_bind_of_error hw', hr]

end Steady

end SelectM

/-! ### Tests under a steady judge -/

/-- What is said about a node depends on the predicate and the node only. -/
def Judge.Steady (judge : Judge) : Prop := ∀ p i, SelectM.Steady (judge p i)

variable {σ : Setting}

/-- What a call comes to depends on what the judge says, not on the failures made before. -/
theorem outcome_callPredicate (σ : Setting) (p : Predicate) (i : NodeId) (w : World) :
    outcome (callPredicate σ p i) w =
      match outcome (σ.judge p i) (w.called p i) with
      | .ok b => .ok b
      | .error (.failure failure) => .error (.failure failure)
      | .error (.fault fault) =>
        if fault.isStop then .error (.fault fault)
        else .error (.failure ⟨0, p, i, (σ.forest.content i).describe, fault, fault⟩) := by
  rw [outcome, outcome, run_callPredicate]
  cases (σ.judge p i).run (w.called p i) with
  | ok b w' => rfl
  | error r w' =>
    cases r with
    | failure failure => rfl
    | fault fault =>
      simp only [Raised.unnumbered]
      cases fault.isStop with
      | true => rfl
      | false => rfl

/-- So calls are steady if the judge is. -/
theorem steady_callPredicate (hσ : σ.judge.Steady) (p : Predicate) (i : NodeId) :
    SelectM.Steady (callPredicate σ p i) := by
  intro w w'
  rw [outcome_callPredicate, outcome_callPredicate, hσ p i (w.called p i) (w'.called p i)]

/-- And tests are. -/
theorem steady_matchesStep (hσ : σ.judge.Steady) (i : NodeId) (s : Step) :
    SelectM.Steady (matchesStep σ i s) := by
  induction s using Step.induction with
  | name wanted =>
    rw [matchesStep]
    split
    · exact Steady.pure _
    · exact Steady.throw _
  | attributes wanted =>
    rw [matchesStep]
    split
    · exact Steady.pure _
    · exact Steady.throw _
  | predicate p =>
    rw [matchesStep]
    exact steady_callPredicate hσ p i
  | all members ih =>
    rw [matchesStep]
    induction members with
    | nil =>
      rw [matchesAll]
      exact Steady.pure true
    | cons s rest ihrest =>
      rw [List.forall_mem_cons] at ih
      rw [matchesAll]
      refine ih.1.bind fun b ↦ ?_
      cases b with
      | true => exact ihrest ih.2
      | false => exact Steady.pure false
  | unknown id =>
    rw [matchesStep]
    exact Steady.throw _

theorem steady_test (hσ : σ.judge.Steady) (t : Test) : SelectM.Steady (t.run σ) :=
  steady_matchesStep hσ t.node t.step

namespace Setting

variable (σ)

/-- What comes out of a test, whenever it is made. -/
def verdict (t : Test) : Except Raised Bool :=
  outcome (t.run σ) default

/-- What is answered to a test, whenever it is made. -/
def answers (t : Test) : Bool :=
  match σ.verdict t with
  | .ok b => b
  | .error _ => false

/-- What a test raises, whenever it is made. -/
def complaint? (t : Test) : Option Raised :=
  match σ.verdict t with
  | .ok _ => none
  | .error r => some r

end Setting

/-- What a test raises at some time is what it raises at any time. -/
theorem complaint?_of_run_eq_error (hσ : σ.judge.Steady) {t : Test} {r : Raised} {w w' : World}
    (h : (t.run σ).run w = .error r w') : σ.complaint? t = some r.unnumbered := by
  have hverdict : σ.verdict t = .error r.unnumbered :=
    (steady_test hσ t default w).trans (outcome_of_error h)
  rw [Setting.complaint?, hverdict]

/-- A test that is answered at some time gets this answer at any time. -/
theorem verdict_of_run_eq_ok (hσ : σ.judge.Steady) {t : Test} {b : Bool} {w w' : World}
    (h : (t.run σ).run w = .ok b w') : σ.verdict t = .ok b :=
  (steady_test hσ t default w).trans (outcome_of_ok h)

/-- A test that was answered raises nothing at any time. -/
theorem Answered.complaint?_eq_none (hσ : σ.judge.Steady) {τ : Answers} {ts : List Test}
    {w w' : World} (h : Answered σ τ ts w w') : ∀ t ∈ ts, σ.complaint? t = none := by
  induction h with
  | nil w => exact fun t ht ↦ absurd ht List.not_mem_nil
  | cons ht _ ih =>
    refine List.forall_mem_cons.2 ⟨?_, ih⟩
    rw [Setting.complaint?, verdict_of_run_eq_ok hσ ht]

/-! ### Plans under a steady judge -/

/-- Under a steady judge a plan makes the tests that it makes under the steady answers, up to the
end or to the first that raises something. Here tests may be repeated. -/
theorem Plan.ends {α : Type} (hσ : σ.judge.Steady) (P : Plan α) (w : World) :
    Ends σ σ.answers (P.tests σ.answers) (P.result σ.answers) (P.run σ) w := by
  induction P generalizing w with
  | done a => exact .returns (.nil w) rfl
  | ask t next ih =>
    cases ht : (t.run σ).run w with
    | error r w' =>
      have hsplit : (ask t next).tests σ.answers =
          [] ++ t :: (next (σ.answers t)).tests σ.answers := rfl
      refine .raises hsplit (.nil w) ht ?_
      rw [run, EStateM.run_bind, ht]
    | ok b w₁ =>
      have hanswer : σ.answers t = b := by
        rw [Setting.answers, verdict_of_run_eq_ok hσ ht]
      have hrun : ((ask t next).run σ).run w = ((next b).run σ).run w₁ := by
        rw [run, EStateM.run_bind, ht]
      rw [tests, result, hanswer]
      rw [← hanswer] at ht
      cases ih b w₁ with
      | returns answered run => exact .returns (.cons ht answered) (hrun.trans run)
      | raises split answered raised run =>
        exact .raises (congrArg (t :: ·) split) (.cons ht answered) raised (hrun.trans run)

section

variable {α : Type} {x : SelectM α} {tests : Answers → List Test} {result : Answers → α}

/-- Under a steady judge the answers to the tests of a computation are those of the setting, so that
it makes its tests in order up to the first that raises something. -/
theorem Planned.ends (hx : Planned σ x tests result) (hσ : σ.judge.Steady) (w : World) :
    Ends σ σ.answers (tests σ.answers) (result σ.answers) x w := by
  obtain ⟨P, rfl, rfl, rfl⟩ := hx
  exact P.ends hσ w

/-- What comes out of a computation that follows a plan, under a steady judge. -/
theorem Planned.outcome_eq (hx : Planned σ x tests result) (hσ : σ.judge.Steady) (w : World) :
    outcome x w =
      match (tests σ.answers).findSome? σ.complaint? with
      | none => .ok (result σ.answers)
      | some r => .error r := by
  cases hx.ends hσ w with
  | returns answered run =>
    rw [outcome_of_ok run, List.findSome?_eq_none_iff.2 (answered.complaint?_eq_none hσ)]
  | raises split answered raised run =>
    rw [outcome_of_error run, split, List.findSome?_append, List.findSome?_cons,
      List.findSome?_eq_none_iff.2 (answered.complaint?_eq_none hσ),
      complaint?_of_run_eq_error hσ raised]
    rfl

end

end TreePath
