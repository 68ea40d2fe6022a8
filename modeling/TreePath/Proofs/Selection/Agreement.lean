import TreePath.Proofs.Forest.Reachable
import TreePath.Proofs.Selection.Steady
import TreePath.Proofs.Selection.Ways

/-!
# The two ways agree

Under a steady judge it does not matter in which order tests are made: each of them answers or
raises what it would at any other time. Depth first and level by level the same tests are made and
the same nodes reached, so one way is ended by something raised exactly if the other one is, and if
neither is, both find the same (`strategies_agree`). What is raised may differ, since the two ways
come to different tests first.

The two selections need not be run in the same world, and only one of them may be timed. Neither has
an influence on what comes out, since a steady judge answers alike in all worlds and the clock is
read outside of the search (`Engine.outcome_select`). What is left of the comparison is a statement
on two lists of tests, one of which is the other in another order: whether a test that raises
something is in a list does not depend on the order (`Engine.findSome?_tests_eq_none_iff`).
-/

namespace TreePath

open SelectM

variable {σ : Setting}

/-- What comes out of a selection is what comes out of the search. -/
theorem Engine.outcome_select (e : Engine) (i : NodeId) (p : Path) (w : World) :
    outcome (e.select σ i p) w = outcome (e.find σ i p) (e.opened w) := by
  rw [outcome, outcome, e.run_select]
  cases (e.find σ i p).run (e.opened w) with
  | ok found w' => rfl
  | error r w' =>
    cases r with
    | failure failure => rfl
    | fault fault => rfl

/-- Under a steady judge a selection returns what is reached, unless a test that its engine makes
raises something. -/
theorem Engine.outcome_select_eq (hσ : σ.judge.Steady) (e : Engine) (i : NodeId) (p : Path)
    (w : World) :
    outcome (e.select σ i p) w =
      match (e.tests σ.forest σ.answers i p).findSome? σ.complaint? with
      | none => .ok (σ.forest.reach σ.answers p.steps i)
      | some r => .error r := by
  rw [e.outcome_select]
  exact (e.planned_find i p).outcome_eq hσ _

/-- If one engine comes to a test that raises something, every engine does. -/
theorem Engine.findSome?_tests_eq_none_iff (e e' : Engine) (f : Forest) (τ : Answers) (i : NodeId)
    (p : Path) (complaint? : Test → Option Raised) :
    (e.tests f τ i p).findSome? complaint? = none ↔
      (e'.tests f τ i p).findSome? complaint? = none := by
  have hperm := (e.tests_perm f τ i p).trans (e'.tests_perm f τ i p).symm
  rw [List.findSome?_eq_none_iff, List.findSome?_eq_none_iff]
  exact ⟨fun h t ht ↦ h t (hperm.mem_iff.2 ht), fun h t ht ↦ h t (hperm.mem_iff.1 ht)⟩

/-- **The two ways of selecting agree.** From any node, by any path and in any two worlds, either
both selections return and find the same elements in the same order, or both are ended by something
raised. -/
theorem strategies_agree (hσ : σ.judge.Steady) (i : NodeId) (p : Path) (timed timed' : Bool)
    (w w' : World) :
    (∃ found v v',
        ((Engine.mk .recursive timed).select σ i p).run w = .ok found v ∧
          ((Engine.mk .iterative timed').select σ i p).run w' = .ok found v') ∨
      ∃ r r' v v',
        ((Engine.mk .recursive timed).select σ i p).run w = .error r v ∧
          ((Engine.mk .iterative timed').select σ i p).run w' = .error r' v' := by
  have hdepth := Engine.outcome_select_eq hσ ⟨.recursive, timed⟩ i p w
  have hlevels := Engine.outcome_select_eq hσ ⟨.iterative, timed'⟩ i p w'
  have hiff := Engine.findSome?_tests_eq_none_iff ⟨.recursive, timed⟩ ⟨.iterative, timed'⟩ σ.forest
    σ.answers i p σ.complaint?
  cases hcomplaint : (Engine.tests ⟨.recursive, timed⟩ σ.forest σ.answers i p).findSome?
      σ.complaint? with
  | none =>
    rw [hcomplaint] at hdepth
    rw [hiff.1 hcomplaint] at hlevels
    obtain ⟨v, hv⟩ := exists_ok_of_outcome hdepth
    obtain ⟨v', hv'⟩ := exists_ok_of_outcome hlevels
    exact Or.inl ⟨_, v, v', hv, hv'⟩
  | some r =>
    cases hcomplaint' : (Engine.tests ⟨.iterative, timed'⟩ σ.forest σ.answers i p).findSome?
        σ.complaint? with
    | none =>
      rw [hiff.2 hcomplaint'] at hcomplaint
      cases hcomplaint
    | some r' =>
      rw [hcomplaint] at hdepth
      rw [hcomplaint'] at hlevels
      obtain ⟨r₁, v, hv, -⟩ := exists_error_of_outcome hdepth
      obtain ⟨r₂, v', hv', -⟩ := exists_error_of_outcome hlevels
      exact Or.inr ⟨r₁, r₂, v, v', hv, hv'⟩

/-- The forest that the sample calls make, under a judge who says yes to even nodes and raises the
same fault on odd ones. -/
def sampleSetting : Setting where
  forest := Call.run .empty Forest.sampleCalls
  clock _ := 0
  judge _ i := if i % 2 = 0 then return true else throw (.fault (.raised "ValueError" "odd"))

/-- Asks for an element with one of the names in the sample whom the judge says yes to. -/
def samplePath : Path :=
  ⟨.all [.name "b", .predicate ⟨"even", none, "", ""⟩], []⟩

/-- From the document of the sample, both ways find one element by the sample path. -/
theorem strategies_agree_sample :
    sampleSetting.judge.Steady ∧
      ∃ v v',
        ((Engine.mk .recursive true).select sampleSetting 0 samplePath).run default = .ok [2] v ∧
          ((Engine.mk .iterative false).select sampleSetting 0 samplePath).run default =
            .ok [2] v' := by
  have hsteady : sampleSetting.judge.Steady := by
    intro p i w w'
    dsimp only [sampleSetting]
    split
    · rfl
    · rfl
  have houtcome : outcome ((Engine.mk .recursive true).select sampleSetting 0 samplePath) default =
      .ok [2] := rfl
  obtain ⟨v, hv⟩ := exists_ok_of_outcome houtcome
  refine ⟨hsteady, ?_⟩
  rcases strategies_agree hsteady 0 samplePath true false default default with
    ⟨found, u, u', hdepth, hlevels⟩ | ⟨r, r', u, u', hdepth, -⟩
  · cases hv.symm.trans hdepth
    exact ⟨v, u', hdepth, hlevels⟩
  · cases hv.symm.trans hdepth

end TreePath
