import TreePath.Proofs.Selection.Tracing

/-!
# The tests and calls of a selection

Which tests a selection makes, and which predicates it calls in them, when it returns and the judge
is steady (`tests_of_selections`). A step is tested on the element children of what the steps before
it lead to, and every test is made once. In a test, predicates are called from left to right, up to
the first member of a conjunction that does not hold (`Step.calls`). So the calls of a selection are
those of its tests, and level by level they are those made depth first, sorted by depth.

The calls are read off the history of the selection. If predicates make no calls of their own, they
are also what the world keeps of them (`Answered.calls_eq`).

The statement has two parts that must not be confused. That an engine *makes* a list of tests in a
run is said of the run: the tests and their answers are those of its trail, and the trail is that of
a search which returned (`Makes`, `Engine.exists_run_makes_trail`). Which tests are in the list, and
that each is in it once, is then said of the list and of the forest, and nothing else. Without the
first part the second would be about a list that any search might have been given.
-/

namespace TreePath

open SelectM

/-! ### The calls of a test -/

mutual

/-- The calls that are made when a step is tested on a node under given answers, in order. -/
def Step.calls (τ : Answers) (i : NodeId) : Step → List (Predicate × NodeId)
  | .predicate p => [(p, i)]
  | .all members => Step.callsAmong τ i members
  | .name _ | .attributes _ | .unknown _ => []

/-- The calls that are made when steps are tested, up to the first that does not hold. -/
def Step.callsAmong (τ : Answers) (i : NodeId) : List Step → List (Predicate × NodeId)
  | [] => []
  | s :: rest => s.calls τ i ++ if τ ⟨i, s⟩ then Step.callsAmong τ i rest else []

end

/-- The calls of a test. -/
def Test.calls (τ : Answers) (t : Test) : List (Predicate × NodeId) :=
  t.step.calls τ t.node

/-- What is called in a test is called with the node. -/
theorem Step.node_of_mem_calls {τ : Answers} {i : NodeId} {s : Step} :
    ∀ c ∈ s.calls τ i, c.2 = i := by
  induction s using Step.induction with
  | predicate p => simp [calls]
  | all members ih =>
    rw [calls]
    induction members with
    | nil => simp [callsAmong]
    | cons s rest ihrest =>
      rw [List.forall_mem_cons] at ih
      intro c hc
      rw [callsAmong, List.mem_append] at hc
      rcases hc with hc | hc
      · exact ih.1 c hc
      · split at hc
        · exact ihrest ih.2 c hc
        · cases hc
  | _ => simp [calls]

variable {σ : Setting} {J : Predicate → NodeId → History}

/-- A step that returns something was answered so. -/
theorem answers_of_upshot (hσ : σ.judge.Steady) {i : NodeId} {s : Step} {b : Bool} {w : World}
    (h : upshot (matchesStep σ i s) w = .ok b) : σ.answers ⟨i, s⟩ = b := by
  have hverdict : σ.verdict ⟨i, s⟩ = .ok b :=
    (steady_matchesStep hσ i s default w).trans (outcome_eq_ok_iff.2 h)
  rw [Setting.answers, hverdict]

/-- A step that raises something counts as answered with no. -/
theorem answers_of_upshot_error (hσ : σ.judge.Steady) {i : NodeId} {s : Step} {r : Raised}
    {w : World} (h : upshot (matchesStep σ i s) w = .error r) : σ.answers ⟨i, s⟩ = false := by
  cases hverdict : σ.verdict ⟨i, s⟩ with
  | ok b =>
    have hok := outcome_eq_ok_iff.1 ((steady_matchesStep hσ i s w default).trans hverdict)
    cases h.symm.trans hok
  | error r' => rw [Setting.answers, hverdict]

/-- The calls in the history of a test are those that the answers lead to. -/
theorem filterMap_stepHistory (hσ : σ.judge.Steady) (i : NodeId) (s : Step) (w : World) :
    (stepHistory σ J i s w).filterMap Happening.called? = s.calls σ.answers i := by
  induction s using Step.induction generalizing w with
  | predicate p => rw [stepHistory, Step.calls]; rfl
  | all members ih =>
    rw [stepHistory, Step.calls]
    induction members generalizing w with
    | nil => rw [membersHistory, Step.callsAmong]; rfl
    | cons s rest ihrest =>
      rw [List.forall_mem_cons] at ih
      rw [membersHistory, History.andThen, List.filterMap_append, ih.1, Step.callsAmong]
      refine congrArg (s.calls σ.answers i ++ ·) ?_
      cases h : upshot (matchesStep σ i s) w with
      | error r =>
        rw [answers_of_upshot_error hσ h]
        rfl
      | ok b =>
        rw [answers_of_upshot hσ h]
        cases b with
        | true => exact ihrest ih.2 _
        | false => rfl
  | _ => rw [stepHistory, Step.calls]; rfl

/-! ### What the world keeps of the calls -/

/-- No predicate makes calls of its own. -/
def Judge.Quiet (judge : Judge) : Prop := ∀ p i w, (leave (judge p i) w).calls = w.calls

/-- Then a call adds itself to the calls that the world keeps, whatever it comes to. -/
theorem calls_of_callPredicate (hquiet : σ.judge.Quiet) (p : Predicate) (i : NodeId) (w : World) :
    (leave (callPredicate σ p i) w).calls.toList = w.calls.toList ++ [(p, i)] := by
  -- the call itself is kept before the predicate runs
  have hcalled : (w.called p i).calls.toList = w.calls.toList ++ [(p, i)] := Array.toList_push
  have hkept := hquiet p i (w.called p i)
  rw [leave] at hkept
  rw [leave, run_callPredicate, ← hcalled, ← hkept]
  rcases (σ.judge p i).run (w.called p i) with ⟨b, w'⟩ | ⟨g | e, w'⟩
  · rfl
  · rfl
  · cases hstop : e.isStop with
    | true => simp only [hstop, if_true]
    | false =>
      simp only [hstop, Bool.false_eq_true, if_false]
      rfl

/-- A test that is answered adds its calls to those that the world keeps. -/
theorem calls_of_matchesStep (hσ : σ.judge.Steady) (hquiet : σ.judge.Quiet) {i : NodeId} {s : Step}
    {b : Bool} {w w' : World} (h : (matchesStep σ i s).run w = .ok b w') :
    w'.calls.toList = w.calls.toList ++ s.calls σ.answers i := by
  induction s using Step.induction generalizing b w w' with
  | predicate p =>
    have hcalls := calls_of_callPredicate hquiet p i w
    rw [matchesStep] at h
    rw [leave, h] at hcalls
    rw [hcalls, Step.calls]
  | all members ih =>
    rw [matchesStep] at h
    rw [Step.calls]
    induction members generalizing b w w' with
    | nil =>
      rw [matchesAll] at h
      cases h
      rw [Step.callsAmong, List.append_nil]
    | cons s rest ihrest =>
      rw [List.forall_mem_cons] at ih
      rw [matchesAll, EStateM.run_bind] at h
      cases hs : (matchesStep σ i s).run w with
      | error r w₁ =>
        rw [hs] at h
        cases h
      | ok b₁ w₁ =>
        rw [hs] at h
        have hfirst := ih.1 hs
        have hanswer : σ.answers ⟨i, s⟩ = b₁ := answers_of_upshot hσ (w := w) (by rw [upshot, hs])
        rw [Step.callsAmong, hanswer]
        cases b₁ with
        | true => rw [ihrest ih.2 h, hfirst, if_pos rfl, List.append_assoc]
        | false =>
          cases h
          rw [hfirst, if_neg Bool.false_ne_true, List.append_nil]
  | name wanted =>
    rw [matchesStep] at h
    rw [Step.calls, List.append_nil]
    split at h <;> cases h
    rfl
  | attributes wanted =>
    rw [matchesStep] at h
    rw [Step.calls, List.append_nil]
    split at h <;> cases h
    rfl
  | unknown id =>
    rw [matchesStep] at h
    cases h

/-- Tests that are answered one after the other add their calls in this order. -/
theorem Answered.calls_eq (hσ : σ.judge.Steady) (hquiet : σ.judge.Quiet) {ts : List Test}
    {w w' : World} (h : Answered σ σ.answers ts w w') :
    w'.calls.toList = w.calls.toList ++ ts.flatMap (Test.calls σ.answers) := by
  induction h with
  | nil w => exact (List.append_nil _).symm
  | cons ht _ ih =>
    rw [ih, calls_of_matchesStep hσ hquiet ht, List.flatMap_cons, List.append_assoc]
    rfl

/-! ### The tests and calls of an engine -/

/-- A computation makes these tests, in this order, and does nothing else: it carries out a plan
that asks for them if the answers are those of the setting, and the tests were answered so one after
the other, from the world that the computation starts in to the one that it ends in. -/
structure Makes {α : Type} (σ : Setting) (x : SelectM α) (ts : List Test) (w w' : World) :
    Prop where
  /-- The plan of the computation asks for the tests. -/
  plan : ∃ P : Plan α, P.run σ = x ∧ P.tests σ.answers = ts
  /-- The tests lead from world to world. -/
  answered : Answered σ σ.answers ts w w'

namespace Engine

/-- If a selection returns under a steady judge, the search of every engine does, at any time. -/
theorem exists_upshot_find (hσ : σ.judge.Steady) {e : Engine} {i : NodeId} {p : Path}
    {found : List NodeId} {w w' : World} (h : (e.select σ i p).run w = .ok found w') (e' : Engine)
    (v : World) : ∃ found', upshot (e'.find σ i p) v = .ok found' := by
  have houtcome := e.outcome_select_eq hσ i p w
  rw [outcome_of_ok h] at houtcome
  -- no test of this selection raises anything, and every engine makes the same tests
  have hnone : (e.tests σ.forest σ.answers i p).findSome? σ.complaint? = none := by
    split at houtcome
    · assumption
    · cases houtcome
  have hfind := (e'.planned_find i p).outcome_eq hσ v
  rw [(e'.findSome?_tests_eq_none_iff e _ _ i p _).2 hnone] at hfind
  exact ⟨_, outcome_eq_ok_iff.1 hfind⟩

/-- A selection that returns adds the calls of its tests to those that the world keeps. -/
theorem calls_of_select (hσ : σ.judge.Steady) (hquiet : σ.judge.Quiet) (e : Engine) {i : NodeId}
    {p : Path} {found : List NodeId} {w w' : World} (h : (e.select σ i p).run w = .ok found w') :
    w'.calls.toList = w.calls.toList ++
      (e.tests σ.forest σ.answers i p).flatMap (Test.calls σ.answers) := by
  have hopened : (e.opened w).calls = w.calls := by
    rw [opened]
    split <;> rfl
  rw [e.run_select] at h
  cases (e.planned_find i p).ends hσ (e.opened w) with
  | @returns w₁ answered run =>
    rw [run] at h
    cases h
    have hclosed (start steps found : Nat) :
        (e.closed σ start steps found w₁).calls = w₁.calls := by
      rw [closed]
      split <;> rfl
    rw [hclosed, answered.calls_eq hσ hquiet, hopened]
  | @raises before after t r w₁ w₂ split answered raised run =>
    rw [run] at h
    cases r <;> cases h

section

variable (hf : σ.forest.WellLinked) (hσ : σ.judge.Steady) {e : Engine} {i : NodeId} {p : Path}
  {found : List NodeId} {w : World} (h : upshot (e.find σ i p) (e.opened w) = .ok found)

include hf hσ h

/-- The trail of a selection is the list of its tests. -/
theorem trail_eq : e.trail σ i p w =
    (e.tests σ.forest σ.answers i p).map fun t ↦ (σ.forest.depthBelow i t.node - 1, t) := by
  have hseen : ∀ (k : Nat) (t : Test) (_ : World), [(k, t)].filterMap some = [(k, t)] :=
    fun _ _ _ ↦ rfl
  have htrace := filterMap_searchTrace hseen hf hσ h
  rw [List.filterMap_some] at htrace
  rw [trail, htrace, List.map_eq_flatMap]

/-- The trail lies in the run of the search: the search makes the tests of the trail. -/
theorem exists_run_makes_trail : ∃ w', (e.find σ i p).run (e.opened w) = .ok found w' ∧
    Makes σ (e.find σ i p) ((e.trail σ i p w).map Prod.snd) (e.opened w) w' := by
  have htests : (e.trail σ i p w).map Prod.snd = e.tests σ.forest σ.answers i p := by
    rw [trail_eq hf hσ h, List.map_map]
    exact List.map_id _
  obtain ⟨P, hrun, hplan, -⟩ := e.planned_find (σ := σ) i p
  rw [htests]
  cases (e.planned_find i p).ends hσ (e.opened w) with
  | @returns w' answered run =>
    have hfound : σ.forest.reach σ.answers p.steps i = found := by
      rw [upshot, run] at h
      exact Except.ok.inj h
    exact ⟨w', hfound ▸ run, ⟨P, hrun, congrFun hplan σ.answers⟩, answered⟩
  | raises split answered raised run =>
    rw [upshot, run] at h
    cases h

/-- The calls that a selection makes directly are those of its tests. -/
theorem directCalls_eq (J : Predicate → NodeId → History) : e.directCalls σ J i p w =
    (e.tests σ.forest σ.answers i p).flatMap (Test.calls σ.answers) := by
  have hseen : ∀ (_ : Nat) (t : Test) (w : World),
      (stepHistory σ J t.node t.step w).filterMap Happening.called? = t.calls σ.answers :=
    fun _ t w ↦ filterMap_stepHistory hσ t.node t.step w
  rw [directCalls, ← searchTrace_stepHistory]
  exact filterMap_searchTrace hseen hf hσ h

/-- A test is in the trail, with the number of its step, if it is on the level of that number. -/
theorem mem_trail_iff {k : Nat} {t : Test} :
    (k, t) ∈ e.trail σ i p w ↔ t ∈ σ.forest.testsAt σ.answers p.steps k i := by
  have hnumber {j : Nat} (hj : t ∈ σ.forest.testsAt σ.answers p.steps j i) :
      σ.forest.depthBelow i t.node - 1 = j := by
    have hlevel := hf.level_of_mem_testsAt hj
    rw [Forest.depthBelow]
    omega
  rw [trail_eq hf hσ h, List.mem_map]
  constructor
  · rintro ⟨u, hu, heq⟩
    obtain ⟨rfl, rfl⟩ := Prod.mk.inj heq
    obtain ⟨j, hj⟩ := (e.mem_tests_iff_exists _ i p).1 hu
    rwa [hnumber hj]
  · intro ht
    exact ⟨t, (e.mem_tests_iff_exists _ i p).2 ⟨k, ht⟩, by rw [hnumber ht]⟩

end

end Engine

/-- **Which tests a selection makes, and in which order it calls predicates.** When a selection
returns, the search of every engine makes the tests of its trail, one after the other, and nothing
else. These are tests of each step on the element children of the nodes that the steps before it
lead to, each once, and no others. The predicates that it calls directly it calls, level by
level, in the order of the depth-first way sorted by depth, where calls of one depth keep their
order. If predicates make no calls of their own, these are all calls that the world keeps. -/
theorem tests_of_selections (h : σ.forest.Reachable) (hσ : σ.judge.Steady) {e₀ : Engine}
    {i : NodeId} {p : Path} {found₀ : List NodeId} {w₀ w₀' : World}
    (hreturns : (e₀.select σ i p).run w₀ = .ok found₀ w₀') :
    (∀ (e : Engine) (w : World),
        (∃ found w', (e.find σ i p).run (e.opened w) = .ok found w' ∧
          Makes σ (e.find σ i p) ((e.trail σ i p w).map Prod.snd) (e.opened w) w') ∧
        (e.trail σ i p w).Nodup ∧
        ∀ (k : Nat) (t : Test), (k, t) ∈ e.trail σ i p w ↔
          p.steps[k]? = some t.step ∧
            ∃ d, σ.forest.Leads σ.answers i (p.steps.take k) d ∧
              t.node ∈ σ.forest.children d ∧ σ.forest.isElement t.node = true) ∧
      (∀ J J' timed timed' w w',
        (Engine.mk .iterative timed).directCalls σ J i p w =
            ((Engine.mk .recursive timed').directCalls σ J' i p w').mergeSort
              (fun a b ↦ decide (σ.forest.depthBelow i a.2 ≤ σ.forest.depthBelow i b.2)) ∧
          ((Engine.mk .iterative timed).directCalls σ J i p w).Perm
            ((Engine.mk .recursive timed').directCalls σ J' i p w')) ∧
      (σ.judge.Quiet → ∀ (e : Engine) J w found w', (e.select σ i p).run w = .ok found w' →
        w'.calls.toList = w.calls.toList ++ e.directCalls σ J i p w) := by
  have hf := h.wellLinked
  have hfind (e : Engine) (w : World) := Engine.exists_upshot_find hσ hreturns e (e.opened w)
  refine ⟨fun e w ↦ ?_, fun J J' timed timed' w w' ↦ ?_, fun hquiet e J w found w' hselect ↦ ?_⟩
  · obtain ⟨found, hfound⟩ := hfind e w
    refine ⟨⟨found, Engine.exists_run_makes_trail hf hσ hfound⟩, ?_, ?_⟩
    · rw [Engine.trail_eq hf hσ hfound]
      exact (e.nodup_tests hf σ.answers i p).map fun t u heq ↦ (Prod.mk.inj heq).2
    · intro k t
      rw [Engine.mem_trail_iff hf hσ hfound, Forest.mem_testsAt_iff]
  · obtain ⟨found, hfound⟩ := hfind ⟨.iterative, timed⟩ w
    obtain ⟨found', hfound'⟩ := hfind ⟨.recursive, timed'⟩ w'
    have hnode : ∀ t : Test, ∀ c ∈ t.calls σ.answers, c.2 = t.node :=
      fun t ↦ Step.node_of_mem_calls
    have hsorted := Engine.flatMap_tests_eq_mergeSort hf σ.answers i p hnode timed timed'
    rw [Engine.directCalls_eq hf hσ hfound, Engine.directCalls_eq hf hσ hfound', hsorted]
    exact ⟨rfl, List.mergeSort_perm _ _⟩
  · obtain ⟨found', hfound⟩ := hfind e w
    rw [Engine.directCalls_eq hf hσ hfound]
    exact e.calls_of_select hσ hquiet hselect

/-- The two branches, under a judge who says yes to everything. -/
def calmSetting : Setting :=
  { branchesSetting with judge := fun _ _ ↦ return true }

/-- In the two branches, depth first the end of the first is tested before the second is entered,
and level by level after it. -/
theorem tests_of_selections_branches :
    calmSetting.forest.Reachable ∧ calmSetting.judge.Steady ∧ calmSetting.judge.Quiet ∧
      ∃ found w', ((Engine.mk .recursive false).select calmSetting 0 branchesPath).run default =
          .ok found w' ∧
        (2, ⟨5, branchesPath.head⟩) ∈
          (Engine.mk .iterative true).trail calmSetting 0 branchesPath default ∧
        ∃ depthFirst byLevel,
          (Engine.mk .recursive false).directCalls calmSetting (fun _ _ ↦ .none) 0 branchesPath
            default = depthFirst ∧
          (Engine.mk .iterative true).directCalls calmSetting (fun _ _ ↦ .none) 0 branchesPath
            default = byLevel ∧
          depthFirst.map Prod.snd = [1, 2, 3, 5, 4] ∧ byLevel.map Prod.snd = [1, 2, 3, 4, 5] ∧
          byLevel = depthFirst.mergeSort (fun a b ↦ decide
            (calmSetting.forest.depthBelow 0 a.2 ≤ calmSetting.forest.depthBelow 0 b.2)) ∧
          w'.calls.toList = depthFirst := by
  have hreach : calmSetting.forest.Reachable := ⟨sampleBranches, by decide, rfl⟩
  have hsteady : calmSetting.judge.Steady := fun _ _ _ _ ↦ rfl
  have hquiet : calmSetting.judge.Quiet := fun _ _ _ ↦ rfl
  have houtcome : outcome ((Engine.mk .recursive false).select calmSetting 0 branchesPath) default =
      .ok [5] := rfl
  obtain ⟨w', hselect⟩ := exists_ok_of_outcome houtcome
  obtain ⟨htests, hcalls, hkept⟩ := tests_of_selections hreach hsteady hselect
  obtain ⟨hsorted, -⟩ := hcalls (fun _ _ ↦ .none) (fun _ _ ↦ .none) true false default default
  refine ⟨hreach, hsteady, hquiet, _, w', hselect, ?_, _, _, rfl, rfl, rfl, rfl, hsorted, ?_⟩
  · refine ((htests ⟨.iterative, true⟩ default).2.2 2 ⟨5, branchesPath.head⟩).2 ⟨rfl, 3, ?_, ?_, ?_⟩
    · have hone : calmSetting.forest.Leads calmSetting.answers 1 [branchesPath.head] 3 :=
        .cons (by decide) (by decide) rfl (.nil 3)
      exact .cons (by decide) (by decide) rfl hone
    · decide
    · decide
  · exact hkept hquiet ⟨.recursive, false⟩ _ default _ w' hselect

end TreePath
