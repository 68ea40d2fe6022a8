import TreePath.Proofs.Selection.Calling
import TreePath.Proofs.Step.Equality
import TreePath.Proofs.Step.Grouping

/-!
# What decides the test of a step

The test of a conjunction is a nest of tests. It comes to the same as testing the leaves of the step
one after the other, up to the first that does not hold or raises something
(`matchesStep_eq_leaves`, `decided_tested`). What happens in it is the same, too
(`stepHistory_eq_leaves`): the predicates among the leaves that were tested are called, in order
(`filterMap_membersHistory`).

So everything about a test is known from the list of leaves. Steps that can be regrouped into each
other have the same leaves and are tested by one computation (`leaves_decide`), and a test of two
joined steps is a test of the first and, if that holds, one of the second (`joined_steps`).

Conjunctions are opened from the left, as they are tested. For the result alone it would be enough
to know the answers of the leaves; but a leaf that is not come to is not called, and one that raises
something hides all those after it. So what is compared are computations, and the equation holds in
every world and under every judge. Histories are put together as the computations are, and taken
apart in the same way (`History.andThen_bind`), so that both equations are the same induction on the
step.
-/

namespace TreePath

open SelectM

/-! ### Histories of one thing after another -/

namespace History

variable {α β : Type}

/-- Of three parts, the last two can be taken as one or the first two. -/
theorem andThen_bind (x : SelectM α) (g : α → SelectM β) (H : History) (K : α → History)
    (L : β → History) :
    andThen (x >>= g) (andThen x H K) L = andThen x H fun a ↦ andThen (g a) (K a) L := by
  funext w
  simp only [andThen, upshot_bind, leave_bind]
  cases upshot x w with
  | ok a => exact List.append_assoc _ _ _
  | error r => exact List.append_nil _

/-- If nothing happens before the result is there, what is done with it is all that happens. -/
theorem andThen_pure (a : α) (K : α → History) : andThen (pure a) none K = K a :=
  rfl

end History

section Leaves

variable (σ : Setting) (J : Predicate → NodeId → History) (i : NodeId)

/-! ### Tests of several steps -/

theorem matchesAll_append (xs ys : List Step) :
    matchesAll σ i (xs ++ ys) = do
      if ← matchesAll σ i xs then matchesAll σ i ys else return false := by
  induction xs with
  | nil => rw [List.nil_append, matchesAll, pure_bind, if_pos rfl]
  | cons s xs ih =>
    rw [List.cons_append, matchesAll, matchesAll, bind_assoc, ih]
    refine congrArg (matchesStep σ i s >>= ·) (funext fun b ↦ ?_)
    cases b with
    | true => rw [if_pos rfl, if_pos rfl]
    | false => rw [if_neg Bool.false_ne_true, if_neg Bool.false_ne_true, pure_bind,
        if_neg Bool.false_ne_true]

theorem matchesAll_singleton (s : Step) : matchesAll σ i [s] = matchesStep σ i s := by
  rw [matchesAll]
  refine Eq.trans (congrArg (matchesStep σ i s >>= ·) (funext fun b ↦ ?_)) (bind_pure _)
  rw [matchesAll]
  cases b <;> rfl

theorem membersHistory_append (xs ys : List Step) :
    membersHistory σ J i (xs ++ ys) =
      .andThen (matchesAll σ i xs) (membersHistory σ J i xs) fun b ↦
        if b then membersHistory σ J i ys else .none := by
  induction xs with
  | nil => rw [List.nil_append, matchesAll, membersHistory, History.andThen_pure, if_pos rfl]
  | cons s xs ih =>
    rw [List.cons_append, membersHistory, membersHistory, matchesAll, ih, History.andThen_bind]
    refine congrArg (History.andThen _ _) (funext fun b ↦ ?_)
    cases b with
    | true => rw [if_pos rfl, if_pos rfl, if_pos rfl]
    | false => rw [if_neg Bool.false_ne_true, if_neg Bool.false_ne_true,
        if_neg Bool.false_ne_true, History.andThen_pure, if_neg Bool.false_ne_true]

theorem membersHistory_singleton (s : Step) :
    membersHistory σ J i [s] = stepHistory σ J i s := by
  rw [membersHistory]
  refine Eq.trans (congrArg (History.andThen _ _) (funext fun b ↦ ?_)) (History.andThen_none _ _)
  rw [membersHistory]
  cases b <;> rfl

/-- To test a step is to test its leaves. -/
theorem matchesStep_eq_leaves (s : Step) : matchesStep σ i s = matchesAll σ i s.leaves := by
  induction s using Step.induction with
  | all ms ih =>
    rw [matchesStep, Step.leaves]
    induction ms with
    | nil => rw [Step.leavesOfAll]
    | cons m ms ihms =>
      rw [List.forall_mem_cons] at ih
      rw [matchesAll, Step.leavesOfAll, matchesAll_append, ih.1, ihms ih.2]
  | _ => rw [Step.leaves_eq_self (by simp), matchesAll_singleton]

/-- What happens in the test of a step happens in the tests of its leaves. -/
theorem stepHistory_eq_leaves (s : Step) :
    stepHistory σ J i s = membersHistory σ J i s.leaves := by
  induction s using Step.induction with
  | all ms ih =>
    rw [stepHistory, Step.leaves]
    induction ms with
    | nil => rw [Step.leavesOfAll]
    | cons m ms ihms =>
      rw [List.forall_mem_cons] at ih
      rw [membersHistory, Step.leavesOfAll, membersHistory_append, matchesStep_eq_leaves, ih.1,
        ihms ih.2]
  | _ => rw [Step.leaves_eq_self (by simp), membersHistory_singleton]

/-! ### The leaves that are tested -/

/-- The steps of a list that are tested: the first of them, and if it holds those of the others. -/
def testedAmong : List Step → World → List Step
  | [], _ => []
  | s :: rest, w =>
    s :: match (matchesStep σ i s).run w with
      | .ok true w' => testedAmong rest w'
      | _ => []

/-- Steps were tested from left to right, up to the one that decides. -/
inductive Decided (steps : List Step) (w : World) :
    List Step → EStateM.Result Raised World Bool → Prop
  /-- All of them hold. -/
  | holds {w' : World} (answered : Answered σ (fun _ ↦ true) (steps.map (Test.mk i)) w w') :
    Decided steps w steps (.ok true w')
  /-- One does not hold, and those before it do. -/
  | fails {before after : List Step} {s : Step} {w₁ w' : World}
    (split : steps = before ++ s :: after)
    (answered : Answered σ (fun _ ↦ true) (before.map (Test.mk i)) w w₁)
    (failed : (matchesStep σ i s).run w₁ = .ok false w') :
    Decided steps w (before ++ [s]) (.ok false w')
  /-- One raises something, and those before it hold. -/
  | raises {before after : List Step} {s : Step} {r : Raised} {w₁ w' : World}
    (split : steps = before ++ s :: after)
    (answered : Answered σ (fun _ ↦ true) (before.map (Test.mk i)) w w₁)
    (raised : (matchesStep σ i s).run w₁ = .error r w') :
    Decided steps w (before ++ [s]) (.error r w')

variable {σ J i}

/-- A step that holds can be put before those that were tested. -/
theorem Decided.cons {s : Step} {steps tested : List Step} {w w₁ : World}
    {r : EStateM.Result Raised World Bool} (hs : (matchesStep σ i s).run w = .ok true w₁)
    (h : Decided σ i steps w₁ tested r) : Decided σ i (s :: steps) w (s :: tested) r := by
  have htest : ((Test.mk i s).run σ).run w = .ok true w₁ := hs
  cases h with
  | holds answered => exact .holds (.cons htest answered)
  | @fails before after t _ _ split answered failed =>
    have hsplit : s :: steps = (s :: before) ++ t :: after := congrArg (s :: ·) split
    exact .fails hsplit (.cons htest answered) failed
  | @raises before after t _ _ _ split answered raised =>
    have hsplit : s :: steps = (s :: before) ++ t :: after := congrArg (s :: ·) split
    exact .raises hsplit (.cons htest answered) raised

/-- A conjunction is decided by the members that are tested. -/
theorem decided_tested (steps : List Step) (w : World) :
    Decided σ i steps w (testedAmong σ i steps w) ((matchesAll σ i steps).run w) := by
  induction steps generalizing w with
  | nil =>
    rw [matchesAll, testedAmong]
    exact .holds (.nil w)
  | cons s rest ih =>
    rw [matchesAll, testedAmong, EStateM.run_bind]
    have hsplit : s :: rest = [] ++ s :: rest := rfl
    rcases hs : (matchesStep σ i s).run w with ⟨- | -, w'⟩ | ⟨r, w'⟩
    · exact .fails hsplit (.nil w) hs
    · exact (ih w').cons hs
    · exact .raises hsplit (.nil w) hs

/-! ### The calls -/

/-- The call that a step makes of itself when it is tested on a node. -/
def Step.call? (i : NodeId) : Step → Option (Predicate × NodeId)
  | .predicate p => some (p, i)
  | _ => none

theorem Step.filterMap_call?_cons (i : NodeId) (s : Step) (steps : List Step) :
    (s :: steps).filterMap (call? i) = (s.call? i).toList ++ steps.filterMap (call? i) := by
  rw [List.filterMap_cons]
  cases s.call? i <;> rfl

/-- A step that is no conjunction makes no call but its own. -/
theorem filterMap_leafHistory {s : Step} (h : ∀ ms, s ≠ .all ms) (w : World) :
    (stepHistory σ J i s w).filterMap Happening.called? = (s.call? i).toList := by
  cases s with
  | all ms => exact absurd rfl (h ms)
  | _ => rw [stepHistory]; rfl

/-- The calls in the tests of steps that are no conjunctions are those of the steps tested. -/
theorem filterMap_membersHistory {steps : List Step} (h : ∀ s ∈ steps, ∀ ms, s ≠ .all ms)
    (w : World) :
    (membersHistory σ J i steps w).filterMap Happening.called? =
      (testedAmong σ i steps w).filterMap (Step.call? i) := by
  induction steps generalizing w with
  | nil => rw [membersHistory, testedAmong]; rfl
  | cons s rest ih =>
    rw [List.forall_mem_cons] at h
    rw [membersHistory, History.andThen, List.filterMap_append, filterMap_leafHistory h.1,
      testedAmong, Step.filterMap_call?_cons, upshot, leave]
    refine congrArg ((s.call? i).toList ++ ·) ?_
    rcases (matchesStep σ i s).run w with ⟨- | -, w'⟩ | ⟨r, w'⟩
    · rfl
    · exact ih h.2 w'
    · rfl

/-- If no predicate makes calls of its own, a step that is no conjunction adds its own call to those
that the world keeps, whatever it comes to. -/
theorem calls_of_leaf (hquiet : σ.judge.Quiet) {s : Step} (h : ∀ ms, s ≠ .all ms) (w : World) :
    (leave (matchesStep σ i s) w).calls.toList =
      w.calls.toList ++ (s.call? i).toList := by
  cases s with
  | all ms => exact absurd rfl (h ms)
  | predicate p =>
    rw [matchesStep]
    exact calls_of_callPredicate hquiet p i w
  | name wanted =>
    rw [matchesStep]
    cases (σ.forest.content i).name? <;> exact (List.append_nil _).symm
  | attributes wanted =>
    rw [matchesStep]
    cases (σ.forest.content i).attributes? <;> exact (List.append_nil _).symm
  | unknown id => exact (List.append_nil _).symm

/-- Then steps that are no conjunctions add the calls of those tested. -/
theorem calls_of_matchesAll (hquiet : σ.judge.Quiet) {steps : List Step}
    (h : ∀ s ∈ steps, ∀ ms, s ≠ .all ms) (w : World) :
    (leave (matchesAll σ i steps) w).calls.toList =
      w.calls.toList ++ (testedAmong σ i steps w).filterMap (Step.call? i) := by
  induction steps generalizing w with
  | nil => exact (List.append_nil _).symm
  | cons s rest ih =>
    rw [List.forall_mem_cons] at h
    have hs := calls_of_leaf hquiet (i := i) h.1 w
    rw [leave] at hs
    rw [matchesAll, leave_bind, testedAmong, Step.filterMap_call?_cons, ← List.append_assoc, ← hs,
      upshot, leave]
    rcases (matchesStep σ i s).run w with ⟨- | -, w'⟩ | ⟨r, w'⟩
    · exact (List.append_nil _).symm
    · exact ih h.2 w'
    · exact (List.append_nil _).symm

/-! ### What a leaf raises -/

/-- A step that is no conjunction raises something when it is tested on an element. -/
inductive LeafRaises (σ : Setting) (i : NodeId) (w : World) : Step → Raised → Prop
  /-- A failure that the own code of a predicate raises is passed on. -/
  | passed {p : Predicate} {g : Failure} {w' : World}
    (own : (σ.judge p i).run (w.called p i) = .error (.failure g) w') :
    LeafRaises σ i w (.predicate p) (.failure g)
  /-- So is a request to stop. -/
  | stopped {p : Predicate} {e : Fault} {w' : World}
    (own : (σ.judge p i).run (w.called p i) = .error (.fault e) w') (hstop : e.isStop = true) :
    LeafRaises σ i w (.predicate p) (.fault e)
  /-- Of any other fault a failure is made. -/
  | failed {p : Predicate} {e : Fault} {w' : World}
    (own : (σ.judge p i).run (w.called p i) = .error (.fault e) w') (hstop : e.isStop = false) :
    LeafRaises σ i w (.predicate p) (.failure (w'.newFailure σ p i e))
  /-- A step of no known kind is refused. -/
  | unknown (id : Nat) : LeafRaises σ i w (.unknown id) (.fault (.notAStep (Step.unknown id).text))

/-- What a predicate raises is a failure or a request to stop, and a step of no known kind is
refused as a value of the wrong type. -/
theorem LeafRaises.kind {s : Step} {w : World} {r : Raised} (h : LeafRaises σ i w s r) :
    (∃ p, s = .predicate p ∧
      (r.kindName = "PredicateFailure" ∨ ∃ e, r = .fault e ∧ e.isStop = true)) ∨
      ∃ id, s = .unknown id ∧ r.kindName = "TypeError" := by
  cases h with
  | passed own => exact .inl ⟨_, rfl, .inl rfl⟩
  | stopped own hstop => exact .inl ⟨_, rfl, .inr ⟨_, rfl, hstop⟩⟩
  | failed own hstop => exact .inl ⟨_, rfl, .inl rfl⟩
  | unknown id => exact .inr ⟨id, rfl, rfl⟩

/-- What a test raises on an element, for a step that is no conjunction. -/
theorem upshot_leaf_iff {name : String} {attributes : Attributes}
    (h : σ.forest.content i = .element name attributes) {s : Step} (hs : ∀ ms, s ≠ .all ms)
    {w : World} {r : Raised} :
    upshot (matchesStep σ i s) w = .error r ↔ LeafRaises σ i w s r := by
  cases s with
  | all ms => exact absurd rfl (hs ms)
  | name wanted =>
    rw [matchesStep, h]
    constructor <;> intro hr <;> cases hr
  | attributes wanted =>
    rw [matchesStep, h]
    constructor <;> intro hr <;> cases hr
  | unknown id =>
    rw [matchesStep]
    constructor
    · intro hr
      cases hr
      exact .unknown id
    · intro hr
      cases hr
      rfl
  | predicate p =>
    rw [matchesStep, upshot, run_callPredicate]
    constructor
    · intro hr
      rcases hown : (σ.judge p i).run (w.called p i) with ⟨b, w'⟩ | ⟨g | e, w'⟩
      · rw [hown] at hr
        cases hr
      · rw [hown] at hr
        cases hr
        exact .passed hown
      · rw [hown] at hr
        cases hstop : e.isStop with
        | true =>
          simp only [hstop, if_true] at hr
          cases hr
          exact .stopped hown hstop
        | false =>
          simp only [hstop, Bool.false_eq_true, if_false] at hr
          cases hr
          exact .failed hown hstop
    · intro hr
      cases hr with
      | passed own => rw [own]
      | stopped own hstop => simp only [own, hstop, if_true]
      | failed own hstop => simp only [own, hstop, Bool.false_eq_true, if_false]

end Leaves

/-! ### Tests by leaves -/

/-- **The leaves of a step decide its test.** On an element, the test of a step, however its
conjunctions are nested, comes to what testing its leaves from left to right comes to, up to the
first that does not hold or raises something. It calls the predicates among the leaves that were
tested, in order; if predicates make no calls of their own, these are all that is added to the calls
that the world keeps. Only predicates and steps of no known kind raise anything. Regrouping
a step changes neither the computation nor what happens in it. -/
theorem leaves_decide {σ : Setting} {i : NodeId} {name : String} {attributes : Attributes}
    (h : σ.forest.content i = .element name attributes) (s : Step) :
    (∀ w, Decided σ i s.leaves w (testedAmong σ i s.leaves w) ((matchesStep σ i s).run w)) ∧
      (∀ J w, (stepHistory σ J i s w).filterMap Happening.called? =
        (testedAmong σ i s.leaves w).filterMap (Step.call? i)) ∧
      (σ.judge.Quiet → ∀ w, (leave (matchesStep σ i s) w).calls.toList =
        w.calls.toList ++ (testedAmong σ i s.leaves w).filterMap (Step.call? i)) ∧
      (∀ l ∈ s.leaves, (∀ ms, l ≠ .all ms) ∧ ∀ w r,
        (upshot (matchesStep σ i l) w = .error r ↔ LeafRaises σ i w l r) ∧
          (LeafRaises σ i w l r → (∃ p, l = .predicate p ∧
            (r.kindName = "PredicateFailure" ∨ ∃ e, r = .fault e ∧ e.isStop = true)) ∨
            ∃ id, l = .unknown id ∧ r.kindName = "TypeError")) ∧
      ∀ t, Relation.EqvGen Step.Regroups s t → matchesStep σ i t = matchesStep σ i s ∧
        ∀ J, stepHistory σ J i t = stepHistory σ J i s := by
  have hleaves : ∀ l ∈ s.leaves, ∀ ms, l ≠ .all ms := fun l hl ↦ Step.ne_all_of_mem_leaves hl
  refine ⟨fun w ↦ ?_, fun J w ↦ ?_, fun hquiet w ↦ ?_, fun l hl ↦ ?_, fun t ht ↦ ?_⟩
  · rw [matchesStep_eq_leaves]
    exact decided_tested s.leaves w
  · rw [stepHistory_eq_leaves]
    exact filterMap_membersHistory hleaves w
  · rw [matchesStep_eq_leaves]
    exact calls_of_matchesAll hquiet hleaves w
  · exact ⟨hleaves l hl, fun w r ↦ ⟨upshot_leaf_iff h (hleaves l hl), LeafRaises.kind⟩⟩
  · have heq : t.leaves = s.leaves := (Step.eqvGen_regroups_iff.1 ht).symm
    rw [matchesStep_eq_leaves, matchesStep_eq_leaves σ i s, heq]
    refine ⟨rfl, fun J ↦ ?_⟩
    rw [stepHistory_eq_leaves, stepHistory_eq_leaves σ J i s, heq]

/-- An empty conjunction, a nested one that ends in a step of no known kind, and a name. -/
def nestedStep : Step :=
  .all [.all [], .all [branchesPath.head, .all [.unknown 4]], .name "room"]

/-- The step of no known kind decides: the predicate before it is called, and the name after it is
not looked at, in the nested step and in the plain conjunction of its leaves. -/
theorem leaves_decide_nested :
    calmSetting.forest.content 1 = .element "a" .empty ∧
      Decided calmSetting 1 [branchesPath.head, .unknown 4, .name "room"] default
        [branchesPath.head, .unknown 4] ((matchesStep calmSetting 1 nestedStep).run default) ∧
      (leave (matchesStep calmSetting 1 nestedStep) default).calls.toList.map Prod.snd = [1] ∧
      LeafRaises calmSetting 1 default (.unknown 4) (.fault (.notAStep (Step.unknown 4).text)) ∧
      matchesStep calmSetting 1 (.all nestedStep.leaves) =
        matchesStep calmSetting 1 nestedStep := by
  have helement : calmSetting.forest.content 1 = .element "a" .empty := by decide
  have hquiet : calmSetting.judge.Quiet := fun _ _ _ ↦ rfl
  obtain ⟨hdecided, -, hkept, hraises, hregrouped⟩ := leaves_decide helement nestedStep
  obtain ⟨-, hunknown⟩ := hraises (.unknown 4) (List.mem_cons_of_mem _ List.mem_cons_self)
  refine ⟨helement, hdecided default, ?_, (hunknown default _).1.1 rfl, ?_⟩
  · rw [hkept hquiet]
    rfl
  · exact (hregrouped _ (Step.eqvGen_regroups_leaves nestedStep)).1

/-! ### Joined steps -/

/-- **Joining steps is associative, and the second is tested if the first holds.** The members of
two joined steps are what the first asks for, then what the second does. A test of them answers,
raises and calls what a test of the first and, only if that holds, a test of the second does. -/
theorem joined_steps (a b c : Step) :
    (a.and b).and c = a.and (b.and c) ∧ ((a.and b).and c).same (a.and (b.and c)) = true ∧
      (∀ S, ∃ S', (Literal.both (.step a) (.step b)).run S =
        .ok (.step (.all (a.conjuncts ++ b.conjuncts))) S') ∧
      a.and b = .all (a.conjuncts ++ b.conjuncts) ∧
      (∀ ms, a = .all ms → a.conjuncts = ms) ∧ ((∀ ms, a ≠ .all ms) → a.conjuncts = [a]) ∧
      ∀ σ i, matchesStep σ i (a.and b) = (do
          if ← matchesStep σ i a then matchesStep σ i b else return false) ∧
        ∀ J, stepHistory σ J i (a.and b) =
          .andThen (matchesStep σ i a) (stepHistory σ J i a) fun r ↦
            if r then stepHistory σ J i b else .none := by
  have hassoc := Step.and_assoc a b c
  refine ⟨hassoc, ?_, fun S ↦ ?_, rfl, ?_, Step.conjuncts_eq_self, fun σ i ↦ ⟨?_, fun J ↦ ?_⟩⟩
  · rw [hassoc, Step.same_iff]
  · rw [Literal.both, conjunction]
    cases (a.conjuncts ++ b.conjuncts).isEmpty with
    | true => exact ⟨_, rfl⟩
    | false => exact ⟨_, rfl⟩
  · rintro ms rfl
    rw [Step.conjuncts]
  · simp only [matchesStep_eq_leaves σ i, Step.leaves_and, matchesAll_append]
  · simp only [stepHistory_eq_leaves σ J i, matchesStep_eq_leaves σ i, Step.leaves_and,
      membersHistory_append]

end TreePath
