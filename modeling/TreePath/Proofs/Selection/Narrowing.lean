import TreePath.Proofs.Selection.Interchange
import TreePath.Proofs.Selection.Plain
import TreePath.Proofs.Selection.Staging

/-!
# Narrowing a step

A step is narrowed when another one is joined to it. It then passes what both of them pass
(`answers_and`), so at every level fewer children go on, and what the remaining steps lead to from
there is the same as before. Reaching is monotone in the answers, and keeps the order
(`Forest.reach_sublist_reach`): so the narrowed path reaches some of what the path reached, in the
same order. Only if the narrowed step is the last one is it known which: what it passes is the
result, so the result is filtered (`Forest.reach_append_and`).

Whether the two steps are joined, or put as they are into a new conjunction, is the same for every
selection: the leaves are the same.

All of this is about what is reached under the answers. That this is what selections return takes
a judge who raises nothing (`Judge.Calm`), steps of known kinds (`Step.Known`), and elements with
names as deep as the path goes.
-/

namespace TreePath

open SelectM

/-! ### Computations that return -/

namespace SelectM

variable {α : Type}

/-- A computation returns this value, in whatever world it is run. -/
def Returns (x : SelectM α) (a : α) : Prop := ∀ w, ∃ w', x.run w = .ok a w'

theorem returns_iff_outcome {x : SelectM α} {a : α} :
    Returns x a ↔ ∀ w, outcome x w = .ok a :=
  forall_congr' fun _ ↦ exists_run_iff_outcome

namespace Returns

variable {x : SelectM α} {a : α}

theorem steady (h : Returns x a) : SelectM.Steady x := by
  rw [returns_iff_outcome] at h
  intro w w'
  rw [h w, h w']

theorem pure (a : α) : Returns (Pure.pure a) a := fun w ↦ ⟨w, rfl⟩

theorem bind {β : Type} {c : β} {g : α → SelectM β} (hx : Returns x a) (hg : Returns (g a) c) :
    Returns (x >>= g) c := by
  intro w
  obtain ⟨w₁, hw₁⟩ := hx w
  rw [EStateM.run_bind, hw₁]
  exact hg w₁

end Returns

end SelectM

/-! ### Tests that return -/

/-- What is said about a node depends on the predicate and the node only, and nothing is raised. -/
def Judge.Calm (judge : Judge) : Prop := ∀ p i, ∃ b, Returns (judge p i) b

/-- No step of unknown kind occurs in a step. -/
def Step.Known (s : Step) : Prop := ∀ id, unknown id ∉ s.leaves

/-- A path of steps in which none of unknown kind occurs. -/
def Path.Known (p : Path) : Prop := ∀ s ∈ p.steps, s.Known

theorem Judge.Calm.steady {judge : Judge} (h : judge.Calm) : judge.Steady := by
  intro p i
  obtain ⟨b, hb⟩ := h p i
  exact hb.steady

theorem Step.Known.and {s t : Step} (hs : s.Known) (ht : t.Known) : (s.and t).Known := by
  intro id hid
  rw [leaves_and, List.mem_append] at hid
  exact hid.elim (hs id) (ht id)

section Tests

variable {σ : Setting} {i : NodeId} {name : String} {attributes : Attributes}

/-- On an element, a calm judge answers every test of a leaf of known kind. -/
theorem exists_returns_leaf (hσ : σ.judge.Calm) (hi : σ.forest.content i = .element name attributes)
    {l : Step} (hall : ∀ ms, l ≠ .all ms) (hknown : ∀ id, l ≠ .unknown id) :
    ∃ b, Returns (matchesStep σ i l) b := by
  cases l with
  | name wanted =>
    rw [matchesStep_eq_pure (.name wanted) hi]
    exact ⟨_, .pure _⟩
  | attributes wanted =>
    rw [matchesStep_eq_pure (.attributes wanted) hi]
    exact ⟨_, .pure _⟩
  | predicate p =>
    obtain ⟨b, hb⟩ := hσ p i
    refine ⟨b, fun w ↦ ?_⟩
    obtain ⟨w', hw'⟩ := hb (w.called p i)
    rw [matchesStep, run_callPredicate, hw']
    exact ⟨w', rfl⟩
  | all ms => exact absurd rfl (hall ms)
  | unknown id => exact absurd rfl (hknown id)

/-- Tests that return, made one after the other up to the first that does not hold, return. -/
theorem exists_returns_matchesAll {steps : List Step}
    (h : ∀ s ∈ steps, ∃ b, Returns (matchesStep σ i s) b) :
    ∃ b, Returns (matchesAll σ i steps) b := by
  induction steps with
  | nil =>
    rw [matchesAll]
    exact ⟨true, .pure true⟩
  | cons s rest ih =>
    rw [List.forall_mem_cons] at h
    obtain ⟨b, hb⟩ := h.1
    rw [matchesAll]
    cases b with
    | true =>
      obtain ⟨c, hc⟩ := ih h.2
      exact ⟨c, hb.bind hc⟩
    | false => exact ⟨false, hb.bind (.pure false)⟩

/-- On an element, a calm judge answers every test of a step of known kinds. -/
theorem returns_matchesStep (hσ : σ.judge.Calm)
    (hi : σ.forest.content i = .element name attributes) {s : Step} (hs : s.Known) :
    Returns (matchesStep σ i s) (σ.answers ⟨i, s⟩) := by
  obtain ⟨b, hb⟩ : ∃ b, Returns (matchesStep σ i s) b := by
    rw [matchesStep_eq_leaves]
    refine exists_returns_matchesAll fun l hl ↦ ?_
    exact exists_returns_leaf hσ hi (Step.ne_all_of_mem_leaves hl) fun id h ↦ hs id (h ▸ hl)
  have hverdict : σ.verdict ⟨i, s⟩ = .ok b := returns_iff_outcome.1 hb default
  rw [Setting.answers, hverdict]
  exact hb

end Tests

/-! ### Selections that return -/

/-- An element that at least one step leads to has a name. -/
theorem Forest.NamedTo.of_leads {f : Forest} {τ : Answers} {s : Step} {rest : List Step}
    {i d : NodeId} (h : f.NamedTo (rest.length + 1) i) (hd : f.Leads τ i (s :: rest) d) :
    ∃ name attributes, f.content d = .element name attributes := by
  induction rest generalizing s i with
  | nil =>
    cases hd with
    | cons hc helement _ hrest =>
      cases hrest
      exact Content.exists_eq_element helement (h _ (List.mem_filter.2 ⟨hc, helement⟩)).1
  | cons s' rest ih =>
    cases hd with
    | cons hc helement _ hrest => exact ih (h _ (List.mem_filter.2 ⟨hc, helement⟩)).2 hrest

/-- Under a calm judge a selection by steps of known kinds returns what is reached. -/
theorem Engine.returns_select {σ : Setting} (hσ : σ.judge.Calm) {i : NodeId} {p : Path}
    (hp : p.Known) (h : σ.forest.NamedTo p.length i) (e : Engine) :
    Returns (e.select σ i p) (σ.forest.reach σ.answers p.steps i) := by
  rw [returns_iff_outcome]
  intro w
  refine (e.outcome_select_eq_ok_iff hσ.steady).2 ⟨fun t ht ↦ ?_, rfl⟩
  obtain ⟨hstep, name, attributes, hcontent⟩ := h.of_due (Forest.mem_depthTests_iff.1 ht)
  have hverdict : σ.verdict t = .ok (σ.answers t) :=
    returns_iff_outcome.1 (returns_matchesStep hσ hcontent (hp t.step hstep)) default
  rw [Setting.complaint?, hverdict]

/-! ### Joining a step -/

section Joining

variable {σ : Setting} (hσ : σ.judge.Steady)

include hσ

/-- Two joined steps are answered with yes if both of them are. -/
theorem answers_and (i : NodeId) (s t : Step) :
    σ.answers ⟨i, s.and t⟩ = (σ.answers ⟨i, s⟩ && σ.answers ⟨i, t⟩) := by
  have hjoined : (Test.mk i (s.and t)).run σ =
      matchesStep σ i s >>= fun b ↦ if b then matchesStep σ i t else return false := by
    rw [Test.run, matchesStep_eq_leaves, Step.leaves_and, matchesAll_append,
      ← matchesStep_eq_leaves, ← matchesStep_eq_leaves]
  rw [Setting.answers, Setting.verdict, hjoined]
  cases hs : (matchesStep σ i s).run default with
  | error r w' =>
    have hverdict : σ.verdict ⟨i, s⟩ = .error r.unnumbered := outcome_of_error hs
    rw [outcome_bind_of_error hs, Setting.answers, hverdict]
    rfl
  | ok b w' =>
    have hverdict : σ.verdict ⟨i, s⟩ = .ok b := outcome_of_ok hs
    rw [outcome_bind_of_ok hs, Setting.answers, hverdict]
    cases b with
    | true =>
      rw [if_pos rfl, steady_matchesStep hσ i t w' default]
      rfl
    | false => rfl

/-- If the last step is narrowed, what is reached is filtered. -/
theorem Forest.reach_append_and (before : List Step) (s t : Step) (i : NodeId) :
    σ.forest.reach σ.answers (before ++ [s.and t]) i =
      (σ.forest.reach σ.answers (before ++ [s]) i).filter fun c ↦ σ.answers ⟨c, t⟩ := by
  rw [reach_append, reach_append, List.filter_flatMap]
  refine congrArg (List.flatMap · _) (funext fun c ↦ ?_)
  have hlast (s : Step) : σ.forest.reach σ.answers [s] c = σ.forest.passing σ.answers s c :=
    List.flatMap_singleton' _
  rw [hlast, hlast, passing, passing, List.filter_filter]
  refine List.filter_congr fun d _ ↦ ?_
  rw [answers_and hσ, Bool.and_comm]

end Joining

/-! ### Changing a step of a path -/

namespace Path

/-- The path with something done to step number `k`, if it has so many. -/
def modify (p : Path) (k : Nat) (g : Step → Step) : Path :=
  match k with
  | 0 => ⟨g p.head, p.rest⟩
  | k + 1 => ⟨p.head, p.rest.modify k g⟩

theorem steps_modify (p : Path) (k : Nat) (g : Step → Step) :
    (p.modify k g).steps = p.steps.modify k g := by
  cases k with
  | zero => rfl
  | succ k => rfl

theorem length_modify (p : Path) (k : Nat) (g : Step → Step) :
    (p.modify k g).length = p.length := by
  rw [length, steps_modify, List.length_modify, length]

/-- What holds of every step and itself, and of what two changes make of it, holds of two changed
paths step by step. -/
theorem forall₂_steps_modify {R : Step → Step → Prop} {g g' : Step → Step} (hrefl : ∀ s, R s s)
    (hg : ∀ s, R (g s) (g' s)) (p : Path) (k : Nat) :
    List.Forall₂ R (p.modify k g).steps (p.modify k g').steps := by
  rw [steps_modify, steps_modify]
  induction p.steps generalizing k with
  | nil =>
    rw [List.modify_nil, List.modify_nil]
    exact .nil
  | cons s rest ih =>
    cases k with
    | zero => exact .cons (hg s) (List.forall₂_same.2 fun s _ ↦ hrefl s)
    | succ k => exact .cons (hrefl s) (ih k)

theorem steps_modify_id (p : Path) (k : Nat) : (p.modify k id).steps = p.steps := by
  rw [steps_modify, List.modify_id]

/-- A path and the change of its last step differ after the same steps. -/
theorem exists_steps_eq_append {p : Path} {k : Nat} (hk : k + 1 = p.length) :
    ∃ before s, p.steps = before ++ [s] ∧ ∀ g, (p.modify k g).steps = before ++ [g s] := by
  have hlt : k < p.steps.length := Nat.lt_of_succ_le (Nat.le_of_eq hk)
  have hnone : p.steps.drop (k + 1) = [] := List.drop_eq_nil_of_le (Nat.le_of_eq hk.symm)
  have hsteps (g : Step → Step) : (p.modify k g).steps = p.steps.take k ++ [g p.steps[k]] := by
    rw [steps_modify, List.modify_eq_take_cons_drop hlt, hnone]
  exact ⟨p.steps.take k, p.steps[k], (p.steps_modify_id k).symm.trans (hsteps id), hsteps⟩

theorem Known.modify_and {p : Path} (hp : p.Known) {t : Step} (ht : t.Known) (k : Nat) :
    (p.modify k (·.and t)).Known := by
  intro s hs
  rw [steps_modify] at hs
  obtain ⟨j, hj, rfl⟩ := List.getElem_of_mem hs
  rw [List.getElem_modify]
  rw [List.length_modify] at hj
  have hold : p.steps[j].Known := hp _ (List.getElem_mem hj)
  split
  · exact hold.and ht
  · exact hold

end Path

/-! ### Narrowed selections -/

/-- A new conjunction of two steps has the leaves of the two when they are joined. -/
theorem Step.leaves_all_pair (s t : Step) : (all [s, t]).leaves = (s.and t).leaves := by
  rw [leaves_all, leaves_and, List.flatMap_cons, List.flatMap_singleton]

/-- To put two steps into a new conjunction is as good as to join them. -/
theorem Engine.select_modify_all (e : Engine) {σ : Setting} (i : NodeId) (p : Path) (k : Nat)
    (t : Step) :
    e.select σ i (p.modify k fun s ↦ .all [s, t]) = e.select σ i (p.modify k (·.and t)) := by
  have hrefl (s : Step) : candidates σ s = candidates σ s := rfl
  have hcandidates (s : Step) : candidates σ (.all [s, t]) = candidates σ (s.and t) := by
    refine candidates_eq_of_tests (fun _ ↦ rfl) (fun _ ↦ rfl) fun c ↦ ?_
    rw [matchesStep_eq_leaves, matchesStep_eq_leaves, Step.leaves_all_pair]
  exact e.select_eq_of_candidates i rfl (p.forall₂_steps_modify hrefl hcandidates k)

/-- **A narrowed path selects some of what the path selects, in the same order.** Under a judge who
raises nothing, and where there are elements with names as deep as the path goes, every engine finds
the same by the path, and the same by the path with a step joined to one of its steps: some of the
former. If it is the last step that the other one is joined to, what is found is filtered by this
one. To put the two steps into a new conjunction instead makes no difference at all. -/
theorem narrowed_selections {σ : Setting} (hσ : σ.judge.Calm) {i : NodeId} {p : Path} {t : Step}
    (hp : p.Known) (ht : t.Known) (hnamed : σ.forest.NamedTo p.length i) (k : Nat) :
    ∃ found narrowed, (∀ e : Engine, Returns (e.select σ i p) found) ∧
      (∀ e : Engine, Returns (e.select σ i (p.modify k (·.and t))) narrowed) ∧
      (∀ e : Engine, Returns (e.select σ i (p.modify k fun s ↦ .all [s, t])) narrowed) ∧
      narrowed.Sublist found ∧
      (k + 1 = p.length → ∃ yes : NodeId → Bool,
        (∀ c ∈ found, Returns (matchesStep σ c t) (yes c)) ∧ narrowed = found.filter yes) := by
  have hjoined : (p.modify k (·.and t)).Known := hp.modify_and ht k
  have hnamed' : σ.forest.NamedTo (p.modify k (·.and t)).length i := by
    rwa [Path.length_modify]
  refine ⟨_, _, Engine.returns_select hσ hp hnamed, Engine.returns_select hσ hjoined hnamed',
    fun e ↦ ?_, ?_, fun hk ↦ ⟨fun c ↦ σ.answers ⟨c, t⟩, fun c hc ↦ ?_, ?_⟩⟩
  · rw [e.select_modify_all]
    exact Engine.returns_select hσ hjoined hnamed' e
  · rw [← p.steps_modify_id k]
    refine Forest.reach_sublist_reach (fun _ ↦ rfl)
      (p.forall₂_steps_modify (fun s c h ↦ h) (fun s c h ↦ ?_) k) i
    rw [answers_and hσ.steady, Bool.and_eq_true] at h
    exact h.1
  · obtain ⟨name, attributes, hcontent⟩ := hnamed.of_leads (Forest.mem_reach_iff.1 hc)
    exact returns_matchesStep hσ hcontent ht
  · obtain ⟨before, s, hsteps, hmodify⟩ := Path.exists_steps_eq_append hk
    rw [hsteps, hmodify, Forest.reach_append_and hσ.steady]

/-- In the two branches, joining a name to the first of two steps leaves one branch, and joining one
to the second filters what is found. -/
theorem narrowed_selections_branches :
    let p : Path := ⟨branchesPath.head, [branchesPath.head]⟩
    calmSetting.judge.Calm ∧ p.Known ∧ (Step.name "b").Known ∧ (Step.name "c").Known ∧
      calmSetting.forest.NamedTo p.length 0 ∧
      (∀ e : Engine, Returns (e.select calmSetting 0 p) [3, 4]) ∧
      (∀ e : Engine, Returns (e.select calmSetting 0 (p.modify 0 (·.and (.name "b")))) [4]) ∧
      (∀ e : Engine,
        Returns (e.select calmSetting 0 (p.modify 1 fun s ↦ .all [s, .name "c"])) [3]) ∧
      ∃ yes : NodeId → Bool, Returns (matchesStep calmSetting 3 (.name "c")) (yes 3) ∧
        [3] = [3, 4].filter yes := by
  intro p
  have hcalm : calmSetting.judge.Calm := fun _ _ ↦ ⟨true, fun w ↦ ⟨w, rfl⟩⟩
  have hname (name : String) : (Step.name name).Known := by
    simp [Step.Known, Step.leaves]
  have hp : p.Known := by
    simp [p, Path.Known, Path.steps, branchesPath, Step.Known, Step.leaves]
  have hnamed : calmSetting.forest.NamedTo p.length 0 :=
    Forest.namedTo_of_forall (Forest.isNamed_of_lt_size (by decide)) _ _
  obtain ⟨found, upper, hfound, hupper, -, -, -⟩ :=
    narrowed_selections hcalm hp (hname "b") hnamed 0
  obtain ⟨found', lower, hfound', -, hlower, -, hfilter⟩ :=
    narrowed_selections hcalm hp (hname "c") hnamed 1
  -- what is returned once is returned always
  have hreturns {q : Path} {found : List NodeId} (nodes : List NodeId)
      (h : ∀ e : Engine, Returns (e.select calmSetting 0 q) found)
      (hrun : outcome (Engine.standard.select calmSetting 0 q) default = .ok nodes) :
      found = nodes := by
    have hsame := returns_iff_outcome.1 (h Engine.standard) default
    exact Except.ok.inj (hsame.symm.trans hrun)
  obtain rfl := hreturns [3, 4] hfound rfl
  obtain rfl := hreturns [4] hupper rfl
  obtain rfl := hreturns [3] hlower rfl
  obtain rfl := hreturns [3, 4] hfound' rfl
  obtain ⟨yes, hyes, hlast⟩ := hfilter rfl
  exact ⟨hcalm, hp, hname "b", hname "c", hnamed, hfound, hupper, hlower, yes,
    hyes 3 List.mem_cons_self, hlast⟩

end TreePath
