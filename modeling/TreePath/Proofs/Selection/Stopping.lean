import TreePath.Proofs.Selection.Chains

/-!
# Where selections stop

A selection that raises something has come to a test that raises it, and under a steady judge the
tests that do are always the same (`Setting.raises`). The two ways come to them in different orders.
Level by level, the tests of a level (`Forest.testsAt`) are all made before those of the next, so
the way stops at the first test that raises something on the first level that has one
(`Forest.exists_testsAt_of_find?`). Depth first, it stops at the first in the order of
`Forest.depthTests`, on that level or a deeper one.

If both stop on one level they stop at one test, since the tests of a level come in the same order
both ways (`Forest.testsAt_sublist_depthTests`). What is the first of a list is the first of every
part of it that it is in; this is where it is used that no test is made twice
(`find?_eq_of_sublist`).

Levels are counted from the start node. What is first on a level is the same both ways, but the
level is not: the way that goes depth first may find something that raises far below before it comes
to the next child of the start node. So the theorem compares levels first, and the tests and what
they raise only if the levels are equal.
-/

namespace TreePath

open SelectM

/-- What comes first in a list without repetitions comes first in each sublist that it is in. -/
theorem find?_eq_of_sublist {α : Type} {P : α → Bool} {l l' : List α} {a : α}
    (h : l.Sublist l') (hl' : l'.Nodup) (hfirst : l'.find? P = some a) (ha : a ∈ l) :
    l.find? P = some a := by
  induction h with
  | slnil => cases ha
  | @cons l l' b h ih =>
    rw [List.nodup_cons] at hl'
    rw [List.find?_cons] at hfirst
    cases hb : P b with
    | true =>
      -- what is left out comes first, so it would be in the list twice
      rw [hb] at hfirst
      cases hfirst
      exact absurd (h.subset ha) hl'.1
    | false =>
      rw [hb] at hfirst
      exact ih hl'.2 hfirst ha
  | @cons_cons l l' b h ih =>
    rw [List.nodup_cons] at hl'
    rw [List.find?_cons] at hfirst ⊢
    cases hb : P b with
    | true =>
      rw [hb] at hfirst
      exact hfirst
    | false =>
      rw [hb] at hfirst
      have hne : a ≠ b := by
        rintro rfl
        exact Bool.false_ne_true (hb.symm.trans (List.find?_some hfirst))
      exact ih hl'.2 hfirst (List.mem_of_ne_of_mem hne ha)

namespace Forest

variable {f : Forest} {τ : Answers}

/-! ### The tests of a level -/

/-- The tests of a level: those of its step on the children of the nodes that the steps before it
lead to, from left to right. -/
def testsAt (f : Forest) (τ : Answers) (steps : List Step) (k : Nat) (i : NodeId) : List Test :=
  match steps[k]? with
  | some s => (f.reach τ (steps.take k) i).flatMap (f.childTests s)
  | none => []

@[simp] theorem testsAt_zero (s : Step) (rest : List Step) (i : NodeId) :
    f.testsAt τ (s :: rest) 0 i = f.childTests s i :=
  List.flatMap_singleton _ i

@[simp] theorem testsAt_succ (s : Step) (rest : List Step) (k : Nat) (i : NodeId) :
    f.testsAt τ (s :: rest) (k + 1) i = (f.passing τ s i).flatMap (f.testsAt τ rest k) := by
  unfold testsAt
  rw [List.getElem?_cons_succ, List.take_succ_cons]
  cases rest[k]? with
  | some s' => exact List.flatMap_assoc
  | none => simp

/-- The first tests below the nodes of a level are on their children. -/
theorem flatMap_testsAt_zero (s : Step) (rest : List Step) (level : List NodeId) :
    level.flatMap (f.testsAt τ (s :: rest) 0) = level.flatMap (f.childTests s) :=
  congrArg (level.flatMap ·) (funext (testsAt_zero s rest))

/-- The later tests below the nodes of a level are those below the next level. -/
theorem flatMap_testsAt_succ (s : Step) (rest : List Step) (k : Nat) (level : List NodeId) :
    level.flatMap (f.testsAt τ (s :: rest) (k + 1)) =
      (level.flatMap (f.passing τ s)).flatMap (f.testsAt τ rest k) := by
  rw [List.flatMap_assoc]
  exact congrArg (level.flatMap ·) (funext (testsAt_succ s rest k))

/-- Every test that is made is on some level. -/
theorem exists_mem_testsAt {steps : List Step} {i : NodeId} {t : Test}
    (h : t ∈ f.depthTests τ steps i) : ∃ k, t ∈ f.testsAt τ steps k i := by
  induction steps generalizing i with
  | nil => cases h
  | cons s rest ih =>
    rcases List.mem_append.1 h with h | h
    · refine ⟨0, ?_⟩
      rwa [testsAt_zero]
    · obtain ⟨c, hc, ht⟩ := List.mem_flatMap.1 h
      obtain ⟨k, hk⟩ := ih ht
      refine ⟨k + 1, ?_⟩
      rw [testsAt_succ]
      exact List.mem_flatMap.2 ⟨c, hc, hk⟩

/-- Depth first, the tests of a level are made from left to right. -/
theorem testsAt_sublist_depthTests (steps : List Step) (k : Nat) (i : NodeId) :
    (f.testsAt τ steps k i).Sublist (f.depthTests τ steps i) := by
  induction steps generalizing k i with
  | nil => exact List.Sublist.refl _
  | cons s rest ih =>
    rw [depthTests]
    cases k with
    | zero =>
      rw [testsAt_zero]
      exact List.sublist_append_left _ _
    | succ k =>
      rw [testsAt_succ]
      have hrest := List.Sublist.flatMap_right (f.passing τ s i) fun c _ ↦ ih k c
      exact hrest.trans (List.sublist_append_right _ _)

/-- Level by level, the first test with a property is the first on the first level that has one. -/
theorem exists_testsAt_of_find? {P : Test → Bool} {steps : List Step} {level : List NodeId}
    {t : Test} (h : (f.levelTests τ steps level).find? P = some t) :
    ∃ k, (level.flatMap (f.testsAt τ steps k)).find? P = some t ∧
      ∀ j < k, ∀ u ∈ level.flatMap (f.testsAt τ steps j), P u = false := by
  induction steps generalizing level with
  | nil => cases h
  | cons s rest ih =>
    rw [levelTests, List.find?_append] at h
    -- either the level at hand has such a test, or the first one is found on the levels below
    cases hfirst : (level.flatMap (f.childTests s)).find? P with
    | some t' =>
      rw [hfirst] at h
      refine ⟨0, ?_, fun j hj ↦ absurd hj (Nat.not_lt_zero j)⟩
      rw [flatMap_testsAt_zero, hfirst]
      exact h
    | none =>
      rw [hfirst] at h
      obtain ⟨k, hk, hbefore⟩ := ih h
      refine ⟨k + 1, ?_, fun j hj ↦ ?_⟩
      · rw [flatMap_testsAt_succ]
        exact hk
      · cases j with
        | zero =>
          rw [flatMap_testsAt_zero]
          simpa using List.find?_eq_none.1 hfirst
        | succ j =>
          rw [flatMap_testsAt_succ]
          exact hbefore j (Nat.lt_of_succ_lt_succ hj)

/-- From left to right is the order of the document. -/
theorem WellLinked.testsAt_sublist_elements (hf : f.WellLinked) (steps : List Step) (k : Nat)
    (i : NodeId) : ((f.testsAt τ steps k i).map Test.node).Sublist (f.elements i) := by
  induction steps generalizing k i with
  | nil => exact List.nil_sublist _
  | cons s rest ih =>
    rw [hf.elements_eq]
    cases k with
    | zero =>
      have hnodes : (f.childTests s i).map Test.node = (f.elementChildren i).flatMap ([·]) := by
        rw [childTests, List.map_map, List.flatMap_singleton']
        exact List.map_id _
      rw [testsAt_zero, hnodes]
      exact List.Sublist.flatMap_right _ fun c _ ↦ (List.nil_sublist _).cons_cons c
    | succ k =>
      rw [testsAt_succ, List.map_flatMap]
      exact (List.filter_sublist.flatMap _).trans
        (List.Sublist.flatMap_right _ fun c _ ↦ (ih k c).cons c)

end Forest

/-! ### Tests that raise something -/

variable {σ : Setting}

/-- A test raises something, whenever it is made. -/
def Setting.raises (σ : Setting) (t : Test) : Bool :=
  (σ.complaint? t).isSome

theorem Setting.raises_eq_false_iff {t : Test} : σ.raises t = false ↔ σ.complaint? t = none := by
  rw [raises, Option.isSome_eq_false_iff, Option.isNone_iff_eq_none]

/-! ### Where a selection stops -/

namespace Engine

/-- A selection stops at a test: the tests that its engine makes before it were answered, and what
this one raised ended the search and left the selection. -/
def StopsAt (e : Engine) (σ : Setting) (i : NodeId) (p : Path) (w : World) (t : Test) (r : Raised) :
    Prop :=
  ∃ before after w₁ w₂ w', e.tests σ.forest σ.answers i p = before ++ t :: after ∧
    Answered σ σ.answers before (e.opened w) w₁ ∧ (t.run σ).run w₁ = .error r w₂ ∧
    (e.find σ i p).run (e.opened w) = .error r w₂ ∧ (e.select σ i p).run w = .error r w'

/-- Under a steady judge a selection stops at the first test that raises something. -/
theorem exists_stopsAt (hσ : σ.judge.Steady) (e : Engine) {i : NodeId} {p : Path} {t : Test}
    (h : (e.tests σ.forest σ.answers i p).find? σ.raises = some t) (w : World) :
    ∃ r, e.StopsAt σ i p w t r ∧ σ.complaint? t = some r.unnumbered := by
  cases (e.planned_find i p).ends hσ (e.opened w) with
  | returns answered run =>
    have hnone := answered.complaint?_eq_none hσ t (List.mem_of_find?_eq_some h)
    have hraises := (Setting.raises_eq_false_iff.2 hnone).symm.trans (List.find?_some h)
    exact absurd hraises Bool.false_ne_true
  | @raises before after u r w₁ w₂ split answered raised run =>
    have hcomplaint := complaint?_of_run_eq_error hσ raised
    have hfirst : (e.tests σ.forest σ.answers i p).find? σ.raises = some u := by
      refine List.find?_eq_some_iff_append.2 ⟨?_, before, after, split, fun v hv ↦ ?_⟩
      · rw [Setting.raises, hcomplaint]
        rfl
      · rw [Setting.raises_eq_false_iff.2 (answered.complaint?_eq_none hσ v hv)]
        rfl
    cases hfirst.symm.trans h
    obtain ⟨w', hselect⟩ := exists_run_select_of_error run
    exact ⟨r, ⟨before, after, w₁, w₂, w', split, answered, raised, run, hselect⟩, hcomplaint⟩

/-- If the selection of one engine raises something, every engine makes a test that does. -/
theorem exists_find?_raises (hσ : σ.judge.Steady) {e : Engine} {i : NodeId} {p : Path} {r : Raised}
    {w w' : World} (h : (e.select σ i p).run w = .error r w') (e' : Engine) :
    ∃ t, (e'.tests σ.forest σ.answers i p).find? σ.raises = some t := by
  have houtcome := e.outcome_select_eq hσ i p w
  rw [outcome_of_error h] at houtcome
  cases hfirst : (e'.tests σ.forest σ.answers i p).find? σ.raises with
  | some t => exact ⟨t, rfl⟩
  | none =>
    have hnone : (e'.tests σ.forest σ.answers i p).findSome? σ.complaint? = none := by
      refine List.findSome?_eq_none_iff.2 fun t ht ↦ Setting.raises_eq_false_iff.1 ?_
      exact Bool.eq_false_iff.2 (List.find?_eq_none.1 hfirst t ht)
    rw [(e'.findSome?_tests_eq_none_iff e _ _ i p _).1 hnone] at houtcome
    cases houtcome

end Engine

/-- **Where the two ways stop.** If a selection raises something, both ways do. Level by level it
stops at the leftmost test that raises something on the first level that has one, where a level goes
from left to right in the order of the document. Depth first it stops at the first test that raises
something when the children of a node are tested before it descends into those that passed, from
left to right. That test is never on a level above, and if it is on the same one it is the same
test, and the same is raised. -/
theorem strategies_stop (h : σ.forest.Reachable) (hσ : σ.judge.Steady) {e : Engine} {i : NodeId}
    {p : Path} {r₀ : Raised} {w₀ w₀' : World} (hraised : (e.select σ i p).run w₀ = .error r₀ w₀')
    (timed timed' : Bool) (w w' : World) :
    ∃ k t r t' r',
      (σ.forest.testsAt σ.answers p.steps k i).find? σ.raises = some t ∧
        (∀ j < k, ∀ u ∈ σ.forest.testsAt σ.answers p.steps j i, σ.raises u = false) ∧
        (∀ j, ((σ.forest.testsAt σ.answers p.steps j i).map Test.node).Sublist
          (σ.forest.elements i)) ∧
        (Engine.mk .iterative timed).StopsAt σ i p w t r ∧
      (σ.forest.depthTests σ.answers p.steps i).find? σ.raises = some t' ∧
        (Engine.mk .recursive timed').StopsAt σ i p w' t' r' ∧
      (∃ k', t' ∈ σ.forest.testsAt σ.answers p.steps k' i) ∧
        ∀ k', t' ∈ σ.forest.testsAt σ.answers p.steps k' i →
          k ≤ k' ∧ (k' = k → t' = t ∧ r'.unnumbered = r.unnumbered) := by
  have hf := h.wellLinked
  obtain ⟨t, ht⟩ := Engine.exists_find?_raises hσ hraised ⟨.iterative, timed⟩
  obtain ⟨t', ht'⟩ := Engine.exists_find?_raises hσ hraised ⟨.recursive, timed'⟩
  obtain ⟨r, hstops, hr⟩ := Engine.exists_stopsAt hσ _ ht w
  obtain ⟨r', hstops', hr'⟩ := Engine.exists_stopsAt hσ _ ht' w'
  obtain ⟨k, hk, hbefore⟩ := Forest.exists_testsAt_of_find? ht
  simp only [List.flatMap_cons, List.flatMap_nil, List.append_nil] at hk hbefore
  refine ⟨k, t, r, t', r', hk, hbefore, fun j ↦ hf.testsAt_sublist_elements p.steps j i, hstops,
    ht', hstops', Forest.exists_mem_testsAt (List.mem_of_find?_eq_some ht'), fun k' hk' ↦
    ⟨Nat.le_of_not_lt fun hlt ↦ ?_, ?_⟩⟩
  · exact Bool.false_ne_true ((hbefore k' hlt t' hk').symm.trans (List.find?_some ht'))
  · -- depth first goes through this level from left to right, too, so the first test of all that
    -- raises something is the first on the level
    rintro rfl
    have hfirst := find?_eq_of_sublist (Forest.testsAt_sublist_depthTests p.steps k' i)
      (hf.nodup_depthTests p.steps i) ht' hk'
    obtain rfl : t = t' := Option.some.inj (hk.symm.trans hfirst)
    exact ⟨rfl, Option.some.inj (hr'.symm.trans hr)⟩

/-- Makes a document with two branches, the first of which is deeper. -/
def sampleBranches : List Call :=
  .create (.ok (.document [])) none ::
    ["a", "b", "c", "d", "e"].map (fun name ↦ .create (.ok (.element name .empty)) (some 0)) ++
    [.append 0 (some 1), .append 0 (some 2), .append 1 (some 3), .append 2 (some 4),
      .append 3 (some 5)]

/-- The two branches, under a judge who raises a fault on the last node of each and says yes to the
others. -/
def branchesSetting : Setting where
  forest := Call.run .empty sampleBranches
  clock _ := 0
  judge _ i := if i < 4 then return true else throw (.fault (.raised "ValueError" "last"))

/-- A path of three steps that ask the judge. -/
def branchesPath : Path :=
  ⟨.predicate ⟨"p", none, "", ""⟩, List.replicate 2 (.predicate ⟨"p", none, "", ""⟩)⟩

/-- From the document, the search of the two branches stops at the end of the second one if it goes
level by level, and at the end of the deeper one if it goes depth first. -/
theorem strategies_stop_branches :
    branchesSetting.forest.Reachable ∧ branchesSetting.judge.Steady ∧
      ∃ t r t' r', (Engine.mk .iterative false).StopsAt branchesSetting 0 branchesPath default t r ∧
        t.node = 4 ∧
        (Engine.mk .recursive true).StopsAt branchesSetting 0 branchesPath default t' r' ∧
        t'.node = 5 := by
  have hreach : branchesSetting.forest.Reachable := ⟨sampleBranches, by decide, rfl⟩
  have hsteady : branchesSetting.judge.Steady := by
    intro p i w w'
    dsimp only [branchesSetting]
    split
    · rfl
    · rfl
  obtain ⟨r₀, houtcome⟩ : ∃ r, outcome ((Engine.mk .recursive true).select branchesSetting 0
      branchesPath) default = .error r := ⟨_, rfl⟩
  obtain ⟨r, w, hraised, -⟩ := exists_error_of_outcome houtcome
  obtain ⟨k, t, r, t', r', hk, hbefore, -, hstops, ht', hstops', -⟩ :=
    strategies_stop hreach hsteady hraised false true default default
  have hfive :
      (branchesSetting.forest.depthTests branchesSetting.answers branchesPath.steps 0).find?
        branchesSetting.raises = some ⟨5, branchesPath.head⟩ := rfl
  have hfour : (branchesSetting.forest.testsAt branchesSetting.answers branchesPath.steps 1 0).find?
      branchesSetting.raises = some ⟨4, branchesPath.head⟩ := rfl
  refine ⟨hreach, hsteady, t, r, t', r', hstops, ?_, hstops', ?_⟩
  · obtain hzero | rfl | hdeep : k = 0 ∨ k = 1 ∨ 1 < k := by omega
    · rw [hzero] at hk
      cases hk
    · cases hk.symm.trans hfour
      rfl
    · have hraises := hbefore 1 hdeep _ (List.mem_of_find?_eq_some hfour)
      exact absurd (hraises.symm.trans (List.find?_some hfour)) Bool.false_ne_true
  · cases ht'.symm.trans hfive
    rfl

end TreePath
