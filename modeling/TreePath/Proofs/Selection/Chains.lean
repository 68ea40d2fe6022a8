import TreePath.Proofs.Forest.Unfolding
import TreePath.Proofs.Selection.Agreement

/-!
# Selections find chains

What a selection finds is what chains of elements lead to: the first a child of the start node, each
next one a child of the one before, and each passing the step of its level (`Leads`). This is said
of the answers that were given while the selection ran, so it holds under every judge, steady or not
(`selects_chains`). No test is made twice, so each has one answer; and every test was made that a
chain comes to (`Due`), so no answer is missing.

What is reached comes in the order of `Forest.elements`, because both go through the children of a
node in the same order, and an element that a chain leads to stands at the head of its own part of
the list or below it. Since no element is listed twice there, none is found twice.

A selection that is ended by something raised has made some of its tests and not others, so there is
nothing that all chains could be compared with; it is only said of it that a chain comes to the test
that raised something. Of one that returns, each test was made and answered, and one function of the
tests says how.
-/

namespace TreePath

open SelectM

namespace Forest

variable {f : Forest} {τ : Answers}

/-- Elements lead from one node to another: each is a child of the one before and passes the step of
its level under the given answers. -/
inductive Leads (f : Forest) (τ : Answers) : NodeId → List Step → NodeId → Prop
  /-- No steps lead nowhere else. -/
  | nil (i : NodeId) : Leads f τ i [] i
  /-- The first step leads to a child, and the others on from there. -/
  | cons {i c d : NodeId} {s : Step} {rest : List Step} (hc : c ∈ f.children i)
    (helement : f.isElement c = true) (hyes : τ ⟨c, s⟩ = true) (hrest : Leads f τ c rest d) :
    Leads f τ i (s :: rest) d

/-- Elements lead from a node to one that the next step is to be tested on. -/
inductive Due (f : Forest) (τ : Answers) : NodeId → List Step → Test → Prop
  /-- The first step is tested on the children. -/
  | here {i c : NodeId} {s : Step} {rest : List Step} (hc : c ∈ f.children i)
    (helement : f.isElement c = true) : Due f τ i (s :: rest) ⟨c, s⟩
  /-- The others are tested below those children that pass. -/
  | deeper {i c : NodeId} {s : Step} {rest : List Step} {t : Test} (hc : c ∈ f.children i)
    (helement : f.isElement c = true) (hyes : τ ⟨c, s⟩ = true) (hrest : Due f τ c rest t) :
    Due f τ i (s :: rest) t

/-- What is tested is a step of the path. -/
theorem Due.step_mem {steps : List Step} {i : NodeId} {t : Test} (h : f.Due τ i steps t) :
    t.step ∈ steps := by
  induction h with
  | here _ _ => exact List.mem_cons_self
  | deeper _ _ _ _ ih => exact List.mem_cons_of_mem _ ih

theorem mem_passing_iff {s : Step} {i c : NodeId} :
    c ∈ f.passing τ s i ↔ c ∈ f.children i ∧ f.isElement c = true ∧ τ ⟨c, s⟩ = true := by
  rw [passing, elementChildren, List.mem_filter, List.mem_filter, and_assoc]

/-- What is reached is what elements lead to. -/
theorem mem_reach_iff {steps : List Step} {i d : NodeId} :
    d ∈ f.reach τ steps i ↔ f.Leads τ i steps d := by
  induction steps generalizing i with
  | nil =>
    rw [reach, List.mem_singleton]
    constructor
    · rintro rfl
      exact .nil d
    · rintro ⟨⟩
      rfl
  | cons s rest ih =>
    rw [reach, List.mem_flatMap]
    constructor
    · rintro ⟨c, hc, hd⟩
      obtain ⟨hchild, helement, hyes⟩ := mem_passing_iff.1 hc
      exact .cons hchild helement hyes (ih.1 hd)
    · intro h
      cases h with
      | @cons _ c _ _ _ hc helement hyes hrest =>
        exact ⟨c, mem_passing_iff.2 ⟨hc, helement, hyes⟩, ih.2 hrest⟩

/-- The tests that are made are those that elements lead to. -/
theorem mem_depthTests_iff {steps : List Step} {i : NodeId} {t : Test} :
    t ∈ f.depthTests τ steps i ↔ f.Due τ i steps t := by
  induction steps generalizing i with
  | nil =>
    rw [depthTests]
    constructor
    · rintro ⟨⟩
    · rintro ⟨⟩
  | cons s rest ih =>
    rw [depthTests, List.mem_append, childTests, List.mem_map, List.mem_flatMap]
    constructor
    · rintro (⟨c, hc, rfl⟩ | ⟨c, hc, ht⟩)
      · obtain ⟨hchild, helement⟩ := List.mem_filter.1 hc
        exact .here hchild helement
      · obtain ⟨hchild, helement, hyes⟩ := mem_passing_iff.1 hc
        exact .deeper hchild helement hyes (ih.1 ht)
    · intro h
      cases h with
      | @here _ c _ _ hc helement =>
        exact Or.inl ⟨c, List.mem_filter.2 ⟨hc, helement⟩, rfl⟩
      | @deeper _ c _ _ _ hc helement hyes hrest =>
        exact Or.inr ⟨c, mem_passing_iff.2 ⟨hc, helement, hyes⟩, ih.2 hrest⟩

namespace WellLinked

variable (hf : f.WellLinked)

include hf

/-! ### No test is made twice -/

/-- Tests are made on nodes below. -/
theorem isAbove_of_due {steps : List Step} {i : NodeId} {t : Test} (h : f.Due τ i steps t) :
    ∃ p, f.parent t.node = some p ∧ f.IsAbove i p := by
  induction h with
  | here hc _ => exact ⟨_, hf.mem_children_iff.1 hc, IsAbove.refl _⟩
  | deeper hc _ _ _ ih =>
    obtain ⟨p, hp, habove⟩ := ih
    exact ⟨p, hp, (IsAbove.of_parent (hf.mem_children_iff.1 hc)).trans habove⟩

/-- No test is made twice. -/
theorem nodup_depthTests (steps : List Step) (i : NodeId) : (f.depthTests τ steps i).Nodup := by
  induction steps generalizing i with
  | nil => exact List.nodup_nil
  | cons s rest ih =>
    have hchildren : (f.elementChildren i).Nodup := (hf.nodup_children i).filter _
    have hpassing : (f.passing τ s i).Sublist (f.children i) :=
      List.filter_sublist.trans List.filter_sublist
    refine List.Nodup.append (hchildren.map fun c d h ↦ congrArg Test.node h) ?_ ?_
    · refine List.nodup_flatMap.2 ⟨fun c _ ↦ ih c, ?_⟩
      refine hf.pairwise_disjoint Test.node hpassing fun c _ t ht ↦ ?_
      obtain ⟨p, hp, habove⟩ := hf.isAbove_of_due (mem_depthTests_iff.1 ht)
      exact habove.trans (IsAbove.of_parent hp)
    · -- a child that is tested again lies below itself
      intro t ht hbelow
      obtain ⟨x, hx, rfl⟩ := List.mem_map.1 ht
      obtain ⟨c, hc, ht⟩ := List.mem_flatMap.1 hbelow
      obtain ⟨p, hp, habove⟩ := hf.isAbove_of_due (mem_depthTests_iff.1 ht)
      have hi : f.parent x = some i := hf.mem_children_iff.1 (List.mem_of_mem_filter hx)
      cases hp.symm.trans hi
      exact hf.not_isAbove_parent (hf.mem_children_iff.1 (hpassing.subset hc)) habove

/-! ### Order and levels of what is reached -/

/-- What is reached by at least one step comes in the order of the elements below. -/
theorem reach_cons_sublist {s : Step} {rest : List Step}
    (h : ∀ c, (f.reach τ rest c).Sublist (c :: f.elements c)) (i : NodeId) :
    (f.reach τ (s :: rest) i).Sublist (f.elements i) := by
  rw [reach, passing, hf.elements_eq]
  exact (List.filter_sublist.flatMap _).trans (List.Sublist.flatMap_right _ fun c _ ↦ h c)

/-- What is reached stands among the elements below the start, in their order. -/
theorem reach_sublist (steps : List Step) (i : NodeId) :
    (f.reach τ steps i).Sublist (i :: f.elements i) := by
  induction steps generalizing i with
  | nil => exact (List.nil_sublist _).cons_cons i
  | cons s rest ih => exact (hf.reach_cons_sublist ih i).cons i

/-- What elements lead to lies as many levels below as there are steps. -/
theorem lineage_of_leads {steps : List Step} {i d : NodeId} (h : f.Leads τ i steps d) :
    (f.lineage d)[steps.length]? = some i := by
  induction h with
  | nil i =>
    rw [hf.lineage_eq i]
    rfl
  | cons hc _ _ _ ih =>
    rw [List.length_cons, hf.lineage_getElem?_succ, ih]
    exact hf.mem_children_iff.1 hc

/-- Steps that lead somewhere are not more than there are levels. -/
theorem length_le_depth_of_leads {steps : List Step} {i d : NodeId} (h : f.Leads τ i steps d) :
    steps.length ≤ Tree.depth (f.subtree i).branches := by
  induction h with
  | nil i => exact Nat.zero_le _
  | cons hc _ _ _ ih => exact Nat.lt_of_le_of_lt ih (hf.depth_lt_of_mem_children hc)

end WellLinked

end Forest

/-! ### What a selection finds -/

/-- Every engine makes the tests that elements lead to. -/
theorem Engine.mem_tests_iff (e : Engine) {f : Forest} {τ : Answers} {i : NodeId} {p : Path}
    {t : Test} : t ∈ e.tests f τ i p ↔ f.Due τ i p.steps t :=
  (e.tests_perm f τ i p).mem_iff.trans Forest.mem_depthTests_iff

/-- No engine makes a test twice. -/
theorem Engine.nodup_tests (e : Engine) {f : Forest} (hf : f.WellLinked) (τ : Answers) (i : NodeId)
    (p : Path) : (e.tests f τ i p).Nodup :=
  (e.tests_perm f τ i p).nodup_iff.2 (hf.nodup_depthTests p.steps i)

variable {σ : Setting}

/-- **A selection finds the ends of chains, unless a test that a chain comes to raises something.**
Under the answers that were given, each to one test, it returns what elements lead to, everything
once and in the order of the document. What it finds lies as many levels below the start as the path
has steps, so there is nothing to find by a path with more steps than there are levels. -/
theorem selects_chains (h : σ.forest.Reachable) (e : Engine) (i : NodeId) (p : Path) (w : World) :
    ∃ τ asked w₁, Answered σ τ asked (e.opened w) w₁ ∧ asked.Nodup ∧
      ((∃ t r w₂ w', σ.forest.Due τ i p.steps t ∧ (t.run σ).run w₁ = .error r w₂ ∧
          (e.select σ i p).run w = .error r w') ∨
        ∃ found w', (e.select σ i p).run w = .ok found w' ∧
          (∀ t, t ∈ asked ↔ σ.forest.Due τ i p.steps t) ∧
          (∀ d, d ∈ found ↔ σ.forest.Leads τ i p.steps d) ∧
          found.Nodup ∧ found.Sublist (σ.forest.elements i) ∧
          (∀ d ∈ found, (σ.forest.lineage d)[p.length]? = some i) ∧
          (Tree.depth (σ.forest.subtree i).branches < p.length → found = [])) := by
  have hf := h.wellLinked
  have hnodup (τ : Answers) := e.nodup_tests hf τ i p
  obtain ⟨τ, hends⟩ := (e.planned_find i p).exists_ends hnodup (e.opened w)
  cases hends with
  | @raises before after t r w₁ w₂ split answered raised run =>
    obtain ⟨w', hselect⟩ := Engine.exists_run_select_of_error run
    have hsub : before.Sublist (e.tests σ.forest τ i p) := by
      rw [split]
      exact List.sublist_append_left _ _
    have ht : t ∈ e.tests σ.forest τ i p := by
      rw [split]
      exact List.mem_append_right _ List.mem_cons_self
    exact ⟨τ, before, w₁, answered, hsub.nodup (hnodup τ),
      Or.inl ⟨t, r, w₂, w', e.mem_tests_iff.1 ht, raised, hselect⟩⟩
  | @returns w₁ answered run =>
    obtain ⟨w', hselect⟩ := Engine.exists_run_select_of_ok run
    have hsub : (σ.forest.reach τ p.steps i).Sublist (σ.forest.elements i) :=
      hf.reach_cons_sublist (hf.reach_sublist p.rest) i
    have hleads (d : NodeId) :
        d ∈ σ.forest.reach τ p.steps i ↔ σ.forest.Leads τ i p.steps d := Forest.mem_reach_iff
    refine ⟨τ, _, w₁, answered, hnodup τ, Or.inr ⟨_, w', hselect, fun t ↦ e.mem_tests_iff, hleads,
      hsub.nodup (hf.nodup_elements i), hsub, fun d hd ↦ ?_, fun hdeep ↦ ?_⟩⟩
    · exact hf.lineage_of_leads ((hleads d).1 hd)
    · refine List.eq_nil_iff_forall_not_mem.2 fun d hd ↦ ?_
      exact Nat.not_lt.2 (hf.length_le_depth_of_leads ((hleads d).1 hd)) hdeep

/-- From the document of the sample, the sample path leads to one element. -/
theorem selects_chains_sample :
    sampleSetting.forest.Reachable ∧
      ∃ τ w', ((Engine.mk .iterative false).select sampleSetting 0 samplePath).run default =
          .ok [2] w' ∧
        sampleSetting.forest.Leads τ 0 samplePath.steps 2 ∧
        [2].Sublist (sampleSetting.forest.elements 0) := by
  have hreach : sampleSetting.forest.Reachable := ⟨Forest.sampleCalls, by decide, rfl⟩
  have houtcome : outcome ((Engine.mk .iterative false).select sampleSetting 0 samplePath) default =
      .ok [2] := rfl
  obtain ⟨v, hv⟩ := exists_ok_of_outcome houtcome
  refine ⟨hreach, ?_⟩
  obtain ⟨τ, asked, w₁, -, -, ⟨t, r, w₂, w', -, -, hraised⟩ |
    ⟨found, w', hfound, -, hleads, -, hsub, -, -⟩⟩ :=
    selects_chains hreach ⟨.iterative, false⟩ 0 samplePath default
  · cases hv.symm.trans hraised
  · cases hv.symm.trans hfound
    exact ⟨τ, v, hv, (hleads 2).1 List.mem_cons_self, hsub⟩

end TreePath
