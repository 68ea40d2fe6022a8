import TreePath.Proofs.Selection.Stopping

/-!
# Level by level is depth first, sorted

Both ways of selecting make the tests of one level in the same order (`Engine.filter_tests`); what
differs is how the levels are mixed. Level by level, they come one after the other
(`Forest.WellLinked.pairwise_levelTests`). So the tests made level by level are those made depth
first, sorted by how deep their nodes stand, where tests of one depth keep their order; and whatever
is done in each test is then sorted in the same way (`Engine.flatMap_tests_eq_mergeSort`).

That a list is another one sorted, with ties in their order, is shown key by key
(`eq_mergeSort_of_filter_eq`): it is sorted, and has for each key the same items in the same order.

To compare the two orders key by key suits the searches: the tests of one depth are a part of both
lists, in the same order, and this is an induction on the steps (`Engine.filter_tests`). That the
list made level by level is sorted is another one. A proof that follows a sorting procedure would
have to know both searches at once.
-/

namespace TreePath

/-! ### Lists sorted by a key -/

section Sorted

variable {α : Type} {key : α → Nat}

/-- Items of a list that are all of one kind there are found by looking for that kind. -/
theorem filter_eq_of_sublist {P : α → Bool} {l l' : List α} (h : l.Sublist l') (hl' : l'.Nodup)
    (hmem : ∀ a, a ∈ l ↔ a ∈ l' ∧ P a = true) : l'.filter P = l := by
  have hself : l.filter P = l := List.filter_eq_self.2 fun a ha ↦ ((hmem a).1 ha).2
  have hsub : l.Sublist (l'.filter P) := hself ▸ h.filter P
  refine (hsub.eq_of_length_le ?_).symm
  refine ((hl'.filter P).subperm fun a ha ↦ ?_).length_le
  exact (hmem a).2 (List.mem_filter.1 ha)

/-- If all that comes of an item is of the kind of the item, what is of a kind comes of the items of
that kind. -/
theorem filter_flatMap_eq {β : Type} {g : α → List β} {P : β → Bool} {Q : α → Bool}
    (h : ∀ a, ∀ b ∈ g a, P b = Q a) (l : List α) :
    (l.flatMap g).filter P = (l.filter Q).flatMap g := by
  induction l with
  | nil => rfl
  | cons a l ih =>
    rw [List.flatMap_cons, List.filter_append, ih, List.filter_cons]
    cases hQ : Q a with
    | true =>
      have hall : (g a).filter P = g a := List.filter_eq_self.2 fun b hb ↦ (h a b hb).trans hQ
      rw [hall, if_pos rfl, List.flatMap_cons]
    | false =>
      have hnone : (g a).filter P = [] :=
        List.filter_eq_nil_iff.2 fun b hb ↦ by simp [h a b hb, hQ]
      rw [hnone, if_neg Bool.false_ne_true, List.nil_append]

/-- Two sorted lists are equal if they have the same items of each key, in the same order. -/
theorem eq_of_filter_eq {l l' : List α} (hl : l.Pairwise (key · ≤ key ·))
    (hl' : l'.Pairwise (key · ≤ key ·))
    (h : ∀ n, l.filter (key · == n) = l'.filter (key · == n)) : l = l' := by
  have hmem : ∀ a, a ∈ l ↔ a ∈ l' := by
    intro a
    have ha := congrArg (a ∈ ·) (h (key a))
    simpa using ha
  induction l generalizing l' with
  | nil => exact (List.eq_nil_iff_forall_not_mem.2 fun a ha ↦ List.not_mem_nil ((hmem a).2 ha)).symm
  | cons a l ih =>
    cases l' with
    | nil => exact absurd ((hmem a).1 List.mem_cons_self) List.not_mem_nil
    | cons b l' =>
      rw [List.pairwise_cons] at hl hl'
      -- each of the first items is in the other list, so neither key is greater
      have hab : key a ≤ key b := by
        rcases List.mem_cons.1 ((hmem b).2 List.mem_cons_self) with rfl | hb
        · exact le_rfl
        · exact hl.1 b hb
      have hba : key b ≤ key a := by
        rcases List.mem_cons.1 ((hmem a).1 List.mem_cons_self) with rfl | ha
        · exact le_rfl
        · exact hl'.1 a ha
      have hkey : key a = key b := Nat.le_antisymm hab hba
      have hfirst := h (key a)
      rw [List.filter_cons_of_pos (by simp), List.filter_cons_of_pos (by simp [hkey])] at hfirst
      obtain ⟨rfl, -⟩ := List.cons.inj hfirst
      have hrest : ∀ n, l.filter (key · == n) = l'.filter (key · == n) := by
        intro n
        have hn := h n
        rw [List.filter_cons, List.filter_cons] at hn
        split at hn
        · exact (List.cons.inj hn).2
        · exact hn
      refine congrArg (a :: ·) (ih hl.2 hl'.2 hrest fun x ↦ ?_)
      have hx := congrArg (x ∈ ·) (hrest (key x))
      simpa using hx

variable (key) in
/-- A sorted list is another one sorted, with ties in their order, if it has the same items of each
key in the same order. -/
theorem eq_mergeSort_of_filter_eq {l l' : List α} (hl' : l'.Pairwise (key · ≤ key ·))
    (h : ∀ n, l'.filter (key · == n) = l.filter (key · == n)) :
    l' = l.mergeSort fun a b ↦ decide (key a ≤ key b) := by
  set le : α → α → Bool := fun a b ↦ decide (key a ≤ key b) with hle
  have htrans : ∀ a b c, le a b = true → le b c = true → le a c = true := by
    intro a b c hab hbc
    simp only [hle, decide_eq_true_eq] at *
    omega
  have htotal : ∀ a b, (le a b || le b a) = true := by
    intro a b
    simp only [hle, Bool.or_eq_true, decide_eq_true_eq]
    omega
  have hsorted : (l.mergeSort le).Pairwise (key · ≤ key ·) := by
    simpa [hle] using List.pairwise_mergeSort htrans htotal l
  refine eq_of_filter_eq hl' hsorted fun n ↦ ?_
  -- items of one key are in order already, so sorting keeps them as they are
  have hties : (l.filter (key · == n)).Pairwise fun a b ↦ le a b = true := by
    refine List.pairwise_filter.2 (List.pairwise_of_forall fun a b ha hb ↦ ?_)
    simp only [hle, beq_iff_eq, decide_eq_true_eq] at *
    omega
  have hsub : (l.filter (key · == n)).Sublist ((l.mergeSort le).filter (key · == n)) := by
    have hkept := (List.sublist_mergeSort htrans htotal hties List.filter_sublist).filter
      (key · == n)
    rwa [List.filter_filter, List.filter_congr (q := (key · == n)) (by simp)] at hkept
  rw [h n]
  refine hsub.eq_of_length_le ?_
  exact ((List.mergeSort_perm l le).filter _).length_eq.le

end Sorted

/-! ### The levels of tests -/

namespace Forest

variable {f : Forest} {τ : Answers}

/-- The tests of a level, by the nodes that the steps before it lead to. -/
theorem mem_testsAt_iff {steps : List Step} {k : Nat} {i : NodeId} {t : Test} :
    t ∈ f.testsAt τ steps k i ↔
      steps[k]? = some t.step ∧
        ∃ d, f.Leads τ i (steps.take k) d ∧ t.node ∈ f.children d ∧ f.isElement t.node = true := by
  rw [testsAt]
  cases steps[k]? with
  | none => simp
  | some s =>
    simp only [List.mem_flatMap, mem_reach_iff, childTests, List.mem_map, elementChildren,
      List.mem_filter, Option.some.injEq]
    constructor
    · rintro ⟨d, hd, c, hc, rfl⟩
      exact ⟨rfl, d, hd, hc⟩
    · rintro ⟨rfl, d, hd, hc⟩
      exact ⟨d, hd, t.node, hc, rfl⟩

/-- Level by level, the tests of a level are made from left to right. -/
theorem testsAt_sublist_levelTests (steps : List Step) (k : Nat) (level : List NodeId) :
    (level.flatMap (f.testsAt τ steps k)).Sublist (f.levelTests τ steps level) := by
  induction steps generalizing k level with
  | nil => simp [testsAt, levelTests]
  | cons s rest ih =>
    rw [levelTests]
    cases k with
    | zero =>
      rw [flatMap_testsAt_zero]
      exact List.sublist_append_left _ _
    | succ k =>
      rw [flatMap_testsAt_succ]
      exact (ih k _).trans (List.sublist_append_right _ _)

namespace WellLinked

variable (hf : f.WellLinked)

include hf

theorem level_of_leads {steps : List Step} {i d : NodeId} (h : f.Leads τ i steps d) :
    f.level d = f.level i + steps.length := by
  induction h with
  | nil i => rfl
  | cons hc _ _ _ ih =>
    rw [ih, hf.level_of_mem_children hc, List.length_cons]
    omega

/-- The tests of a level are made one level below it. -/
theorem level_of_mem_testsAt {steps : List Step} {k : Nat} {i : NodeId} {t : Test}
    (h : t ∈ f.testsAt τ steps k i) : f.level t.node = f.level i + (k + 1) := by
  obtain ⟨hstep, d, hd, hchild, -⟩ := mem_testsAt_iff.1 h
  have hk : k < steps.length := (List.getElem?_eq_some_iff.1 hstep).1
  rw [hf.level_of_mem_children hchild, hf.level_of_leads hd, List.length_take]
  omega

/-- Level by level, no test is made on a node above one tested before. -/
theorem pairwise_levelTests (steps : List Step) {level : List NodeId} {n : Nat}
    (h : ∀ x ∈ level, f.level x = n) :
    (∀ t ∈ f.levelTests τ steps level, n < f.level t.node) ∧
      (f.levelTests τ steps level).Pairwise fun t u ↦ f.level t.node ≤ f.level u.node := by
  induction steps generalizing level n with
  | nil => simp [levelTests]
  | cons s rest ih =>
    have hchildren : ∀ t ∈ level.flatMap (f.childTests s), f.level t.node = n + 1 := by
      intro t ht
      obtain ⟨x, hx, ht⟩ := List.mem_flatMap.1 ht
      obtain ⟨c, hc, rfl⟩ := List.mem_map.1 ht
      rw [hf.level_of_mem_children (List.mem_of_mem_filter hc), h x hx]
    have hpassing : ∀ c ∈ level.flatMap (f.passing τ s), f.level c = n + 1 := by
      intro c hc
      obtain ⟨x, hx, hc⟩ := List.mem_flatMap.1 hc
      rw [hf.level_of_mem_children (mem_passing_iff.1 hc).1, h x hx]
    obtain ⟨hbelow, hsorted⟩ := ih hpassing
    rw [levelTests]
    constructor
    · intro t ht
      rcases List.mem_append.1 ht with ht | ht
      · have := hchildren t ht
        omega
      · have := hbelow t ht
        omega
    · refine List.pairwise_append.2 ⟨?_, hsorted, fun t ht u hu ↦ ?_⟩
      · refine List.pairwise_of_forall_mem_list fun t ht u hu ↦ ?_
        rw [hchildren t ht, hchildren u hu]
      · have ht := hchildren t ht
        have hu := hbelow u hu
        omega

end WellLinked

end Forest

/-! ### The tests of an engine, level for level -/

namespace Engine

variable {f : Forest} (hf : f.WellLinked) (τ : Answers) (i : NodeId) (p : Path)

theorem testsAt_sublist_tests (e : Engine) (k : Nat) :
    (f.testsAt τ p.steps k i).Sublist (e.tests f τ i p) := by
  rw [tests]
  cases e.strategy with
  | recursive => exact f.testsAt_sublist_depthTests p.steps k i
  | iterative => simpa using Forest.testsAt_sublist_levelTests p.steps k [i]

/-- Every test that an engine makes is on some level. -/
theorem mem_tests_iff_exists (e : Engine) {t : Test} :
    t ∈ e.tests f τ i p ↔ ∃ k, t ∈ f.testsAt τ p.steps k i := by
  constructor
  · exact fun h ↦ Forest.exists_mem_testsAt ((e.tests_perm f τ i p).subset h)
  · exact fun ⟨k, h⟩ ↦ (e.testsAt_sublist_tests τ i p k).subset h

include hf

/-- Every engine makes the tests of a level in the same order. -/
theorem filter_tests (e : Engine) (k : Nat) :
    (e.tests f τ i p).filter (fun t ↦ f.depthBelow i t.node == k + 1) =
      f.testsAt τ p.steps k i := by
  refine filter_eq_of_sublist (e.testsAt_sublist_tests τ i p k) (e.nodup_tests hf τ i p) fun t ↦ ?_
  rw [e.mem_tests_iff_exists, beq_iff_eq, Forest.depthBelow]
  constructor
  · intro ht
    have hlevel := hf.level_of_mem_testsAt ht
    exact ⟨⟨k, ht⟩, by omega⟩
  · rintro ⟨⟨j, ht⟩, hdepth⟩
    have hlevel := hf.level_of_mem_testsAt ht
    obtain rfl : j = k := by omega
    exact ht

/-- Two engines make the tests of each depth in the same order. -/
theorem filter_tests_eq (e e' : Engine) (n : Nat) :
    (e.tests f τ i p).filter (fun t ↦ f.depthBelow i t.node == n) =
      (e'.tests f τ i p).filter (fun t ↦ f.depthBelow i t.node == n) := by
  cases n with
  | zero =>
    -- no test is made on the start node or above
    have hnone (e : Engine) :
        (e.tests f τ i p).filter (fun t ↦ f.depthBelow i t.node == 0) = [] := by
      refine List.filter_eq_nil_iff.2 fun t ht ↦ ?_
      obtain ⟨k, hk⟩ := (e.mem_tests_iff_exists τ i p).1 ht
      have hlevel := hf.level_of_mem_testsAt hk
      rw [beq_iff_eq, Forest.depthBelow]
      omega
    rw [hnone, hnone]
  | succ k => rw [e.filter_tests hf, e'.filter_tests hf]

/-- What is done in the tests level by level is what is done depth first, sorted by depth. -/
theorem flatMap_tests_eq_mergeSort {γ : Type} {g : Test → List γ} {node : γ → NodeId}
    (hg : ∀ t, ∀ c ∈ g t, node c = t.node) (timed timed' : Bool) :
    (tests ⟨.iterative, timed⟩ f τ i p).flatMap g =
      ((tests ⟨.recursive, timed'⟩ f τ i p).flatMap g).mergeSort fun a b ↦
        decide (f.depthBelow i (node a) ≤ f.depthBelow i (node b)) := by
  refine eq_mergeSort_of_filter_eq (fun c ↦ f.depthBelow i (node c)) ?_ fun n ↦ ?_
  · have hstart : ∀ x ∈ [i], f.level x = f.level i :=
      fun x hx ↦ congrArg f.level (List.mem_singleton.1 hx)
    have hsorted : (f.levelTests τ p.steps [i]).Pairwise fun t u ↦
        f.level t.node ≤ f.level u.node := (hf.pairwise_levelTests p.steps hstart).2
    refine List.pairwise_flatMap.2 ⟨fun t _ ↦ ?_, hsorted.imp fun {t u} htu a ha b hb ↦ ?_⟩
    · refine List.pairwise_of_forall_mem_list fun a ha b hb ↦ ?_
      rw [hg t a ha, hg t b hb]
    · rw [hg t a ha, hg u b hb, Forest.depthBelow, Forest.depthBelow]
      omega
  · have hkind : ∀ t, ∀ c ∈ g t,
        (f.depthBelow i (node c) == n) = (f.depthBelow i t.node == n) := by
      intro t c hc
      rw [hg t c hc]
    rw [filter_flatMap_eq hkind, filter_flatMap_eq hkind, filter_tests_eq hf]

end Engine

end TreePath
