import TreePath.Proofs.Literal.Reading
import TreePath.Proofs.Selection.Stopping

/-!
# Selecting in stages

To select by one path after another is to select by the first, and then by the second from each
element found, in order (`select_in_stages`). What is reached is put together in this way
(`Forest.reach_append`), and so are the tests, except for their order
(`Forest.mem_depthTests_append`). Under a steady judge the order does not matter, so the selection
in one go returns just when all of its stages do.

The second path may be written as a list or tuple of literals. Such a literal reads as the same path
at all times (`TreePath.Proofs.Literal.Reading`), so it may be read once, for the whole path, or
anew for each element.

A selection in stages is one selection and then as many as it found elements. Each may be made by an
engine of its own and in any world, and if one of them is ended by something raised, others may have
returned before. So the two sides are compared in whether all of them return, and in what they find
if they do.
-/

namespace TreePath

open SelectM

/-! ### One path after another -/

namespace Forest

variable (f : Forest) (τ : Answers)

/-- What one list of steps after another leads to. -/
theorem reach_append (steps rest : List Step) (i : NodeId) :
    f.reach τ (steps ++ rest) i = (f.reach τ steps i).flatMap (f.reach τ rest) := by
  induction steps generalizing i with
  | nil => exact (List.flatMap_singleton _ i).symm
  | cons s steps ih =>
    rw [List.cons_append, reach, reach, List.flatMap_assoc]
    exact congrArg ((f.passing τ s i).flatMap ·) (funext ih)

/-- The tests of one list of steps after another are those of the first, and those of the second
below each node that the first leads to. -/
theorem mem_depthTests_append {steps rest : List Step} {i : NodeId} {t : Test} :
    t ∈ f.depthTests τ (steps ++ rest) i ↔
      t ∈ f.depthTests τ steps i ∨ ∃ c ∈ f.reach τ steps i, t ∈ f.depthTests τ rest c := by
  induction steps generalizing i with
  | nil => simp [depthTests, reach]
  | cons s steps ih =>
    simp only [List.cons_append, depthTests, reach, List.mem_append, List.mem_flatMap, ih]
    constructor
    · rintro (hfirst | ⟨c, hc, htests | ⟨d, hd, ht⟩⟩)
      · exact Or.inl (Or.inl hfirst)
      · exact Or.inl (Or.inr ⟨c, hc, htests⟩)
      · exact Or.inr ⟨d, ⟨c, hc, hd⟩, ht⟩
    · rintro ((hfirst | ⟨c, hc, htests⟩) | ⟨d, ⟨c, hc, hd⟩, ht⟩)
      · exact Or.inl hfirst
      · exact Or.inr ⟨c, hc, Or.inl htests⟩
      · exact Or.inr ⟨c, hc, Or.inr ⟨d, hd, ht⟩⟩

end Forest

/-- A path can be cut anywhere between its ends. -/
theorem Path.exists_append (r : Path) {k : Nat} (hpos : 0 < k) (hlt : k < r.length) :
    ∃ p q : Path, p.steps = r.steps.take k ∧ q.steps = r.steps.drop k ∧ r = p ++ q := by
  have hnonempty (ss : List Step) (h : 0 < ss.length) : ∃ p : Path, p.steps = ss := by
    cases ss with
    | nil => exact absurd h (Nat.lt_irrefl 0)
    | cons s rest => exact ⟨⟨s, rest⟩, rfl⟩
  rw [length] at hlt
  obtain ⟨p, hp⟩ := hnonempty (r.steps.take k) (by rw [List.length_take]; omega)
  obtain ⟨q, hq⟩ := hnonempty (r.steps.drop k) (by rw [List.length_drop]; omega)
  refine ⟨p, q, hp, hq, ?_⟩
  have hsteps : r.steps = (p ++ q).steps := by
    rw [steps_append, hp, hq, List.take_append_drop]
  exact Option.some.inj
    ((ofSteps?_eq_some_iff.2 rfl).symm.trans (ofSteps?_eq_some_iff.2 hsteps))

variable {σ : Setting}

/-- A selection returns what is reached, if no test on the way raises anything. -/
theorem Engine.outcome_select_eq_ok_iff (hσ : σ.judge.Steady) (e : Engine) {i : NodeId} {p : Path}
    {w : World} {found : List NodeId} :
    outcome (e.select σ i p) w = .ok found ↔
      (∀ t ∈ σ.forest.depthTests σ.answers p.steps i, σ.complaint? t = none) ∧
        found = σ.forest.reach σ.answers p.steps i := by
  rw [e.outcome_select_eq hσ, ← List.findSome?_eq_none_iff]
  have hiff := e.findSome?_tests_eq_none_iff ⟨.recursive, false⟩ σ.forest σ.answers i p σ.complaint?
  have htests : Engine.tests ⟨.recursive, false⟩ σ.forest σ.answers i p =
      σ.forest.depthTests σ.answers p.steps i := rfl
  rw [← htests, ← hiff]
  cases (e.tests σ.forest σ.answers i p).findSome? σ.complaint? with
  | none => simp [eq_comm]
  | some r => simp

/-- A selection by one path after another is a selection by the second from each element that the
first finds. -/
theorem Engine.outcome_select_append (hσ : σ.judge.Steady) (e e₁ e₂ : Engine) {i : NodeId}
    {p q : Path} {w w₁ : World} {v : NodeId → World} {found : List NodeId} :
    outcome (e.select σ i (p ++ q)) w = .ok found ↔
      ∃ mid, ∃ parts : NodeId → List NodeId, outcome (e₁.select σ i p) w₁ = .ok mid ∧
        (∀ c ∈ mid, outcome (e₂.select σ c q) (v c) = .ok (parts c)) ∧
        found = mid.flatMap parts := by
  simp only [outcome_select_eq_ok_iff hσ, Path.steps_append, Forest.mem_depthTests_append,
    Forest.reach_append]
  constructor
  · rintro ⟨hquiet, rfl⟩
    refine ⟨_, σ.forest.reach σ.answers q.steps, ⟨fun t ht ↦ hquiet t (Or.inl ht), rfl⟩,
      fun c hc ↦ ⟨fun t ht ↦ hquiet t (Or.inr ⟨c, hc, ht⟩), rfl⟩, rfl⟩
  · rintro ⟨mid, parts, ⟨hfirst, rfl⟩, hparts, rfl⟩
    refine ⟨fun t ht ↦ ?_, List.flatMap_congr fun c hc ↦ (hparts c hc).2⟩
    rcases ht with ht | ⟨c, hc, ht⟩
    · exact hfirst t ht
    · exact (hparts c hc).1 t ht

/-! ### Going through what was found -/

theorem Engine.steady_select (hσ : σ.judge.Steady) (e : Engine) (i : NodeId) (p : Path) :
    SelectM.Steady (e.select σ i p) := by
  intro w w'
  rw [e.outcome_select_eq hσ, e.outcome_select_eq hσ]

theorem exists_run_iff_outcome {α : Type} {x : SelectM α} {a : α} {w : World} :
    (∃ w', x.run w = .ok a w') ↔ outcome x w = .ok a :=
  ⟨fun ⟨_, h⟩ ↦ outcome_of_ok h, exists_ok_of_outcome⟩

theorem outcome_bind_eq_ok_iff {α β : Type} {x : SelectM α} {g : α → SelectM β}
    (hg : ∀ a, SelectM.Steady (g a)) {b : β} {w : World} (v : World) :
    outcome (x >>= g) w = .ok b ↔ ∃ a, outcome x w = .ok a ∧ outcome (g a) v = .ok b := by
  cases hx : x.run w with
  | ok a w' =>
    rw [outcome_bind_of_ok hx, outcome_of_ok hx, hg a w' v]
    constructor
    · exact fun h ↦ ⟨a, rfl, h⟩
    · rintro ⟨_, heq, h⟩
      cases heq
      exact h
  | error r w' =>
    rw [outcome_bind_of_error hx, outcome_of_error hx]
    simp

section Gather

variable {g : NodeId → SelectM (List NodeId)} (hg : ∀ c, SelectM.Steady (g c))

include hg

theorem steady_gather (is : List NodeId) : SelectM.Steady (gather g is) := by
  induction is with
  | nil => exact Steady.pure []
  | cons i rest ih => exact (hg i).bind fun found ↦ ih.bind fun more ↦ Steady.pure (found ++ more)

/-- Steady computations for the nodes of a list give their parts one after the other. -/
theorem outcome_gather_cons {i : NodeId} {rest found : List NodeId} {w : World} :
    outcome (gather g (i :: rest)) w = .ok found ↔
      ∃ first more, outcome (g i) w = .ok first ∧ outcome (gather g rest) w = .ok more ∧
        found = first ++ more := by
  rw [gather, outcome_bind_eq_ok_iff
    (fun found ↦ (steady_gather hg rest).bind fun more ↦ Steady.pure (found ++ more)) w]
  refine exists_congr fun first ↦ ?_
  rw [outcome_bind_eq_ok_iff (fun more ↦ Steady.pure (first ++ more)) w]
  constructor
  · rintro ⟨hfirst, more, hmore, heq⟩
    cases heq
    exact ⟨more, hfirst, hmore, rfl⟩
  · rintro ⟨more, hfirst, hmore, rfl⟩
    exact ⟨hfirst, more, hmore, rfl⟩

/-- Steady computations for the nodes of a list return if each of them does, and give the parts in
order. -/
theorem outcome_gather_eq_ok_iff {is found : List NodeId} {w : World} {v : NodeId → World} :
    outcome (gather g is) w = .ok found ↔
      ∃ parts : NodeId → List NodeId, (∀ c ∈ is, outcome (g c) (v c) = .ok (parts c)) ∧
        found = is.flatMap parts := by
  induction is generalizing found with
  | nil =>
    rw [gather]
    constructor
    · intro h
      cases h
      exact ⟨fun _ ↦ [], List.forall_mem_nil _, rfl⟩
    · rintro ⟨parts, -, rfl⟩
      rfl
  | cons i rest ih =>
    rw [outcome_gather_cons hg]
    constructor
    · rintro ⟨first, more, hfirst, hmore, rfl⟩
      obtain ⟨parts, hparts, rfl⟩ := ih.1 hmore
      rw [hg i w (v i)] at hfirst
      -- the node may be in the rest of the list, too, with the same part
      refine ⟨Function.update parts i first, List.forall_mem_cons.2 ⟨?_, fun c hc ↦ ?_⟩, ?_⟩
      · rw [hfirst, Function.update_self]
      · by_cases hci : c = i
        · rw [hci, hfirst, Function.update_self]
        · rw [hparts c hc, Function.update_of_ne hci]
      · rw [List.flatMap_cons, Function.update_self]
        refine congrArg (first ++ ·) (List.flatMap_congr fun c hc ↦ ?_)
        by_cases hci : c = i
        · subst hci
          rw [Function.update_self]
          exact Except.ok.inj ((hparts c hc).symm.trans hfirst)
        · rw [Function.update_of_ne hci]
    · rintro ⟨parts, hparts, rfl⟩
      rw [List.forall_mem_cons] at hparts
      refine ⟨parts i, rest.flatMap parts, ?_, ih.2 ⟨parts, hparts.2, rfl⟩, rfl⟩
      rw [hg i w (v i)]
      exact hparts.1

end Gather

/-! ### Paths from literals -/

/-- What comes out of a computation that makes a literal first. -/
theorem outcome_build_bind {α β : Type} {b : Build α} {a : α} {g : α → SelectM β} {w : World}
    {s : BuildState} (hb : b.run w.building = .ok a s) (hg : SelectM.Steady (g a)) (v : World) :
    outcome (build b >>= g) w = outcome (g a) v := by
  have hrun : (build b).run w = .ok a
      { w with
        events := w.events ++ s.notices.map Event.notice
        building := { s with notices := #[] } } := by
    have hb' : b w.building = .ok a s := hb
    rw [EStateM.run, build, hb']
  rw [outcome_bind_of_ok hrun]
  exact hg _ v

namespace Engine

variable (hσ : σ.judge.Steady) (e : Engine) (i : NodeId)

include hσ

/-- A selection by a literal that reads as a path is a selection by the path. -/
theorem outcome_selectLiteral {l : Literal} {q : Path} (h : l.Continues q) (w v : World) :
    outcome (e.selectLiteral σ i l) w = outcome (e.select σ i q) v := by
  obtain ⟨s, hs⟩ := h.run_asPath w.building
  exact outcome_build_bind hs (e.steady_select hσ i q) v

/-- A selection by a path that is continued with a literal is one by one path after the other. -/
theorem outcome_select_plus (id : Nat) (p : Path) {l : Literal} {q : Path} (h : l.Continues q)
    (w v : World) :
    outcome (build (Literal.plus (.path id (some p)) l) >>= e.selectLiteral σ i) w =
      outcome (e.select σ i (p ++ q)) v := by
  obtain ⟨id', s, hs⟩ := h.run_plus id p w.building
  have hliteral (w v : World) := e.outcome_selectLiteral hσ i (.path id' (p ++ q)) w v
  have hsteady : SelectM.Steady (e.selectLiteral σ i (.path id' (some (p ++ q)))) := by
    intro w w'
    rw [hliteral w v, hliteral w' v]
  rw [outcome_build_bind hs hsteady v, hliteral v v]

end Engine

/-! ### Selecting in stages -/

/-- **To select by one path after another is to select in two stages.** A selection by `p ++ q`
returns just when the one by `p` does and the one by `q` from each element found; it finds what
these find, in order. The same holds where `q` is written as a list or tuple of literals. So a path
may be cut anywhere between its ends, and the selection by it made in two stages. Engines and worlds
may differ. -/
theorem select_in_stages (hσ : σ.judge.Steady) (e e₁ e₂ : Engine) (i : NodeId) (w w₁ : World)
    (v : NodeId → World) :
    (∀ (p q : Path) (found : List NodeId),
      (∃ w', (e.select σ i (p ++ q)).run w = .ok found w') ↔
        ∃ mid, ∃ parts : NodeId → List NodeId, (∃ w', (e₁.select σ i p).run w₁ = .ok mid w') ∧
          (∀ c ∈ mid, ∃ w', (e₂.select σ c q).run (v c) = .ok (parts c) w') ∧
          found = mid.flatMap parts) ∧
      (∀ (id : Nat) (p : Path) (l : Literal) (q : Path) (found : List NodeId), l.Continues q →
        ((∃ w', (build (Literal.plus (.path id (some p)) l) >>= e.selectLiteral σ i).run w =
            .ok found w') ↔
          ∃ mid, ∃ parts : NodeId → List NodeId, (∃ w', (e₁.select σ i p).run w₁ = .ok mid w') ∧
            (∀ c ∈ mid, ∃ w', (e₂.selectLiteral σ c l).run (v c) = .ok (parts c) w') ∧
            found = mid.flatMap parts)) ∧
      ∀ (r : Path) (k : Nat), 0 < k → k < r.length →
        ∃ p q : Path, p.steps = r.steps.take k ∧ q.steps = r.steps.drop k ∧
          ∀ found : List NodeId, (∃ w', (e.select σ i r).run w = .ok found w') ↔
            ∃ w', (e₁.select σ i p >>= gather (e₂.select σ · q)).run w₁ = .ok found w' := by
  -- literals and cuts both come down to two paths one after the other
  have hstages (p q : Path) (found : List NodeId) :
      outcome (e.select σ i (p ++ q)) w = .ok found ↔
        ∃ mid, ∃ parts : NodeId → List NodeId, outcome (e₁.select σ i p) w₁ = .ok mid ∧
          (∀ c ∈ mid, outcome (e₂.select σ c q) (v c) = .ok (parts c)) ∧
          found = mid.flatMap parts := e.outcome_select_append hσ e₁ e₂
  simp only [exists_run_iff_outcome]
  refine ⟨hstages, fun id p l q found hl ↦ ?_, fun r k hpos hlt ↦ ?_⟩
  · have hliteral (c : NodeId) : outcome (e₂.selectLiteral σ c l) (v c) =
        outcome (e₂.select σ c q) (v c) := e₂.outcome_selectLiteral hσ c hl (v c) (v c)
    rw [e.outcome_select_plus hσ i id p hl w w, hstages]
    simp only [hliteral]
  · obtain ⟨p, q, hp, hq, rfl⟩ := r.exists_append hpos hlt
    have hsteady (c : NodeId) : SelectM.Steady (e₂.select σ c q) := e₂.steady_select hσ c q
    refine ⟨p, q, hp, hq, fun found ↦ ?_⟩
    rw [hstages, outcome_bind_eq_ok_iff (fun mid ↦ steady_gather hsteady mid) w₁]
    refine exists_congr fun mid ↦ ?_
    rw [outcome_gather_eq_ok_iff hsteady (v := v), exists_and_left]

/-- In the two branches, a step that both of their first nodes pass, continued with a list that
holds a name: the second stage finds one element from the first node and none from the other. -/
theorem select_in_stages_branches :
    branchesSetting.judge.Steady ∧ (Literal.list [.text "c"]).Continues ⟨.name "c", []⟩ ∧
      (∃ w', ((Engine.mk .recursive false).select branchesSetting 0 ⟨branchesPath.head, []⟩).run
        default = .ok [1, 2] w') ∧
      (∃ w', ((Engine.mk .recursive true).selectLiteral branchesSetting 1
        (.list [.text "c"])).run default = .ok [3] w') ∧
      (∃ w', ((Engine.mk .recursive true).selectLiteral branchesSetting 2
        (.list [.text "c"])).run default = .ok [] w') ∧
      ∃ w', (build (Literal.plus (.path 0 (some ⟨branchesPath.head, []⟩)) (.list [.text "c"])) >>=
        (Engine.mk .iterative false).selectLiteral branchesSetting 0).run default = .ok [3] w' := by
  have hsteady : branchesSetting.judge.Steady := by
    intro p i w w'
    dsimp only [branchesSetting]
    split
    · rfl
    · rfl
  have hread : (asSteps [.text "c"]).run default = .ok [.name "c"] default := by
    simp [asSteps, asStep, nameTest]
  have hcontinues : (Literal.list [.text "c"]).Continues ⟨.name "c", []⟩ := .list hread
  have hfirst := exists_ok_of_outcome (show outcome ((Engine.mk .recursive false).select
    branchesSetting 0 ⟨branchesPath.head, []⟩) default = .ok [1, 2] from rfl)
  have hsecond (c : NodeId) (found : List NodeId)
      (h : outcome ((Engine.mk .recursive true).select branchesSetting c ⟨.name "c", []⟩) default =
        .ok found) :
      ∃ w', ((Engine.mk .recursive true).selectLiteral branchesSetting c
        (.list [.text "c"])).run default = .ok found w' :=
    exists_ok_of_outcome ((Engine.outcome_selectLiteral hsteady _ c hcontinues _ default).trans h)
  have hone := hsecond 1 [3] rfl
  have htwo := hsecond 2 [] rfl
  refine ⟨hsteady, hcontinues, hfirst, hone, htwo, ?_⟩
  obtain ⟨-, hliteral, -⟩ := select_in_stages hsteady ⟨.iterative, false⟩ ⟨.recursive, false⟩
    ⟨.recursive, true⟩ 0 default default fun _ ↦ default
  refine (hliteral 0 _ _ _ [3] hcontinues).2
    ⟨[1, 2], fun c ↦ if c = 1 then [3] else [], hfirst, ?_, rfl⟩
  rw [List.forall_mem_cons, List.forall_mem_singleton]
  exact ⟨hone, htwo⟩

end TreePath
