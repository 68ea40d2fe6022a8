import TreePath.Proofs.Selection.Chains
import TreePath.Proofs.Selection.Deciding
import TreePath.Proofs.Selection.Interchange
import TreePath.Proofs.Selection.Staging

/-!
# Plain paths

A path is plain if no predicate and no step of unknown kind occurs in it, at any depth of its
conjunctions (`Path.Plain`). On an element, a test of a plain step does nothing to the world and
raises nothing: it answers by the name and the attributes of the element (`Content.suits`), whatever
the judge (`matchesStep_eq_pure`). So a selection by a plain path returns what is reached under
these answers (`Forest.NamedTo.selects`), and it is the same for every engine, judge, clock and
world (`Forest.Selects`); from here on nothing but forests is spoken of.

Elements need only be looked at as deep as the path has steps. A node of the element kind that has
no name, where it is within that depth, would end the selection; `Forest.NamedTo` says that there is
none. Where there is one, it still depends on the forest only whether the selection returns, and
what (`Forest.selects_of_outcome`): a judge who always says no, and a clock that stands still, will
do (`Forest.still`).
-/

namespace TreePath

open SelectM

/-! ### Plain steps -/

/-- A step made of tests for names and attributes, and of conjunctions. -/
inductive Step.Plain : Step → Prop
  /-- A test for a name. -/
  | name (wanted : String) : Plain (.name wanted)
  /-- A test for attributes. -/
  | attributes (wanted : Attributes) : Plain (.attributes wanted)
  /-- A conjunction of such steps. -/
  | all {members : List Step} (h : ∀ m ∈ members, Plain m) : Plain (.all members)

/-- A path of plain steps. -/
def Path.Plain (p : Path) : Prop := ∀ s ∈ p.steps, s.Plain

namespace Content

/-- Whether an element has the name or the attributes that a single test asks for. -/
def has : Content → Step → Bool
  | element name _, .name wanted => name == wanted
  | element _ attributes, .attributes wanted => wanted.within attributes
  | _, _ => false

/-- Whether an element has all that the leaves of a step ask for. -/
def suits (c : Content) (s : Step) : Bool := s.leaves.all c.has

theorem suits_name (name : String) (attributes : Attributes) (wanted : String) :
    (element name attributes).suits (.name wanted) = (name == wanted) := by
  rw [suits, Step.leaves_eq_self (by simp), List.all_cons, List.all_nil, Bool.and_true, has]

theorem suits_attributes (name : String) (attributes wanted : Attributes) :
    (element name attributes).suits (.attributes wanted) = wanted.within attributes := by
  rw [suits, Step.leaves_eq_self (by simp), List.all_cons, List.all_nil, Bool.and_true, has]

theorem suits_all (c : Content) (members : List Step) :
    c.suits (.all members) = members.all c.suits := by
  rw [suits, Step.leaves_all, List.all_flatMap]
  rfl

end Content

section Tests

variable {σ : Setting} {i : NodeId} {name : String} {attributes : Attributes}

/-- A test of a plain step on an element answers by what the element is, and does nothing else. -/
theorem matchesStep_eq_pure {s : Step} (hs : s.Plain)
    (hi : σ.forest.content i = .element name attributes) :
    matchesStep σ i s = pure ((σ.forest.content i).suits s) := by
  induction hs with
  | name wanted =>
    rw [matchesStep, hi, Content.suits_name]
    rfl
  | attributes wanted =>
    rw [matchesStep, hi, Content.suits_attributes]
    rfl
  | @all members _ ih =>
    rw [matchesStep, Content.suits_all]
    clear * - ih
    induction members with
    | nil =>
      rw [matchesAll]
      rfl
    | cons m rest ihrest =>
      rw [List.forall_mem_cons] at ih
      rw [matchesAll, ih.1, pure_bind, List.all_cons, ihrest ih.2]
      cases (σ.forest.content i).suits m <;> rfl

end Tests

/-! ### Plans whose tests do nothing -/

section Plans

variable {α : Type} {σ : Setting} {τ : Answers}

/-- A plan whose tests do nothing but answer does nothing but come to its result. -/
theorem Plan.run_eq_pure {P : Plan α} (h : ∀ t ∈ P.tests τ, t.run σ = pure (τ t)) :
    P.run σ = pure (P.result τ) := by
  induction P with
  | done a => rfl
  | ask t next ih =>
    rw [tests, List.forall_mem_cons] at h
    rw [run, h.1, pure_bind, ih (τ t) h.2, result]

/-- So does a computation that follows such a plan. -/
theorem Planned.eq_pure {x : SelectM α} {tests : Answers → List Test} {result : Answers → α}
    (hx : Planned σ x tests result) (h : ∀ t ∈ tests τ, t.run σ = Pure.pure (τ t)) :
    x = Pure.pure (result τ) := by
  obtain ⟨P, rfl, rfl, rfl⟩ := hx
  exact Plan.run_eq_pure h

end Plans

/-! ### Selections by plain paths -/

namespace Forest

variable (f : Forest)

/-- The answers that elements give themselves. -/
def answers : Answers := fun t ↦ (f.content t.node).suits t.step

/-- Down to so many levels below a node, what is of the element kind is an element with a name. -/
def NamedTo : Nat → NodeId → Prop
  | 0, _ => True
  | k + 1, i => ∀ c ∈ f.elementChildren i, (f.content c).isNamed = true ∧ NamedTo k c

/-- A selection by a path from a node returns these nodes, whatever the engine, the clock, the judge
and the world. -/
def Selects (i : NodeId) (p : Path) (found : List NodeId) : Prop :=
  ∀ (e : Engine) (clock : Nat → Rat) (judge : Judge) (w : World),
    ∃ w', (e.select ⟨f, clock, judge⟩ i p).run w = .ok found w'

variable {f}

/-- Only nodes of the forest can lack a name. -/
theorem isNamed_of_lt_size (h : ∀ i < f.size, (f.content i).isNamed = true) (i : NodeId) :
    (f.content i).isNamed = true := by
  by_cases hi : i < f.size
  · exact h i hi
  · rw [content, f.node_of_size_le (Nat.le_of_not_lt hi)]
    rfl

theorem namedTo_of_forall (h : ∀ i, (f.content i).isNamed = true) (k : Nat) (i : NodeId) :
    f.NamedTo k i := by
  induction k generalizing i with
  | zero => trivial
  | succ k ih => exact fun c _ ↦ ⟨h c, ih c⟩

/-- What a selection returns is determined. -/
theorem Selects.unique {i : NodeId} {p : Path} {found found' : List NodeId}
    (h : f.Selects i p found) (h' : f.Selects i p found') : found = found' := by
  obtain ⟨w, hw⟩ := h .standard (fun _ ↦ 0) (fun _ _ ↦ pure false) default
  obtain ⟨w', hw'⟩ := h' .standard (fun _ ↦ 0) (fun _ _ ↦ pure false) default
  cases hw.symm.trans hw'
  rfl

/-- Tests are made of the steps of the path, on elements within its depth. -/
theorem NamedTo.of_due {τ : Answers} {steps : List Step} {i : NodeId} {t : Test}
    (h : f.NamedTo steps.length i) (hdue : f.Due τ i steps t) :
    t.step ∈ steps ∧ ∃ name attributes, f.content t.node = .element name attributes := by
  induction hdue with
  | here hc helement =>
    obtain ⟨hnamed, -⟩ := h _ (List.mem_filter.2 ⟨hc, helement⟩)
    exact ⟨List.mem_cons_self, Content.exists_eq_element helement hnamed⟩
  | deeper hc helement _ _ ih =>
    obtain ⟨-, hbelow⟩ := h _ (List.mem_filter.2 ⟨hc, helement⟩)
    obtain ⟨hmem, hcontent⟩ := ih hbelow
    exact ⟨List.mem_cons_of_mem _ hmem, hcontent⟩

/-- **A selection by a plain path returns what is reached under the elements' own answers.** -/
theorem NamedTo.selects {i : NodeId} {p : Path} (h : f.NamedTo p.length i) (hp : p.Plain) :
    f.Selects i p (f.reach f.answers p.steps i) := by
  intro e clock judge w
  have hpure : e.find ⟨f, clock, judge⟩ i p = pure (f.reach f.answers p.steps i) := by
    refine (e.planned_find i p).eq_pure fun t ht ↦ ?_
    obtain ⟨hstep, name, attributes, hcontent⟩ := h.of_due (e.mem_tests_iff.1 ht)
    exact matchesStep_eq_pure (hp t.step hstep) hcontent
  exact Engine.exists_run_select_of_ok (by rw [hpure]; rfl)

end Forest

/-! ### Plain selections in any forest -/

/-- A test of a plain step reads nothing but what the node is. -/
theorem matchesStep_eq_of_content {σ σ' : Setting} {i : NodeId} {s : Step} (hs : s.Plain)
    (h : σ.forest.content i = σ'.forest.content i) : matchesStep σ i s = matchesStep σ' i s := by
  induction hs with
  | name wanted => rw [matchesStep, matchesStep, h]
  | attributes wanted => rw [matchesStep, matchesStep, h]
  | @all members _ ih =>
    rw [matchesStep, matchesStep]
    exact matchesAll_congr (List.forall₂_same.2 ih)

namespace Forest

/-- A forest with a judge who says no to everything, while no time passes. -/
def still (f : Forest) : Setting := ⟨f, fun _ ↦ 0, fun _ _ ↦ return false⟩

theorem steady_still (f : Forest) : f.still.judge.Steady := fun _ _ _ _ ↦ rfl

/-- What comes out of a plain selection depends on the forest only. -/
theorem outcome_select_still {σ : Setting} {p : Path} (hp : p.Plain) (e : Engine) (i : NodeId)
    (w : World) : outcome (e.select σ i p) w = outcome (e.select σ.forest.still i p) w := by
  have hcandidates : ∀ s ∈ p.steps, candidates σ s = candidates σ.forest.still s := by
    intro s hs
    exact candidates_eq_of_tests (fun _ ↦ rfl) (fun _ ↦ rfl) fun c ↦
      matchesStep_eq_of_content (hp s hs) rfl
  rw [e.outcome_select, e.outcome_select,
    e.find_eq_of_candidates i (List.forall₂_same.2 hcandidates)]

/-- A plain selection returns what is reached, unless a test on the way is a fault. -/
theorem outcome_select_eq_ok_iff_of_plain {σ : Setting} {p : Path} (hp : p.Plain) (e : Engine)
    {i : NodeId} {w : World} {found : List NodeId} :
    outcome (e.select σ i p) w = .ok found ↔
      (∀ t ∈ σ.forest.depthTests σ.forest.still.answers p.steps i,
        σ.forest.still.complaint? t = none) ∧
        found = σ.forest.reach σ.forest.still.answers p.steps i := by
  rw [outcome_select_still hp]
  exact e.outcome_select_eq_ok_iff σ.forest.steady_still

/-- A plain selection that returns once returns the same always. -/
theorem selects_of_outcome {f : Forest} {clock : Nat → Rat} {judge : Judge} {p : Path}
    (hp : p.Plain) {e : Engine} {i : NodeId} {w : World} {found : List NodeId}
    (h : outcome (e.select ⟨f, clock, judge⟩ i p) w = .ok found) : f.Selects i p found := by
  have hreached := (outcome_select_eq_ok_iff_of_plain hp e).1 h
  intro e' clock' judge' w'
  exact exists_ok_of_outcome ((outcome_select_eq_ok_iff_of_plain hp e').2 hreached)

end Forest

end TreePath
