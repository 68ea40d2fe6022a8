import TreePath.Proofs.Selection.History
import TreePath.Proofs.Selection.Sorting

/-!
# The tests and calls of a selection, in order

A trace of a search lists what is recorded of each test as it is made, in the world that it is made
in. There is one function for each piece of the search, put together as the code is
(`Trace.andThen`); what is recorded of a test, given the number of its step, is a parameter.
Recording the test itself gives `Engine.trail`, and recording what happens in it gives the history
of `TreePath.Proofs.Selection.History` back (`searchTrace_stepHistory`), whose calls are those that
the selection makes directly (`Engine.directCalls`).

Under a steady judge, the trace of a search that returns goes through the tests of the engine's plan
(`filterMap_searchTrace`). So what is known of those tests is known of traces: which are made, that
none is repeated, and how the two ways differ (`tests_of_selections`).

A trace needs the world that each test is made in, since a judge may answer differently in another
one; so the functions take the world along and ask the computation itself what it comes to. For this
reason they are put together by `Trace.andThen` and not by recursion on the forest alone, and for
this reason the plan, which knows of no world, can only be compared with them once the answers are
fixed.
-/

namespace TreePath

open SelectM

/-! ### Traces -/

/-- What is recorded in a run, by the world it starts from. -/
abbrev Trace (β : Type) := World → List β

namespace Trace

variable {α β : Type}

/-- Nothing is recorded. -/
def none : Trace β := fun _ ↦ []

/-- What is recorded of a computation, and after it of what is done with its result. -/
def andThen (x : SelectM α) (T : Trace β) (K : α → Trace β) : Trace β := fun w ↦
  T w ++ match upshot x w with
    | .ok a => K a (leave x w)
    | .error _ => []

/-- If a computation returns, what is done with its result is recorded after it. -/
theorem andThen_of_upshot {x : SelectM α} {a : α} {w : World} (h : upshot x w = .ok a)
    (T : Trace β) (K : α → Trace β) : andThen x T K w = T w ++ K a (leave x w) := by
  rw [andThen, h]

end Trace

section Traces

variable {β : Type} (σ : Setting) (record : Nat → Test → Trace β)

/-- What is recorded of the tests of step number `k` on those nodes of a list that are elements. -/
def amongTrace (k : Nat) (s : Step) : List NodeId → Trace β
  | [] => .none
  | i :: rest =>
    if σ.forest.isElement i then
      .andThen (matchesStep σ i s) (record k ⟨i, s⟩) fun _ ↦ amongTrace k s rest
    else amongTrace k s rest

/-- What is recorded of computations for the nodes of a list. -/
def gatherTrace (g : NodeId → SelectM (List NodeId)) (T : NodeId → Trace β) :
    List NodeId → Trace β
  | [] => .none
  | i :: rest => .andThen (g i) (T i) fun _ ↦ gatherTrace g T rest

/-- What is recorded of a search that goes depth first, where the first step has number `k`. -/
def descendTrace : Nat → List Step → NodeId → Trace β
  | _, [], _ => .none
  | k, s :: rest, i =>
    .andThen (candidates σ s i) (amongTrace σ record k s (σ.forest.children i))
      (gatherTrace (descend σ rest) (descendTrace (k + 1) rest))

/-- What is recorded of a search that goes level by level, where the first step has number `k`. -/
def levelsTrace : Nat → List Step → List NodeId → Trace β
  | _, [], _ => .none
  | k, s :: rest, frontier =>
    .andThen (gather (candidates σ s) frontier)
      (gatherTrace (candidates σ s) (fun i ↦ amongTrace σ record k s (σ.forest.children i))
        frontier)
      fun next ↦ if next.isEmpty then .none else levelsTrace (k + 1) rest next

/-- What is recorded of the search of an engine. The first step has number zero. -/
def searchTrace (e : Engine) (i : NodeId) (p : Path) : Trace β :=
  match e.strategy with
  | .recursive => descendTrace σ record 0 p.steps i
  | .iterative => levelsTrace σ record 0 p.steps [i]

end Traces

/-- The call, if the happening is one. -/
def Happening.called? : Happening → Option (Predicate × NodeId)
  | call p i _ _ _ => some (p, i)
  | notice _ | test .. | selection .. => none

namespace Engine

/-- The tests that a selection makes, in order, each with the number of its step. -/
def trail (e : Engine) (σ : Setting) (i : NodeId) (p : Path) (w : World) : List (Nat × Test) :=
  searchTrace σ (fun k t _ ↦ [(k, t)]) e i p (e.opened w)

/-- The calls of predicates that a selection makes directly, in order. What happens inside them is
left to `J`. -/
def directCalls (e : Engine) (σ : Setting) (J : Predicate → NodeId → History) (i : NodeId)
    (p : Path) (w : World) : List (Predicate × NodeId) :=
  (searchHistory σ J e i p (e.opened w)).filterMap Happening.called?

end Engine

/-! ### Histories are traces -/

section Histories

variable {σ : Setting} {J : Predicate → NodeId → History}

theorem amongTrace_stepHistory (k : Nat) (s : Step) (is : List NodeId) :
    amongTrace σ (fun _ t ↦ stepHistory σ J t.node t.step) k s is = amongHistory σ J s is := by
  induction is with
  | nil => rfl
  | cons i rest ih =>
    rw [amongTrace, amongHistory, ih]
    rfl

theorem gatherTrace_eq_gatherHistory (g : NodeId → SelectM (List NodeId)) (H : NodeId → History)
    (is : List NodeId) : gatherTrace g H is = gatherHistory g H is := by
  induction is with
  | nil => rfl
  | cons i rest ih =>
    rw [gatherTrace, gatherHistory, ih]
    rfl

theorem descendTrace_stepHistory (k : Nat) (steps : List Step) (i : NodeId) :
    descendTrace σ (fun _ t ↦ stepHistory σ J t.node t.step) k steps i =
      descendHistory σ J steps i := by
  induction steps generalizing k i with
  | nil => rfl
  | cons s rest ih =>
    have hrest : descendTrace σ (fun _ t ↦ stepHistory σ J t.node t.step) (k + 1) rest =
        descendHistory σ J rest := funext fun i ↦ ih (k + 1) i
    rw [descendTrace, descendHistory, amongTrace_stepHistory, hrest]
    exact congrArg (Trace.andThen _ _) (funext (gatherTrace_eq_gatherHistory _ _))

theorem levelsTrace_stepHistory (k : Nat) (steps : List Step) (frontier : List NodeId) :
    levelsTrace σ (fun _ t ↦ stepHistory σ J t.node t.step) k steps frontier =
      levelsHistory σ J steps frontier := by
  induction steps generalizing k frontier with
  | nil => rfl
  | cons s rest ih =>
    rw [levelsTrace, levelsHistory, ← gatherTrace_eq_gatherHistory]
    simp only [amongTrace_stepHistory, ih]
    rfl

/-- The history of a search is the trace of what happens in its tests. -/
theorem searchTrace_stepHistory (e : Engine) (i : NodeId) (p : Path) :
    searchTrace σ (fun _ t ↦ stepHistory σ J t.node t.step) e i p = searchHistory σ J e i p := by
  unfold searchTrace searchHistory
  cases e.strategy with
  | recursive => exact descendTrace_stepHistory 0 p.steps i
  | iterative => exact levelsTrace_stepHistory 0 p.steps [i]

end Histories

/-! ### Traces of searches that return -/

theorem outcome_eq_ok_iff {α : Type} {x : SelectM α} {a : α} {w : World} :
    outcome x w = .ok a ↔ upshot x w = .ok a := by
  rw [outcome, upshot]
  cases x.run w with
  | ok b w' => rfl
  | error r w' => simp

/-- What returns was returned by its first part, and by what is done with the result. -/
theorem exists_upshot_of_bind {α β : Type} {x : SelectM α} {g : α → SelectM β} {b : β} {w : World}
    (h : upshot (x >>= g) w = .ok b) :
    ∃ a, upshot x w = .ok a ∧ upshot (g a) (leave x w) = .ok b := by
  rw [upshot_bind] at h
  cases hx : upshot x w with
  | ok a =>
    rw [hx] at h
    exact ⟨a, rfl, h⟩
  | error r =>
    rw [hx] at h
    cases h

variable {σ : Setting}

/-- A computation that follows a plan returns the plan's result. -/
theorem Planned.eq_of_upshot {α : Type} {x : SelectM α} {tests : Answers → List Test}
    {result : Answers → α} (hx : Planned σ x tests result) (hσ : σ.judge.Steady) {a : α} {w : World}
    (h : upshot x w = .ok a) : a = result σ.answers := by
  have houtcome := hx.outcome_eq hσ w
  rw [outcome_eq_ok_iff.2 h] at houtcome
  split at houtcome
  · cases houtcome
    rfl
  · cases houtcome

section Traced

variable {β γ : Type} {record : Nat → Test → Trace β} {g : β → Option γ}
  {seen : Nat → Test → List γ}
  (hseen : ∀ k t w, (record k t w).filterMap g = seen k t)

include hseen

/-- Among the nodes of a list, the tests on elements are recorded. -/
theorem filterMap_amongTrace {k : Nat} {s : Step} {is found : List NodeId} {w : World}
    (h : upshot (candidatesAmong σ s is) w = .ok found) :
    (amongTrace σ record k s is w).filterMap g =
      (is.filter σ.forest.isElement).flatMap fun c ↦ seen k ⟨c, s⟩ := by
  induction is generalizing w found with
  | nil => rfl
  | cons i rest ih =>
    rw [candidatesAmong] at h
    rw [amongTrace]
    cases hi : σ.forest.isElement i with
    | false =>
      rw [hi, if_neg Bool.false_ne_true] at h
      rw [if_neg Bool.false_ne_true, List.filter_cons_of_neg (by simp [hi])]
      exact ih h
    | true =>
      rw [hi, if_pos rfl] at h
      obtain ⟨b, hb, h⟩ := exists_upshot_of_bind h
      -- whatever the answer, the rest of the list is gone through
      have hrest : ∃ found', upshot (candidatesAmong σ s rest) (leave (matchesStep σ i s) w) =
          .ok found' := by
        cases b with
        | true =>
          obtain ⟨found', hfound', -⟩ := exists_upshot_of_bind h
          exact ⟨found', hfound'⟩
        | false => exact ⟨found, h⟩
      obtain ⟨found', hfound'⟩ := hrest
      rw [if_pos rfl, Trace.andThen_of_upshot hb, List.filterMap_append, hseen, ih hfound',
        List.filter_cons_of_pos hi, List.flatMap_cons]

omit hseen in
/-- What is recorded for several nodes is recorded one node after the other. -/
theorem filterMap_gatherTrace {search : NodeId → SelectM (List NodeId)} {T : NodeId → Trace β}
    {Q : NodeId → List γ} {is : List NodeId} {found : List NodeId} {w : World}
    (hT : ∀ i ∈ is, ∀ w found, upshot (search i) w = .ok found → (T i w).filterMap g = Q i)
    (h : upshot (gather search is) w = .ok found) :
    (gatherTrace search T is w).filterMap g = is.flatMap Q := by
  induction is generalizing w found with
  | nil => rfl
  | cons i rest ih =>
    rw [gather] at h
    obtain ⟨first, hfirst, h⟩ := exists_upshot_of_bind h
    obtain ⟨more, hmore, -⟩ := exists_upshot_of_bind h
    have hrest := ih (fun j hj ↦ hT j (List.mem_cons_of_mem _ hj)) hmore
    rw [gatherTrace, Trace.andThen_of_upshot hfirst, List.filterMap_append,
      hT i List.mem_cons_self w first hfirst, hrest, List.flatMap_cons]

variable (hf : σ.forest.WellLinked)

include hf

/-- The number of a step, counted from a node of a level, and the level of what it is tested on. -/
theorem filterMap_childTrace {k n : Nat} {s : Step} {i : NodeId} {found : List NodeId} {w : World}
    (hi : σ.forest.level i = n) (h : upshot (candidates σ s i) w = .ok found) :
    (amongTrace σ record k s (σ.forest.children i) w).filterMap g =
      (σ.forest.childTests s i).flatMap fun t ↦
        seen (k + (σ.forest.level t.node - (n + 1))) t := by
  rw [filterMap_amongTrace hseen h, Forest.childTests, List.flatMap_map]
  refine List.flatMap_congr fun c hc ↦ ?_
  rw [hf.level_of_mem_children (List.mem_of_mem_filter hc), hi, Nat.sub_self, Nat.add_zero]

variable (hσ : σ.judge.Steady)

include hσ

/-- Depth first, the tests are recorded that are made depth first. The number that is recorded with
a test is the number of levels between its node and the start. -/
theorem filterMap_descendTrace {steps : List Step} {k n : Nat} {i : NodeId} {found : List NodeId}
    {w : World} (hi : σ.forest.level i = n) (h : upshot (descend σ steps i) w = .ok found) :
    (descendTrace σ record k steps i w).filterMap g =
      (σ.forest.depthTests σ.answers steps i).flatMap fun t ↦
        seen (k + (σ.forest.level t.node - (n + 1))) t := by
  induction steps generalizing k n i w found with
  | nil => rfl
  | cons s rest ih =>
    rw [descend] at h
    obtain ⟨next, hnext, h⟩ := exists_upshot_of_bind h
    obtain rfl := (planned_candidates s i).eq_of_upshot hσ hnext
    have hchildren := filterMap_childTrace (k := k) hseen hf hi hnext
    -- one level down, steps and levels are both counted from one more
    have hbelow : ∀ c ∈ σ.forest.passing σ.answers s i, ∀ w found,
        upshot (descend σ rest c) w = .ok found →
          (descendTrace σ record (k + 1) rest c w).filterMap g =
            (σ.forest.depthTests σ.answers rest c).flatMap fun t ↦
              seen (k + (σ.forest.level t.node - (n + 1))) t := by
      intro c hc w found hfound
      have hlevel : σ.forest.level c = n + 1 := by
        rw [hf.level_of_mem_children (Forest.mem_passing_iff.1 hc).1, hi]
      rw [ih hlevel hfound]
      refine List.flatMap_congr fun t ht ↦ ?_
      obtain ⟨j, hj⟩ := Forest.exists_mem_testsAt ht
      have hdeep := hf.level_of_mem_testsAt hj
      congr 1
      omega
    rw [descendTrace, Trace.andThen_of_upshot hnext, List.filterMap_append, hchildren,
      filterMap_gatherTrace hbelow h, Forest.depthTests, List.flatMap_append, List.flatMap_assoc]

/-- Level by level, the tests are recorded that are made level by level, with the same numbers. -/
theorem filterMap_levelsTrace {steps : List Step} {k n : Nat} {level found : List NodeId}
    {w : World} (hlevel : ∀ x ∈ level, σ.forest.level x = n)
    (h : upshot (levels σ steps level) w = .ok found) :
    (levelsTrace σ record k steps level w).filterMap g =
      (σ.forest.levelTests σ.answers steps level).flatMap fun t ↦
        seen (k + (σ.forest.level t.node - (n + 1))) t := by
  induction steps generalizing k n level w found with
  | nil => rfl
  | cons s rest ih =>
    rw [levels] at h
    obtain ⟨next, hnext, h⟩ := exists_upshot_of_bind h
    have hresult := (planned_gather (planned_candidates s) level).eq_of_upshot hσ hnext
    have hchildren : ∀ i ∈ level, ∀ w found, upshot (candidates σ s i) w = .ok found →
        (amongTrace σ record k s (σ.forest.children i) w).filterMap g =
          (σ.forest.childTests s i).flatMap fun t ↦
            seen (k + (σ.forest.level t.node - (n + 1))) t :=
      fun i hi w found hfound ↦ filterMap_childTrace hseen hf (hlevel i hi) hfound
    -- an empty level ends the search, and there are no tests below it to record
    have hbelow : ((if next.isEmpty then Trace.none else levelsTrace σ record (k + 1) rest next)
        (leave (gather (candidates σ s) level) w)).filterMap g =
          (σ.forest.levelTests σ.answers rest next).flatMap fun t ↦
            seen (k + (σ.forest.level t.node - (n + 1))) t := by
      cases hempty : next.isEmpty with
      | true =>
        rw [List.isEmpty_iff.1 hempty, σ.forest.levelTests_nil]
        rfl
      | false =>
        rw [hempty, if_neg Bool.false_ne_true] at h
        have hnextlevel : ∀ c ∈ next, σ.forest.level c = n + 1 := by
          intro c hc
          rw [hresult] at hc
          obtain ⟨x, hx, hc⟩ := List.mem_flatMap.1 hc
          rw [hf.level_of_mem_children (Forest.mem_passing_iff.1 hc).1, hlevel x hx]
        rw [if_neg Bool.false_ne_true, ih hnextlevel h]
        refine List.flatMap_congr fun t ht ↦ ?_
        have hdeep := (hf.pairwise_levelTests rest hnextlevel).1 t ht
        congr 1
        omega
    rw [levelsTrace, Trace.andThen_of_upshot hnext, List.filterMap_append,
      filterMap_gatherTrace hchildren hnext, hbelow, Forest.levelTests, List.flatMap_append,
      List.flatMap_assoc, ← hresult]

/-- The trace of a search that returns goes through the tests of its engine. -/
theorem filterMap_searchTrace {e : Engine} {i : NodeId} {p : Path} {found : List NodeId}
    {w : World} (h : upshot (e.find σ i p) w = .ok found) :
    (searchTrace σ record e i p w).filterMap g =
      (e.tests σ.forest σ.answers i p).flatMap fun t ↦
        seen (σ.forest.depthBelow i t.node - 1) t := by
  have hnumber (t : Test) : 0 + (σ.forest.level t.node - (σ.forest.level i + 1)) =
      σ.forest.depthBelow i t.node - 1 := by
    rw [Forest.depthBelow]
    omega
  simp only [← hnumber]
  unfold Engine.find at h
  unfold searchTrace Engine.tests
  cases hstrategy : e.strategy with
  | recursive =>
    rw [hstrategy] at h
    exact filterMap_descendTrace hseen hf hσ rfl h
  | iterative =>
    rw [hstrategy] at h
    exact filterMap_levelsTrace hseen hf hσ
      (fun x hx ↦ congrArg σ.forest.level (List.mem_singleton.1 hx)) h

end Traced

end TreePath
