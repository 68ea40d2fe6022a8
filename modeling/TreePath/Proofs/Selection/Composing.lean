import TreePath.Proofs.Selection.Course

/-!
# From calls to searches

A search is put together of calls of predicates, and its history is put together of theirs in the
same way. So what relates computations to their histories, holds of those that do nothing, and holds
of two in a row if it holds of each (`Composable`), holds of every search if it holds of the calls
(`Composable.holds_find`). On the way there is one lemma for each piece of the search; which
relation it is does not matter in any of them.

Two relations are used in this way: that what a computation does to the ledger is what its history
says (`TreePath.Proofs.Selection.Following`), and that what it does to the timesheet is
(`TreePath.Proofs.Selection.Timing`). Tests and searches raise nothing of their own but ordinary
faults, of nodes that lack something or of steps that are none; so it is asked of the relation for
these faults only, and whatever else is raised comes out of a call.
-/

namespace TreePath

open SelectM

/-- A relation between computations and histories that is put together as these are. -/
structure Composable (R : ∀ ⦃α : Type⦄, SelectM α → History → Prop) : Prop where
  /-- It holds of what returns at once. -/
  pure : ∀ {α : Type} (a : α), R (Pure.pure a : SelectM α) .none
  /-- It holds of what raises an ordinary fault at once. -/
  throw : ∀ {α : Type} {e : Fault}, e.Ordinary →
    R (MonadExcept.throw (.fault e) : SelectM α) .none
  /-- It holds of a computation and what is done with its result, if it holds of both. -/
  bind : ∀ {α β : Type} {x : SelectM α} {g : α → SelectM β} {H : History} {K : α → History},
    R x H → (∀ a, R (g a) (K a)) → R (x >>= g) (.andThen x H K)

namespace Composable

variable {R : ∀ ⦃α : Type⦄, SelectM α → History → Prop} (hR : Composable R)

include hR

/-- After a computation nothing happens. -/
theorem bind_pure {α β : Type} {x : SelectM α} {H : History} (hx : R x H) (y : α → β) :
    R (x >>= fun a ↦ Pure.pure (y a)) H := by
  have hbind := hR.bind hx fun a ↦ hR.pure (y a)
  rwa [History.andThen_none] at hbind

theorem holds_gather {g : NodeId → SelectM (List NodeId)} {H : NodeId → History}
    (hg : ∀ i, R (g i) (H i)) (is : List NodeId) : R (gather g is) (gatherHistory g H is) := by
  induction is with
  | nil => exact hR.pure []
  | cons i rest ih => exact hR.bind (hg i) fun found ↦ hR.bind_pure ih _

variable {σ : Setting} {J : Predicate → NodeId → History}
  (hcall : ∀ p i, R (callPredicate σ p i) (callHistory σ J p i))

include hcall

/-- The relation holds of tests if it holds of calls. -/
theorem holds_matchesStep (i : NodeId) (s : Step) :
    R (matchesStep σ i s) (stepHistory σ J i s) := by
  induction s using Step.induction with
  | name wanted =>
    rw [matchesStep, stepHistory]
    split
    · exact hR.pure _
    · exact hR.throw (Fault.ordinary_lacks _ _)
  | attributes wanted =>
    rw [matchesStep, stepHistory]
    split
    · exact hR.pure _
    · exact hR.throw (Fault.ordinary_lacks _ _)
  | predicate p =>
    rw [matchesStep, stepHistory]
    exact hcall p i
  | all members ih =>
    rw [matchesStep, stepHistory]
    induction members with
    | nil =>
      rw [matchesAll, membersHistory]
      exact hR.pure true
    | cons s rest ihrest =>
      rw [List.forall_mem_cons] at ih
      rw [matchesAll, membersHistory]
      refine hR.bind ih.1 fun b ↦ ?_
      cases b with
      | true => exact ihrest ih.2
      | false => exact hR.pure false
  | unknown id =>
    rw [matchesStep, stepHistory]
    exact hR.throw (Fault.ordinary_notAStep _)

theorem holds_candidatesAmong (s : Step) (is : List NodeId) :
    R (candidatesAmong σ s is) (amongHistory σ J s is) := by
  induction is with
  | nil => exact hR.pure []
  | cons i rest ih =>
    rw [candidatesAmong, amongHistory]
    split
    · refine hR.bind (hR.holds_matchesStep hcall i s) fun b ↦ ?_
      cases b with
      | true => exact hR.bind_pure ih _
      | false => exact ih
    · exact ih

/-- It holds of the search that goes depth first. -/
theorem holds_descend (steps : List Step) (i : NodeId) :
    R (descend σ steps i) (descendHistory σ J steps i) := by
  induction steps generalizing i with
  | nil => exact hR.pure [i]
  | cons s rest ih =>
    rw [descend, descendHistory]
    exact hR.bind (hR.holds_candidatesAmong hcall s _) fun found ↦ hR.holds_gather ih found

/-- And of the one that goes level by level. -/
theorem holds_levels (steps : List Step) (frontier : List NodeId) :
    R (levels σ steps frontier) (levelsHistory σ J steps frontier) := by
  induction steps generalizing frontier with
  | nil => exact hR.pure frontier
  | cons s rest ih =>
    have hlevel := hR.holds_gather (fun i ↦ hR.holds_candidatesAmong hcall s (σ.forest.children i))
    rw [levels, levelsHistory]
    refine hR.bind (hlevel frontier) fun next ↦ ?_
    split
    · exact hR.pure []
    · exact ih next

/-- What holds of calls holds of searches. -/
theorem holds_find (e : Engine) (i : NodeId) (p : Path) :
    R (e.find σ i p) (searchHistory σ J e i p) := by
  unfold Engine.find searchHistory
  cases e.strategy with
  | recursive => exact hR.holds_descend hcall p.steps i
  | iterative => exact hR.holds_levels hcall p.steps [i]

end Composable

end TreePath
