import TreePath.Selection.Engine

/-!
# What a call does to the world

The equations of the two computations that are more than tests: what a call of a predicate makes of
the judge's answer (`run_callPredicate`), and what a selection makes of what its engine finds
(`Engine.run_select`). Both let every outcome through but one: a fault that does not ask the program
to stop leaves a predicate as a failure. What they add to the world is named here, so that it can be
spoken of without the computation.

A call records itself before the judge is asked, and a timed selection reads the clock before it
searches, so both begin in a world that is not the one they were started in (`World.called`,
`Engine.opened`). What follows depends on how the inner computation ends, and each equation has one
line for every such end.
-/

namespace TreePath

open SelectM

/-- What is caught is handled in the world that it left behind. -/
theorem SelectM.run_tryCatch {α : Type} (x : SelectM α) (handle : Raised → SelectM α) (w : World) :
    (tryCatch x handle).run w =
      match x.run w with
      | .ok a w' => .ok a w'
      | .error r w' => (handle r).run w' := by
  show EStateM.tryCatch x handle w = _
  delta EStateM.tryCatch EStateM.run
  cases x w with
  | ok a w' => rfl
  | error r w' => rfl

/-! ### The call of a predicate -/

/-- The world after the call of a predicate was recorded. -/
def World.called (w : World) (p : Predicate) (i : NodeId) : World :=
  { w with calls := w.calls.push (p, i) }

/-- The failure that is made of a fault and raised from it, in the world it is made in. -/
def World.newFailure (w : World) (σ : Setting) (p : Predicate) (i : NodeId) (fault : Fault) :
    Failure :=
  ⟨w.failures.size, p, i, (σ.forest.content i).describe, fault, fault⟩

/-- The world after a failure was made. -/
def World.failed (w : World) (failure : Failure) : World :=
  { w with failures := w.failures.push failure }

/-- What a call does to the world, in the three ways in which a predicate's own code can end. -/
theorem run_callPredicate (σ : Setting) (p : Predicate) (i : NodeId) (w : World) :
    (callPredicate σ p i).run w =
      match (σ.judge p i).run (w.called p i) with
      | .ok b w' => .ok b w'
      | .error (.failure failure) w' => .error (.failure failure) w'
      | .error (.fault fault) w' =>
        if fault.isStop then .error (.fault fault) w'
        else
          .error (.failure (w'.newFailure σ p i fault))
            (w'.failed (w'.newFailure σ p i fault)) := by
  rw [callPredicate, recordCall, EStateM.run_bind, EStateM.run_modify]
  refine (run_tryCatch _ _ (w.called p i)).trans ?_
  cases (σ.judge p i).run (w.called p i) with
  | ok b w' => rfl
  | error r w' =>
    cases r with
    | failure failure => rfl
    | fault fault =>
      cases hstop : fault.isStop with
      | true =>
        simp only [hstop, if_true]
        rfl
      | false =>
        simp only [hstop, Bool.false_eq_true, if_false]
        rfl

/-! ### A selection -/

/-- The world after a selection was ended by a failure, which is reported unless it was before. -/
def World.aborted (w : World) (failure : Failure) : World :=
  if w.reported.contains failure.number then w
  else
    { w with
      events := w.events.push (.aborted failure)
      reported := failure.number :: w.reported }

theorem SelectM.run_reportAborted (failure : Failure) (w : World) :
    (reportAborted failure).run w = .ok () (w.aborted failure) := by
  rw [reportAborted, World.aborted, EStateM.run_bind, EStateM.run_get]
  cases hreported : w.reported.contains failure.number with
  | true =>
    simp only [hreported, if_true]
    rfl
  | false =>
    simp only [hreported, Bool.false_eq_true, if_false]
    rfl

namespace Engine

/-- The world in which a selection starts to look for elements: a timed one has read the clock. -/
def opened (e : Engine) (w : World) : World :=
  if e.timed then { w with readings := w.readings + 1 } else w

/-- The world after a selection that returns. A timed one, which read the clock for the first time
at number `start`, reads it again and reports the duration; each reports how much it found. -/
def closed (e : Engine) (σ : Setting) (start steps found : Nat) (w : World) : World :=
  if e.timed then
    { w with
      events := (w.events.push (.timed (σ.clock w.readings - σ.clock start))).push
        (.matched steps found)
      readings := w.readings + 1 }
  else { w with events := w.events.push (.matched steps found) }

theorem run_endTimer (σ : Setting) {t : Timer Rat} {start : Rat}
    (ht : t.started? Event.operation = some start) (w : World) :
    (endTimer σ t).run w =
      .ok () { w with
        events := w.events.push (.timed (σ.clock w.readings - start))
        readings := w.readings + 1 } := by
  rw [endTimer, ht]
  rfl

/-- A selection returns what its engine finds and raises what ends the search for it. -/
theorem run_select (e : Engine) (σ : Setting) (i : NodeId) (p : Path) (w : World) :
    (e.select σ i p).run w =
      match (e.find σ i p).run (e.opened w) with
      | .ok found w' => .ok found (e.closed σ w.readings p.length found.length w')
      | .error (.failure failure) w' => .error (.failure failure) (w'.aborted failure)
      | .error (.fault fault) w' => .error (.fault fault) w' := by
  rw [select, opened]
  unfold closed
  cases e.timed with
  | false =>
    simp only [Bool.false_eq_true, if_false, pure_bind, EStateM.run_bind, run_tryCatch]
    cases (e.find σ i p).run w with
    | ok found w' => rfl
    | error r w' =>
      cases r with
      | failure failure =>
        simp only [EStateM.run_bind, run_reportAborted]
        rfl
      | fault fault => rfl
  | true =>
    have hstart : (some <$> startTimer σ).run w =
        .ok (some ((Timer.new Event.component).start Event.operation (σ.clock w.readings)))
          { w with readings := w.readings + 1 } := rfl
    simp only [if_true, EStateM.run_bind, run_tryCatch, hstart]
    cases (e.find σ i p).run { w with readings := w.readings + 1 } with
    | ok found w' =>
      simp only [run_endTimer σ (Timer.started?_start_self _ _ _)]
      rfl
    | error r w' =>
      cases r with
      | failure failure =>
        simp only [EStateM.run_bind, run_reportAborted]
        rfl
      | fault fault => rfl

/-- A selection returns what its engine finds. -/
theorem exists_run_select_of_ok {e : Engine} {σ : Setting} {i : NodeId} {p : Path}
    {found : List NodeId} {w w₁ : World} (h : (e.find σ i p).run (e.opened w) = .ok found w₁) :
    ∃ w', (e.select σ i p).run w = .ok found w' := by
  rw [run_select, h]
  exact ⟨_, rfl⟩

/-- It raises what ends the search. -/
theorem exists_run_select_of_error {e : Engine} {σ : Setting} {i : NodeId} {p : Path} {r : Raised}
    {w w₁ : World} (h : (e.find σ i p).run (e.opened w) = .error r w₁) :
    ∃ w', (e.select σ i p).run w = .error r w' := by
  rw [run_select, h]
  cases r with
  | failure failure => exact ⟨_, rfl⟩
  | fault fault => exact ⟨_, rfl⟩

end Engine

end TreePath
