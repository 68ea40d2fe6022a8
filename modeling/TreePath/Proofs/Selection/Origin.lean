import TreePath.Proofs.Selection.Session

/-!
# Where failures come from

A failure is made when the own code of a predicate raises a fault, and nowhere else
(`Steps.failures_eq`). Whatever leaves a selection later, then, names the call that it was made in:
the predicate, the node, and the fault, from which it was raised as well. On the way out nothing is
made of it. Calls hand on a failure, or a request to stop, as it is, and so do the tests and
selections that the calls are made in (`failure_origin`).

The four statements are about one session and everything that came to an end in it, in the order in
which it did. So a failure can be traced by going back in the list: before the selection that it
leaves stands the call that it was made in. A predicate may keep a failure that it caught and raise
it much later, in another selection. Then that selection is left by a failure whose call lies far
back, and the statement holds of it as of any other.
-/

namespace TreePath

open SelectM Happening

/-! ### What was made in a history -/

/-- The failure that was made at the end of a call, if one was. -/
def Happening.made : Happening → List Failure
  | call _ _ _ (.error (.fault _)) (.error (.failure g)) => [g]
  | _ => []

theorem Happening.Effect.failures_eq {h : Happening} {l l' : Ledger} (heffect : h.Effect l l') :
    l'.failures = l.failures ++ h.made := by
  cases heffect with
  | failed => rfl
  | notice | answered | passed | stopped | tested | found | broken | aborted | left =>
    exact (List.append_nil _).symm

/-- The failures that were made are those that were made at the ends of calls. -/
theorem Steps.failures_eq {l l' : Ledger} {hs : List Happening} (h : Steps l hs l') :
    l'.failures = l.failures ++ hs.flatMap made := by
  induction h with
  | nil l => exact (List.append_nil _).symm
  | cons _ effect _ ih => rw [ih, effect.failures_eq, List.flatMap_cons, List.append_assoc]

/-- A failure names the call at whose end it was made. -/
theorem Happening.Effect.eq_call_of_mem_made {h : Happening} {l l' : Ledger} {g : Failure}
    (heffect : h.Effect l l') (hg : g ∈ h.made) :
    g.original.Ordinary ∧ g.original.isStop = false ∧ g.cause = g.original ∧
      ∃ inside, h = .call g.predicate g.node inside (.error (.fault g.original))
        (.error (.failure g)) := by
  cases heffect with
  | @failed p i inside e text hstop hordinary l =>
    obtain rfl := List.mem_singleton.1 hg
    exact ⟨hordinary, hstop, rfl, inside, rfl⟩
  | notice | answered | passed | stopped | tested | found | broken | aborted | left => cases hg

/-- Only of a fault that does not ask the program to stop is something made when a call ends. -/
theorem Happening.Effect.outcome_eq_own {p : Predicate} {i : NodeId} {inside : List Happening}
    {own outcome : Except Raised Bool} {l l' : Ledger}
    (heffect : (call p i inside own outcome).Effect l l')
    (h : ∀ e, own = .error (.fault e) → e.isStop = true) : outcome = own := by
  cases heffect with
  | answered | passed | stopped => rfl
  | failed hstop _ _ => exact absurd (hstop.symm.trans (h _ rfl)) Bool.false_ne_true

/-- **A failure that leaves a selection names the call it comes from, and nothing is made of what is
raised on its way out.** The fault it was made of is not of the class of failures, it was raised
from that fault, and it was made when the own code of its predicate, called with its node, raised
the fault. A failure that the own code of a predicate raises leaves the call as it is, and so does a
request to stop; and whatever leaves a call leaves the test or the selection that the call was made
in. -/
theorem failure_origin {s : Session} (hs : s.Honest) :
    (∀ before h after g, s.endings = before ++ h :: after → h.Leaves g →
      g.original.Ordinary ∧ g.cause = g.original ∧
        ∃ p inside, g.step = .predicate p ∧
          .call p g.node inside (.error (.fault g.original)) (.error (.failure g)) ∈ before) ∧
      (∀ p i inside own outcome, .call p i inside own outcome ∈ s.endings →
        (∀ g, own = .error (.failure g) → outcome = own) ∧
          ∀ e, e.isStop = true → own = .error (.fault e) → outcome = own) ∧
      (∀ i t inside outcome, .test i t inside outcome ∈ s.endings →
        ∀ h ∈ inside, ∀ r, h.raised? = some r → outcome = .error r) ∧
      ∀ e i p inside reports outcome, .selection e i p inside reports outcome ∈ s.endings →
        ∀ h ∈ inside, ∀ r, h.raised? = some r → outcome = .error r := by
  have hsteps := hs.steps
  refine ⟨fun before h after g hsplit hleaves ↦ ?_, fun p i inside own outcome hmem ↦ ?_,
    fun i t inside outcome hmem ↦ ?_, fun e i p inside reports outcome hmem ↦ ?_⟩
  · rw [hsplit] at hsteps
    obtain ⟨l₁, l₂, hbefore, heffect, -⟩ := hsteps.split
    have hg : g ∈ before.flatMap made := by
      have hmem := heffect.failure_mem_before hleaves
      rwa [hbefore.failures_eq, List.nil_append] at hmem
    obtain ⟨h', hmem', hmade⟩ := List.mem_flatMap.1 hg
    obtain ⟨-, m₁, m₂, heffect'⟩ := hbefore.effect_of_mem hmem'
    obtain ⟨hordinary, -, hcause, inside, rfl⟩ := heffect'.eq_call_of_mem_made hmade
    exact ⟨hordinary, hcause, g.predicate, inside, rfl, hmem'⟩
  · obtain ⟨-, l₁, l₂, heffect⟩ := hsteps.effect_of_mem hmem
    refine ⟨fun g hown ↦ heffect.outcome_eq_own fun e he ↦ ?_,
      fun e hstop hown ↦ heffect.outcome_eq_own fun e' he' ↦ ?_⟩
    · cases hown.symm.trans he
    · cases hown.symm.trans he'
      exact hstop
  · exact (hsteps.effect_of_mem hmem).1
  · exact (hsteps.effect_of_mem hmem).1

/-- The failure of the sample session leaves a selection that a predicate makes, and the one that
the predicate was called in; it comes from the call of the other predicate. -/
theorem failure_origin_sample :
    sampleSession.Honest ∧
      ∃ before h after, sampleSession.endings = before ++ h :: after ∧ h.Leaves sampleFailure ∧
        ∃ inside, .call sampleInner 1 inside (.error (.fault sampleFault))
          (.error (.failure sampleFailure)) ∈ before := by
  obtain ⟨h, hsplit, hleaves⟩ := sampleFailure_leaves
  obtain ⟨-, -, p, inside', hstep, hcall⟩ :=
    (failure_origin sampleSession_honest).1 _ h _ sampleFailure hsplit hleaves
  obtain rfl : sampleInner = p := Step.predicate.inj hstep
  exact ⟨sampleSession_honest, _, _, _, hsplit, hleaves, inside', hcall⟩

end TreePath
