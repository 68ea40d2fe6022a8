import TreePath.Proofs.Selection.History

/-!
# The course of a run

What histories do to the world. Of the world only three things matter here, the *ledger*: what was
reported, which failures were made, and which of them a selection has reported. A happening changes
the ledger at its end, when all that happened inside it is over, and `Happening.Effect` says what
each can do: a call hands on what the predicate's own code came to, or makes a failure of a fault; a
test changes nothing; a selection that returns reports what it found, and one that a failure leaves
reports the failure unless that was done before.

`Evolves l hs l'` says that the happenings of a history lead from one ledger to another in this way,
and that what leaves a call inside a test or a selection leaves that, too. The happenings then take
their effect one after the other, in the order in which they come to an end (`Evolves.steps`), and
what is to be known of them is proved of one `Happening.Effect` and, by induction, of `Steps`.
-/

namespace TreePath

open SelectM Happening

/-! ### Ledgers -/

/-- What was reported, which failures were made, and the numbers of those that were reported. -/
structure Ledger where
  /-- The reports, in order. -/
  events : List Event
  /-- The failures that were made, in order. -/
  failures : List Failure
  /-- The numbers of the failures that a selection has reported. -/
  reported : List Nat

/-- The ledger of a world. -/
def World.ledger (w : World) : Ledger :=
  ⟨w.events.toList, w.failures.toList, w.reported⟩

namespace Ledger

/-- A ledger with more reports. -/
def tell (l : Ledger) (es : List Event) : Ledger :=
  { l with events := l.events ++ es }

/-- A ledger with one more failure. -/
def fail (l : Ledger) (g : Failure) : Ledger :=
  { l with failures := l.failures ++ [g] }

/-- A ledger with the report of a failure. -/
def abort (l : Ledger) (g : Failure) : Ledger :=
  { l with events := l.events ++ [.aborted g], reported := g.number :: l.reported }

end Ledger

namespace Fault

/-- A fault is not of the class of failures. -/
def Ordinary (e : Fault) : Prop :=
  e.kindName ≠ "PredicateFailure"

theorem ordinary_lacks (className feature : String) : (lacks className feature).Ordinary := by
  simp [Ordinary, kindName]

theorem ordinary_notAStep (shown : String) : (notAStep shown).Ordinary := by
  simp [Ordinary, kindName]

theorem ordinary_literal (e : LiteralError) : (literal e).Ordinary := by
  rw [Ordinary, kindName]
  cases e <;> simp [LiteralError.kindName]

theorem ordinary_tooDeep : tooDeep.Ordinary := by
  simp [Ordinary, kindName]

end Fault

/-! ### What the end of a happening does -/

namespace Happening

/-- What a happening does to the ledger when all that happened inside it is over. -/
inductive Effect : Happening → Ledger → Ledger → Prop
  /-- A notice is reported. -/
  | notice (n : Notice) (l : Ledger) : Effect (.notice n) l (l.tell [.notice n])
  /-- A predicate answers. -/
  | answered {p : Predicate} {i : NodeId} {inside : List Happening} {b : Bool} (l : Ledger) :
    Effect (.call p i inside (.ok b) (.ok b)) l l
  /-- A predicate raises a failure that was made before. It is passed on. -/
  | passed {p : Predicate} {i : NodeId} {inside : List Happening} {g : Failure} {l : Ledger}
    (hg : g ∈ l.failures) :
    Effect (.call p i inside (.error (.failure g)) (.error (.failure g))) l l
  /-- A predicate asks the program to stop. That is passed on, too. -/
  | stopped {p : Predicate} {i : NodeId} {inside : List Happening} {e : Fault}
    (he : e.isStop = true) (hordinary : e.Ordinary) (l : Ledger) :
    Effect (.call p i inside (.error (.fault e)) (.error (.fault e))) l l
  /-- A predicate raises another fault. A failure is made of it. -/
  | failed {p : Predicate} {i : NodeId} {inside : List Happening} {e : Fault} {text : String}
    (he : e.isStop = false) (hordinary : e.Ordinary) (l : Ledger) :
    Effect
      (.call p i inside (.error (.fault e))
        (.error (.failure ⟨l.failures.length, p, i, text, e, e⟩)))
      l (l.fail ⟨l.failures.length, p, i, text, e, e⟩)
  /-- A test answers, or raises a failure that was made before or an ordinary fault. -/
  | tested {i : NodeId} {s : Step} {inside : List Happening} {outcome : Except Raised Bool}
    {l : Ledger} (hfailure : ∀ g, outcome = .error (.failure g) → g ∈ l.failures)
    (hordinary : ∀ e, outcome = .error (.fault e) → e.Ordinary) :
    Effect (.test i s inside outcome) l l
  /-- A selection returns. It reports how much it found, after its duration if it is timed. -/
  | found {e : Engine} {i : NodeId} {p : Path} {inside : List Happening} {found : List NodeId}
    {timing : List Event} (htiming : ∀ x ∈ timing, ∃ d, x = .timed d) (l : Ledger) :
    Effect (.selection e i p inside (timing ++ [.matched p.length found.length]) (.ok found)) l
      (l.tell (timing ++ [.matched p.length found.length]))
  /-- A fault leaves a selection. -/
  | broken {e : Engine} {i : NodeId} {p : Path} {inside : List Happening} {fault : Fault}
    (hordinary : fault.Ordinary) (l : Ledger) :
    Effect (.selection e i p inside [] (.error (.fault fault))) l l
  /-- A failure leaves a selection, the first one that it leaves. It is reported. -/
  | aborted {e : Engine} {i : NodeId} {p : Path} {inside : List Happening} {g : Failure}
    {l : Ledger} (hg : g ∈ l.failures) (hnew : g.number ∉ l.reported) :
    Effect (.selection e i p inside [.aborted g] (.error (.failure g))) l (l.abort g)
  /-- A failure leaves another selection. It was reported before. -/
  | left {e : Engine} {i : NodeId} {p : Path} {inside : List Happening} {g : Failure}
    {l : Ledger} (hg : g ∈ l.failures) (hold : g.number ∈ l.reported) :
    Effect (.selection e i p inside [] (.error (.failure g))) l l

/-- A failure that is raised was made. -/
theorem Effect.failure_mem {h : Happening} {l l' : Ledger} {g : Failure} (heffect : h.Effect l l')
    (hraised : h.raised? = some (.failure g)) : g ∈ l'.failures := by
  cases heffect with
  | passed hg | left hg _ =>
    cases hraised
    exact hg
  | failed _ _ l =>
    cases hraised
    exact List.mem_append_right _ (List.mem_singleton.2 rfl)
  | aborted hg _ =>
    cases hraised
    exact hg
  | @tested _ _ _ outcome _ hfailure _ =>
    cases outcome with
    | ok b => cases hraised
    | error r =>
      cases hraised
      exact hfailure g rfl
  | notice | answered | stopped | found | broken => cases hraised

/-- A failure that leaves a selection was made before. -/
theorem Effect.failure_mem_before {h : Happening} {l l' : Ledger} {g : Failure}
    (heffect : h.Effect l l') (hleaves : h.Leaves g) : g ∈ l.failures := by
  obtain ⟨e, i, p, inside, reports, rfl⟩ := hleaves
  cases heffect with
  | aborted hg _ | left hg _ => exact hg

/-- A fault that is raised is ordinary. -/
theorem Effect.ordinary {h : Happening} {l l' : Ledger} {e : Fault} (heffect : h.Effect l l')
    (hraised : h.raised? = some (.fault e)) : e.Ordinary := by
  cases heffect with
  | stopped _ hordinary | broken hordinary =>
    cases hraised
    exact hordinary
  | @tested _ _ _ outcome _ _ hordinary =>
    cases outcome with
    | ok b => cases hraised
    | error r =>
      cases hraised
      exact hordinary e rfl
  | notice | answered | passed | failed | found | aborted | left => cases hraised

/-- What is raised by something inside a test or a selection leaves that. -/
def Passes : Happening → Prop
  | test _ _ inside outcome => ∀ h ∈ inside, ∀ r, h.raised? = some r → outcome = .error r
  | selection _ _ _ inside _ outcome =>
    ∀ h ∈ inside, ∀ r, h.raised? = some r → outcome = .error r
  | _ => True

end Happening

/-- The happenings of a history lead from one ledger to another. -/
inductive Evolves : Ledger → List Happening → Ledger → Prop
  /-- Nothing happens. -/
  | nil (l : Ledger) : Evolves l [] l
  /-- Something happens before the rest. -/
  | cons {l l₁ l₂ l' : Ledger} {h : Happening} {hs : List Happening}
    (inside : Evolves l h.inside l₁) (passes : h.Passes) (effect : h.Effect l₁ l₂)
    (rest : Evolves l₂ hs l') : Evolves l (h :: hs) l'

/-- Happenings come to an end one after the other and lead from one ledger to another. -/
inductive Steps : Ledger → List Happening → Ledger → Prop
  /-- Nothing comes to an end. -/
  | nil (l : Ledger) : Steps l [] l
  /-- Something comes to an end before the rest. -/
  | cons {l l₁ l' : Ledger} {h : Happening} {hs : List Happening} (passes : h.Passes)
    (effect : h.Effect l l₁) (rest : Steps l₁ hs l') : Steps l (h :: hs) l'

namespace Evolves

theorem append {l l₁ l' : Ledger} {hs hs' : List Happening} (h : Evolves l hs l₁)
    (h' : Evolves l₁ hs' l') : Evolves l (hs ++ hs') l' := by
  induction h with
  | nil l => exact h'
  | cons inside passes effect _ _ ih => exact cons inside passes effect (ih h')

theorem single {l l₁ l' : Ledger} {h : Happening} (inside : Evolves l h.inside l₁)
    (passes : h.Passes) (effect : h.Effect l₁ l') : Evolves l [h] l' :=
  cons inside passes effect (nil l')

theorem notices (ns : List Notice) (l : Ledger) :
    Evolves l (ns.map .notice) (l.tell (ns.map .notice)) := by
  induction ns generalizing l with
  | nil =>
    rw [List.map_nil, List.map_nil, Ledger.tell, List.append_nil]
    exact nil l
  | cons n rest ih =>
    have hrest := ih (l.tell [.notice n])
    rw [Ledger.tell, Ledger.tell, List.append_assoc] at hrest
    exact cons (nil l) trivial (.notice n l) hrest

end Evolves

theorem Steps.append {l l₁ l' : Ledger} {hs hs' : List Happening} (h : Steps l hs l₁)
    (h' : Steps l₁ hs' l') : Steps l (hs ++ hs') l' := by
  induction h with
  | nil l => exact h'
  | cons passes effect _ ih => exact cons passes effect (ih h')

/-- Each happening takes its effect at some moment. -/
theorem Steps.effect_of_mem {l l' : Ledger} {hs : List Happening} (hsteps : Steps l hs l')
    {h : Happening} (hmem : h ∈ hs) : h.Passes ∧ ∃ l₁ l₂, h.Effect l₁ l₂ := by
  induction hsteps with
  | nil l => cases hmem
  | cons passes effect _ ih =>
    rcases List.mem_cons.1 hmem with rfl | hmem
    · exact ⟨passes, _, _, effect⟩
    · exact ih hmem

theorem Steps.split {l l' : Ledger} {before after : List Happening} {h : Happening}
    (hsteps : Steps l (before ++ h :: after) l') :
    ∃ l₁ l₂, Steps l before l₁ ∧ h.Effect l₁ l₂ ∧ Steps l₂ after l' := by
  induction before generalizing l with
  | nil =>
    cases hsteps with
    | cons _ effect rest => exact ⟨_, _, .nil l, effect, rest⟩
  | cons h' before ih =>
    cases hsteps with
    | cons passes effect rest =>
      obtain ⟨l₁, l₂, hbefore, heffect, hafter⟩ := ih rest
      exact ⟨l₁, l₂, .cons passes effect hbefore, heffect, hafter⟩

/-- The happenings of a history take their effect in the order in which they come to an end. -/
theorem Evolves.steps {l l' : Ledger} {hs : List Happening} (h : Evolves l hs l') :
    Steps l (endingsOf hs) l' := by
  induction h with
  | nil l => exact .nil l
  | cons _ passes effect _ ihinside ihrest =>
    rw [endingsOf_cons]
    exact ihinside.append (.cons passes effect ihrest)

end TreePath
