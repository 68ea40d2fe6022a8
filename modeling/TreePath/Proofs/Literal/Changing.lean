import TreePath.Literal.Features
import TreePath.Proofs.Literal.Comparing

/-!
# Attempts to change steps and paths

A caller can try to set a feature of a step or path, to remove one, or to assign an item, of the
value or of its attributes (`Query.Attempt`). Every such attempt is refused and leaves everything as
it was, however many there are and whatever names they use, with one exception
(`Query.changes_refused`): the slot in which a path holds its steps can be removed
(`Query.not_unchanging`). After that nothing can be learnt from the path any more
(`Literal.Hollow`), and every further attempt is refused again.

What one attempt does is `Query.run_attempt`; what several leave behind follows by induction.

The attempts are those that have a syntax of their own: to set, to remove, and to assign an item.
Each names a feature or an item by any literal, the names of slots included. That a path has a slot
which can be removed is not an exception made by hand; it comes from there being a rule that refuses
to set a feature and none that refuses to remove one. Steps have both.
-/

namespace TreePath

open Build

/-- All that is left of a path without its steps: to ask it for anything is an error. -/
structure Literal.Hollow (v : Literal) : Prop where
  /-- It has no length. -/
  length_eq : v.length = throw .stepsTaken
  /-- It cannot be gone through. -/
  items_eq : v.items = throw .stepsTaken
  /-- Nothing can be picked from it. -/
  indexed_eq : v.indexed = throw .stepsTaken
  /-- It has no written form. -/
  shown_eq : shown v = throw .stepsTaken
  /-- It cannot be compared with itself. -/
  equal_eq : v.equal v = throw .stepsTaken
  /-- Nothing can be selected by it. -/
  asPath_eq : asPath v = throw .stepsTaken

namespace Query

/-- A change that a caller tries to make. Names may be any values, and so may keys. -/
inductive Attempt where
  /-- Sets a feature to a text. -/
  | assign (name : Literal) (text : String)
  /-- Removes a feature. -/
  | remove (name : Literal)
  /-- Assigns an item. -/
  | assignItem (key : Literal)
  /-- Sets a feature of the attributes to a text. -/
  | assignOfAttributes (name : Literal) (text : String)
  /-- Removes a feature of the attributes. -/
  | removeOfAttributes (name : Literal)
  /-- Assigns an item of the attributes. -/
  | assignAttribute (key : Literal)

/-- A query as it is now. -/
def now (q : Query) (s : BuildState) : Literal :=
  q.literal.refresh s

/-- Tries a change of a step or path. Neither has items that could be assigned. -/
def Attempt.of (v : Literal) : Attempt → Build Unit
  | assign name text => do v.assignFeature (← Literal.featureName name) text
  | remove name => do v.removeFeature (← Literal.featureName name)
  | assignItem _ => throw (.noAssignment v.typeName)
  | assignOfAttributes name text => v.assignViewFeature name text
  | removeOfAttributes name => v.removeViewFeature name
  | assignAttribute _ => v.assignAttribute

/-- Tries a change of a query, as it is now. -/
def Attempt.on (q : Query) (a : Attempt) : Build Unit := do
  a.of (q.now (← get))

/-- What is left when several changes were tried, one after the other. -/
def after (q : Query) (s : BuildState) : List Attempt → BuildState
  | [] => s
  | a :: rest =>
    match (a.on q).run s with
    | .ok _ s' => q.after s' rest
    | .error _ s' => q.after s' rest

/-- Whether a change is the removal of the slot that holds the steps of a path. -/
def Attempt.takesSteps : Attempt → Bool
  | remove (.text name) => name == "_steps"
  | _ => false

/-- Only one attempt takes the steps of a path away. -/
theorem eq_remove_of_takesSteps {a : Attempt} (h : a.takesSteps = true) :
    a = .remove (.text "_steps") := by
  cases a with
  | remove name =>
    cases name with
    | text feature => rw [eq_of_beq h]
    | _ => cases h
  | _ => cases h

/-- Whether a query is a path that has its steps. -/
def holdsSteps (q : Query) (s : BuildState) : Bool :=
  match q with
  | step _ => false
  | path id _ => !s.emptied.contains id

/-- The state in which a path lost its steps. -/
def emptied (q : Query) (s : BuildState) : BuildState :=
  match q with
  | step _ => s
  | path id _ => { s with emptied := id :: s.emptied }

/-- A change is refused, and nothing else happens. -/
def Refuses (x : Build Unit) (s : BuildState) : Prop :=
  ∃ e, x.run s = .error e s ∧ (e.kindName = "AttributeError" ∨ e.kindName = "TypeError")

/-! ### One attempt -/

section Refusing

variable {s : BuildState}

/-- To raise one of the two faults is to refuse. -/
theorem refuses_throw {e : LiteralError}
    (he : e.kindName = "AttributeError" ∨ e.kindName = "TypeError") : Refuses (throw e) s :=
  ⟨e, rfl, he⟩

/-- What is refused at first is refused. -/
theorem refuses_bind {α : Type} {x : Build α} {e : LiteralError} (hx : x.run s = .error e s)
    (he : e.kindName = "AttributeError" ∨ e.kindName = "TypeError") (f : α → Build Unit) :
    Refuses (x >>= f) s :=
  ⟨e, by rw [EStateM.run_bind, hx], he⟩

/-- What is refused under every name is refused, and so are names that are no texts. -/
theorem refuses_named {f : String → Build Unit} (hf : ∀ feature, Refuses (f feature) s)
    (name : Literal) : Refuses (Literal.featureName name >>= f) s := by
  cases name with
  | text feature => exact hf feature
  | _ => exact refuses_bind rfl (.inr rfl) f

/-- What has no attributes refuses every change of them. -/
theorem refuses_without_attributes {v : Literal} (hv : ∀ p, v ≠ .function p)
    (f : Literal → Build Unit) : Refuses (v.givenFeature "attributes" >>= f) s := by
  have hmissing : (v.givenFeature "attributes").run s =
      .error (.missing v.typeName "attributes") s := by
    cases v with
    | function p => exact absurd rfl (hv p)
    | _ => rfl
  exact refuses_bind hmissing (.inl rfl) f

/-- What a view lacks is an attribute. -/
theorem kindName_viewFault (feature : String) :
    (Literal.viewFault feature).kindName = "AttributeError" := by
  rw [Literal.viewFault]
  split <;> rfl

/-- A step refuses every change. -/
theorem refuses_step (t : Step) (a : Attempt) : Refuses (a.of (.step t)) s := by
  have hstep (p : Predicate) : Literal.step t ≠ .function p := nofun
  cases a with
  | assign name text => exact refuses_named (fun _ ↦ refuses_throw (.inl rfl)) name
  | remove name => exact refuses_named (fun _ ↦ refuses_throw (.inl rfl)) name
  | assignItem key => exact refuses_throw (.inr rfl)
  | assignOfAttributes name text =>
    cases t with
    | attributes wanted =>
      refine refuses_named (fun feature ↦ refuses_throw ?_) name
      split
      · exact .inr rfl
      · exact .inl (kindName_viewFault feature)
    | _ => exact refuses_without_attributes hstep _
  | removeOfAttributes name =>
    cases t with
    | attributes wanted =>
      refine refuses_named (fun feature ↦ refuses_throw ?_) name
      split
      · exact .inr rfl
      · exact .inl (kindName_viewFault feature)
    | _ => exact refuses_without_attributes hstep _
  | assignAttribute key =>
    cases t with
    | attributes wanted => exact refuses_throw (.inr rfl)
    | _ => exact refuses_without_attributes hstep _

/-- A path refuses to lose any feature but the slot of its steps, and to lose that one twice. -/
theorem refuses_removeFeature (id : Nat) {held : Option Path} {feature : String}
    (h : feature = "_steps" → held = none) :
    Refuses (Literal.removeFeature (.path id held) feature) s := by
  simp only [Literal.removeFeature]
  split
  · next hsteps =>
    rw [h (eq_of_beq hsteps)]
    exact refuses_throw (.inl rfl)
  · split
    · exact refuses_throw (.inl rfl)
    · split
      · exact refuses_throw (.inl rfl)
      · split
        · exact refuses_throw (.inr rfl)
        · exact refuses_throw (.inl rfl)

/-- A path refuses every change but one. -/
theorem refuses_path (id : Nat) {held : Option Path} {a : Attempt}
    (h : a.takesSteps = true → held = none) : Refuses (a.of (.path id held)) s := by
  have hpath (p : Predicate) : Literal.path id held ≠ .function p := nofun
  cases a with
  | assign name text => exact refuses_named (fun _ ↦ refuses_throw (.inl rfl)) name
  | remove name =>
    cases name with
    | text feature => exact refuses_removeFeature id fun heq ↦ h (by simp [Attempt.takesSteps, heq])
    | _ => exact refuses_bind rfl (.inr rfl) _
  | assignItem key => exact refuses_throw (.inr rfl)
  | assignOfAttributes name text => exact refuses_without_attributes hpath _
  | removeOfAttributes name => exact refuses_without_attributes hpath _
  | assignAttribute key => exact refuses_without_attributes hpath _

end Refusing

/-- Nothing that was emptied holds steps. -/
theorem holdsSteps_emptied (q : Query) (s : BuildState) : q.holdsSteps (q.emptied s) = false := by
  cases q with
  | step t => rfl
  | path id p => simp [holdsSteps, emptied]

/-- A path whose steps were taken away is what is left of it. -/
theorem now_of_emptied {id : Nat} {s : BuildState} (h : s.emptied.contains id = true) (p : Path) :
    (path id p).now s = .path id none := by
  simp only [now, literal, Literal.refresh, h, if_true]

/-- A path that has its steps loses them to the removal of their slot; anything else is refused. -/
theorem run_attempt (q : Query) (s : BuildState) (a : Attempt) :
    if q.holdsSteps s && a.takesSteps then (a.on q).run s = .ok () (q.emptied s)
    else Refuses (a.on q) s := by
  cases q with
  | step t => exact refuses_step _ a
  | path id p =>
    have hrefuses {held : Option Path} (hnow : (path id p).now s = .path id held)
        (h : a.takesSteps = true → held = none) : Refuses (a.on (path id p)) s := by
      have hpath : Refuses (a.of ((path id p).now s)) s := hnow ▸ refuses_path id h
      exact hpath
    rw [holdsSteps]
    cases hemptied : s.emptied.contains id with
    | true => exact hrefuses (now_of_emptied hemptied p) fun _ ↦ rfl
    | false =>
      obtain ⟨p', hnow⟩ : ∃ p', (path id p).now s = .path id (some p') := by
        simp only [now, literal, Literal.refresh, hemptied, Bool.false_eq_true, if_false]
        exact ⟨_, rfl⟩
      cases htakes : a.takesSteps with
      | true =>
        obtain rfl := eq_remove_of_takesSteps htakes
        have htaken : (Literal.removeFeature ((path id p).now s) "_steps").run s =
            .ok () ((path id p).emptied s) := by
          rw [hnow]
          rfl
        exact htaken
      | false => exact hrefuses hnow fun h ↦ absurd (htakes.symm.trans h) Bool.false_ne_true

/-! ### Several attempts -/

/-- What several attempts leave behind is what was there, or, if one of them is the removal of the
slot that holds the steps of a path, that without the steps. -/
theorem after_eq (q : Query) (s : BuildState) (as : List Attempt) :
    q.after s as = if q.holdsSteps s && as.any Attempt.takesSteps then q.emptied s else s := by
  induction as generalizing s with
  | nil => simp [after]
  | cons a rest ih =>
    have hrun := q.run_attempt s a
    rw [List.any_cons, Bool.and_or_distrib_left]
    cases htaken : q.holdsSteps s && a.takesSteps with
    | true =>
      rw [htaken, if_pos rfl] at hrun
      rw [after, hrun]
      -- what has lost its steps has none to lose
      simp [ih, holdsSteps_emptied]
    | false =>
      rw [htaken, if_neg Bool.false_ne_true] at hrun
      obtain ⟨e, hrun, -⟩ := hrun
      rw [after, hrun]
      exact ih s

/-- A path that was emptied is hollow. -/
theorem hollow_of_emptied {id : Nat} {s : BuildState} (h : s.emptied.contains id = true)
    (p : Path) : ((path id p).now s).Hollow := by
  rw [now_of_emptied h]
  exact ⟨rfl, rfl, rfl, rfl, rfl, rfl⟩

/-- **Changes are refused, and leave everything as it was, with one exception.** Whatever a caller
tried before, a further attempt to change a step or path is refused and changes nothing, unless it
is the first to remove the slot in which a path holds its steps. That attempt succeeds, and from
then on nothing can be learnt from the path. -/
theorem changes_refused (q : Query) (s : BuildState) (before : List Attempt) (a : Attempt) :
    let lost := q.holdsSteps s && before.any Attempt.takesSteps
    (q.after s before = if lost then q.emptied s else s) ∧
    (if q.holdsSteps s && !lost && a.takesSteps then (a.on q).run s = .ok () (q.emptied s)
      else Refuses (a.on q) (q.after s before)) ∧
    (lost = true → (q.now (q.after s before)).Hollow) := by
  intro lost
  have hafter : q.after s before = if lost then q.emptied s else s := q.after_eq s before
  refine ⟨hafter, ?_, ?_⟩
  · have hrun := q.run_attempt (q.after s before) a
    rw [hafter] at hrun ⊢
    cases hlost : lost with
    | true =>
      rw [hlost, if_pos rfl, holdsSteps_emptied] at hrun
      simpa using hrun
    | false =>
      rw [hlost, if_neg Bool.false_ne_true] at hrun
      simpa using hrun
  · intro hlost
    rw [hafter, hlost, if_pos rfl]
    cases q with
    | step t => simp [lost, holdsSteps] at hlost
    | path id p => exact hollow_of_emptied (by simp [emptied]) p

/-- Some attempts to change the path of one name. -/
def sampleAttempts : List Attempt :=
  [.assign (.text "_steps") "x", .assignItem (.int 0), .remove (.text "_steps")]

/-- The path is left without its steps. -/
theorem changes_refused_sample :
    (Query.path 0 ⟨.name "a", []⟩).after default sampleAttempts =
        { (default : BuildState) with emptied := [0] } ∧
      ((Query.path 0 ⟨.name "a", []⟩).now
        { (default : BuildState) with emptied := [0] }).Hollow := by
  obtain ⟨hafter, -, hhollow⟩ :=
    changes_refused (.path 0 ⟨.name "a", []⟩) default sampleAttempts (.remove (.text "_steps"))
  have hhollow := hhollow rfl
  rw [hafter] at hhollow
  exact ⟨hafter, hhollow⟩

/-- It is not so that whatever is tried is refused and changes nothing: a path of one name accepts
the removal of the slot that holds its steps. -/
theorem not_unchanging :
    ¬ ∀ (q : Query) (s : BuildState) (before : List Attempt) (a : Attempt),
      q.after s before = s ∧ Refuses (a.on q) s := by
  intro h
  obtain ⟨-, e, hrun, -⟩ :=
    h (.path 0 ⟨.name "a", []⟩) default [] (.remove (.text "_steps"))
  cases hrun

end Query

end TreePath
