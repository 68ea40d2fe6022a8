import TreePath.Proofs.Selection.Composing

/-!
# Runs follow their histories

Every computation of a run evolves along its history (`Followed`): the history leads from the ledger
it starts from to the one it leaves behind. What goes on in a test or a search is followed closely:
whatever leaves something that happens there leaves the test or the search. Both are put together as
the computations are (`Followed.bind`, `FollowedClosely.bind`): searches are followed since calls
are (`FollowedClosely.composable`), and then selections (`followed_select`), programs
(`followed_program`) and the judge that runs them (`followed_judge`).

Programs are taken to be honest (`Program.Honest`): they do not make up faults of the class that the
library's own failures have.

A history is made by looking at what a computation comes to, so there is little to prove except in
two places: where a call makes a failure of a fault, and where a selection reports. At both of them
the world that the computation leaves has to be compared with the effect that a happening of this
kind may have (`effect_callHistory`, `effect_selectHistory`). Programs need an induction of their
own, for they go on by what came out of their selections, and the judge that runs them needs another
one, on how deep calls may be nested.
-/

namespace TreePath

open SelectM Happening

/-! ### Computations and their histories -/

/-- A computation evolves along its history, and what it raises is a failure that was made or an
ordinary fault. -/
structure Followed {α : Type} (x : SelectM α) (H : History) : Prop where
  /-- The history leads to the ledger that is left behind. -/
  evolves : ∀ w, Evolves w.ledger (H w) (leave x w).ledger
  /-- A failure that is raised was made. -/
  failure_mem : ∀ {w g}, upshot x w = .error (.failure g) → g ∈ (leave x w).ledger.failures
  /-- A fault that is raised is ordinary. -/
  ordinary : ∀ {w e}, upshot x w = .error (.fault e) → e.Ordinary

/-- A computation is also ended by what is raised in its history. -/
structure FollowedClosely {α : Type} (x : SelectM α) (H : History) : Prop extends
    Followed x H where
  /-- What is raised by something that happens is raised by the computation. -/
  passes : ∀ {w h r}, h ∈ H w → h.raised? = some r → upshot x w = .error r

section Combinators

variable {α β : Type} {x : SelectM α} {g : α → SelectM β} {H : History} {K : α → History}

namespace Followed

theorem pure (a : α) : Followed (Pure.pure a) .none where
  evolves w := .nil w.ledger
  failure_mem := nofun
  ordinary := nofun

theorem throw {e : Fault} (he : e.Ordinary) :
    Followed (MonadExcept.throw (.fault e) : SelectM α) .none where
  evolves w := .nil w.ledger
  failure_mem := nofun
  ordinary h := by
    cases h
    exact he

theorem bind (hx : Followed x H) (hg : ∀ a, Followed (g a) (K a)) :
    Followed (x >>= g) (.andThen x H K) where
  evolves w := by
    rw [History.andThen, leave_bind]
    cases upshot x w with
    | ok a => exact (hx.evolves w).append ((hg a).evolves _)
    | error r => exact (hx.evolves w).append (.nil _)
  failure_mem := by
    intro w e h
    rw [upshot_bind] at h
    rw [leave_bind]
    cases hup : upshot x w with
    | ok a =>
      rw [hup] at h
      exact (hg a).failure_mem h
    | error r =>
      rw [hup] at h
      cases h
      exact hx.failure_mem hup
  ordinary := by
    intro w e h
    rw [upshot_bind] at h
    cases hup : upshot x w with
    | ok a =>
      rw [hup] at h
      exact (hg a).ordinary h
    | error r =>
      rw [hup] at h
      cases h
      exact hx.ordinary hup

/-- What comes after an observed computation has only to do with what that can come to. -/
theorem bind_observe {g : Except Raised α → SelectM β} {K : Except Raised α → History}
    (hx : Followed x H) (hg : ∀ r, (∀ e, r = .error (.fault e) → e.Ordinary) →
      Followed (g r) (K r)) :
    Followed (SelectM.observe x >>= g) (.andThen (SelectM.observe x) H K) := by
  -- an observed computation always returns, so what comes after it always follows
  have hr (w : World) := hg (upshot x w) fun e h ↦ hx.ordinary h
  have hobserve (w : World) := upshot_observe x w
  refine ⟨fun w ↦ ?_, fun {w e} h ↦ ?_, fun {w e} h ↦ ?_⟩
  · rw [History.andThen, leave_bind, (hobserve w).1, (hobserve w).2]
    exact (hx.evolves w).append ((hr w).evolves _)
  · rw [upshot_bind, (hobserve w).1] at h
    rw [leave_bind, (hobserve w).1]
    exact (hr w).failure_mem h
  · rw [upshot_bind, (hobserve w).1] at h
    exact (hr w).ordinary h

end Followed

namespace FollowedClosely

theorem pure (a : α) : FollowedClosely (Pure.pure a) .none where
  toFollowed := .pure a
  passes h _ := by cases h

theorem throw {e : Fault} (he : e.Ordinary) :
    FollowedClosely (MonadExcept.throw (.fault e) : SelectM α) .none where
  toFollowed := .throw he
  passes h _ := by cases h

theorem bind (hx : FollowedClosely x H) (hg : ∀ a, FollowedClosely (g a) (K a)) :
    FollowedClosely (x >>= g) (.andThen x H K) where
  toFollowed := hx.toFollowed.bind fun a ↦ (hg a).toFollowed
  passes {w h r} hmem hr := by
    rw [upshot_bind]
    rcases List.mem_append.1 hmem with hmem | hmem
    · rw [hx.passes hmem hr]
    · cases hup : upshot x w with
      | ok a =>
        rw [hup] at hmem
        exact (hg a).passes hmem hr
      | error r' =>
        rw [hup] at hmem
        cases hmem

/-- A computation in which one thing happens comes to what that comes to. -/
theorem single {h : World → Happening} {l : World → Ledger}
    (inside : ∀ w, Evolves w.ledger (h w).inside (l w)) (passes : ∀ w, (h w).Passes)
    (effect : ∀ w, (h w).Effect (l w) (leave x w).ledger)
    (raised : ∀ w r, (h w).raised? = some r ↔ upshot x w = .error r) :
    FollowedClosely x fun w ↦ [h w] where
  evolves w := .single (inside w) (passes w) (effect w)
  failure_mem {w _} hup := (effect w).failure_mem ((raised w _).2 hup)
  ordinary {w _} hup := (effect w).ordinary ((raised w _).2 hup)
  passes {w _ r} hmem hr := by
    obtain rfl := List.mem_singleton.1 hmem
    exact (raised w r).1 hr

end FollowedClosely

end Combinators

theorem FollowedClosely.composable : Composable @FollowedClosely where
  pure := .pure
  throw := .throw
  bind := .bind

/-! ### Tests and searches -/

/-- What a call makes of what the predicate's own code comes to. -/
theorem callPredicate_cases (σ : Setting) (p : Predicate) (i : NodeId) (w : World) :
    let own := upshot (σ.judge p i) (w.called p i)
    let outcome := upshot (callPredicate σ p i) w
    let w₁ := leave (σ.judge p i) (w.called p i)
    let w' := leave (callPredicate σ p i) w
    (∃ b, own = .ok b ∧ outcome = .ok b ∧ w' = w₁) ∨
      (∃ g, own = .error (.failure g) ∧ outcome = .error (.failure g) ∧ w' = w₁) ∨
      (∃ e, e.isStop = true ∧ own = .error (.fault e) ∧ outcome = .error (.fault e) ∧ w' = w₁) ∨
      ∃ e, e.isStop = false ∧ own = .error (.fault e) ∧
        outcome = .error (.failure (w₁.newFailure σ p i e)) ∧
        w' = w₁.failed (w₁.newFailure σ p i e) := by
  dsimp only
  delta upshot leave
  rw [run_callPredicate]
  cases (σ.judge p i).run (w.called p i) with
  | ok b w' => exact Or.inl ⟨b, rfl, rfl, rfl⟩
  | error r w' =>
    cases r with
    | failure g => exact Or.inr (Or.inl ⟨g, rfl, rfl, rfl⟩)
    | fault e =>
      cases hstop : e.isStop with
      | true => exact Or.inr (Or.inr (Or.inl ⟨e, hstop, rfl, by simp [hstop]⟩))
      | false => exact Or.inr (Or.inr (Or.inr ⟨e, hstop, rfl, by simp [hstop]⟩))

theorem World.ledger_failed (w : World) (g : Failure) : (w.failed g).ledger = w.ledger.fail g := by
  simp [World.ledger, World.failed, Ledger.fail]

section Searches

variable {σ : Setting} {J : Predicate → NodeId → History}
  (hJ : ∀ p i, Followed (σ.judge p i) (J p i))

include hJ

theorem effect_callHistory (p : Predicate) (i : NodeId) (w : World) :
    Effect
      (.call p i (J p i (w.called p i)) (upshot (σ.judge p i) (w.called p i))
        (upshot (callPredicate σ p i) w))
      (leave (σ.judge p i) (w.called p i)).ledger (leave (callPredicate σ p i) w).ledger := by
  rcases callPredicate_cases σ p i w with ⟨b, hown, houtcome, hleave⟩ |
    ⟨g, hown, houtcome, hleave⟩ | ⟨e, hstop, hown, houtcome, hleave⟩ |
    ⟨e, hstop, hown, houtcome, hleave⟩
  · rw [hown, houtcome, hleave]
    exact .answered _
  · rw [hown, houtcome, hleave]
    exact .passed ((hJ p i).failure_mem hown)
  · rw [hown, houtcome, hleave]
    exact .stopped hstop ((hJ p i).ordinary hown) _
  · rw [hown, houtcome, hleave, World.ledger_failed]
    have hnumber : (leave (σ.judge p i) (w.called p i)).failures.size =
        (leave (σ.judge p i) (w.called p i)).ledger.failures.length := Array.length_toList.symm
    rw [World.newFailure, hnumber]
    exact .failed hstop ((hJ p i).ordinary hown) _

theorem followed_callPredicate (p : Predicate) (i : NodeId) :
    FollowedClosely (callPredicate σ p i) (callHistory σ J p i) := by
  refine .single (fun w ↦ (hJ p i).evolves (w.called p i)) (fun _ ↦ trivial)
    (effect_callHistory hJ p i) fun w r ↦ ?_
  cases upshot (callPredicate σ p i) w with
  | ok b => exact ⟨nofun, nofun⟩
  | error r' => rw [raised?, Option.some.injEq, Except.error.injEq]

theorem followed_matchesStep (i : NodeId) (s : Step) :
    FollowedClosely (matchesStep σ i s) (stepHistory σ J i s) :=
  FollowedClosely.composable.holds_matchesStep (followed_callPredicate hJ) i s

theorem followed_find (e : Engine) (i : NodeId) (p : Path) :
    FollowedClosely (e.find σ i p) (searchHistory σ J e i p) :=
  FollowedClosely.composable.holds_find (followed_callPredicate hJ) e i p

theorem followed_test (i : NodeId) (s : Step) :
    FollowedClosely (matchesStep σ i s) (testHistory σ J i s) := by
  have hstep := followed_matchesStep hJ i s
  refine .single (fun w ↦ hstep.evolves w) (fun _ _ hmem _ hr ↦ hstep.passes hmem hr)
    (fun _ ↦ .tested (fun _ ↦ hstep.failure_mem) fun _ ↦ hstep.ordinary) fun w r ↦ ?_
  cases upshot (matchesStep σ i s) w with
  | ok b => exact ⟨nofun, nofun⟩
  | error r' => rw [raised?, Option.some.injEq, Except.error.injEq]

omit hJ

/-! ### Selections -/

/-- What a selection makes of what its search comes to. -/
theorem select_cases (e : Engine) (i : NodeId) (p : Path) (w : World) :
    let search := upshot (e.find σ i p) (e.opened w)
    let outcome := upshot (e.select σ i p) w
    let w₁ := leave (e.find σ i p) (e.opened w)
    let w' := leave (e.select σ i p) w
    (∃ found, search = .ok found ∧ outcome = .ok found ∧
        w' = e.closed σ w.readings p.length found.length w₁) ∨
      (∃ g, search = .error (.failure g) ∧ outcome = .error (.failure g) ∧ w' = w₁.aborted g) ∨
      ∃ fault, search = .error (.fault fault) ∧ outcome = .error (.fault fault) ∧ w' = w₁ := by
  dsimp only
  delta upshot leave
  rw [e.run_select]
  cases (e.find σ i p).run (e.opened w) with
  | ok found w₁ => exact Or.inl ⟨found, rfl, rfl, rfl⟩
  | error r w₁ =>
    cases r with
    | failure g => exact Or.inr (Or.inl ⟨g, rfl, rfl, rfl⟩)
    | fault fault => exact Or.inr (Or.inr ⟨fault, rfl, rfl, rfl⟩)

theorem ledger_opened (e : Engine) (w : World) : (e.opened w).ledger = w.ledger := by
  rw [Engine.opened]
  split <;> rfl

theorem exists_ledger_closed (e : Engine) (σ : Setting) (start steps found : Nat) (w : World) :
    ∃ timing : List Event, (∀ x ∈ timing, ∃ d, x = .timed d) ∧
      (e.closed σ start steps found w).ledger =
        w.ledger.tell (timing ++ [.matched steps found]) := by
  rw [Engine.closed]
  split
  · refine ⟨[.timed (σ.clock w.readings - σ.clock start)], fun x hx ↦ ?_, ?_⟩
    · exact ⟨_, List.mem_singleton.1 hx⟩
    · simp [World.ledger, Ledger.tell]
  · refine ⟨[], fun x hx ↦ absurd hx List.not_mem_nil, ?_⟩
    simp [World.ledger, Ledger.tell]

theorem ledger_aborted (w : World) (g : Failure) :
    (w.aborted g).ledger =
      if g.number ∈ w.ledger.reported then w.ledger else w.ledger.abort g := by
  rw [World.aborted, List.contains_eq_mem]
  by_cases h : g.number ∈ w.reported
  · simp [h, World.ledger]
  · simp [h, World.ledger, Ledger.abort]

/-- What was added to the reports between two worlds. -/
theorem drop_events {w w' : World} {es : List Event}
    (h : w'.ledger.events = w.ledger.events ++ es) :
    w'.events.toList.drop w.events.size = es := by
  have hevents : w'.events.toList = w.events.toList ++ es := h
  rw [hevents, ← Array.length_toList, List.drop_left]

include hJ

theorem effect_selectHistory (e : Engine) (i : NodeId) (p : Path) (w : World) :
    Effect
      (.selection e i p (searchHistory σ J e i p (e.opened w))
        ((leave (e.select σ i p) w).events.toList.drop
          (leave (e.find σ i p) (e.opened w)).events.size)
        (upshot (e.select σ i p) w))
      (leave (e.find σ i p) (e.opened w)).ledger (leave (e.select σ i p) w).ledger := by
  have hfind := (followed_find hJ e i p).toFollowed
  rcases select_cases (σ := σ) e i p w with ⟨found, -, houtcome, hleave⟩ |
    ⟨g, hsearch, houtcome, hleave⟩ | ⟨fault, hsearch, houtcome, hleave⟩
  · obtain ⟨timing, htiming, hledger⟩ := exists_ledger_closed e σ w.readings p.length found.length
      (leave (e.find σ i p) (e.opened w))
    rw [← hleave] at hledger
    rw [houtcome, drop_events (congrArg Ledger.events hledger), hledger]
    exact .found htiming _
  · -- what a failure does here depends on whether another selection has reported it
    have hledger := ledger_aborted (leave (e.find σ i p) (e.opened w)) g
    have hmem := hfind.failure_mem hsearch
    rw [← hleave] at hledger
    by_cases hold : g.number ∈ (leave (e.find σ i p) (e.opened w)).ledger.reported
    · rw [if_pos hold] at hledger
      have hevents := congrArg Ledger.events hledger
      rw [houtcome, drop_events (hevents.trans (List.append_nil _).symm), hledger]
      exact .left hmem hold
    · rw [if_neg hold] at hledger
      rw [houtcome, drop_events (congrArg Ledger.events hledger), hledger]
      exact .aborted hmem hold
  · have hevents := congrArg (fun w' ↦ (World.ledger w').events) hleave
    rw [houtcome, drop_events (hevents.trans (List.append_nil _).symm), hleave]
    exact .broken (hfind.ordinary hsearch) _

theorem followed_select (e : Engine) (i : NodeId) (p : Path) :
    FollowedClosely (e.select σ i p) (selectHistory σ J e i p) := by
  have hfind := followed_find hJ e i p
  refine .single (fun w ↦ ?_) (fun w h hmem r hr ↦ ?_) (effect_selectHistory hJ e i p)
    fun w r ↦ ?_
  · rw [← ledger_opened e w]
    exact hfind.evolves (e.opened w)
  · have hsearch := hfind.passes hmem hr
    rcases select_cases (σ := σ) e i p w with ⟨found, hfound, -, -⟩ | ⟨g, hraised, houtcome, -⟩ |
      ⟨fault, hraised, houtcome, -⟩
    · cases hfound.symm.trans hsearch
    · cases hraised.symm.trans hsearch
      exact houtcome
    · cases hraised.symm.trans hsearch
      exact houtcome
  · cases upshot (e.select σ i p) w with
    | ok found => exact ⟨nofun, nofun⟩
    | error r' => rw [raised?, Option.some.injEq, Except.error.injEq]

end Searches

/-! ### Programs -/

/-- A program makes up no faults of the class of failures: unless it comes across one, it raises
none. -/
def Program.Honest : Program → Prop
  | answer _ | passOn _ => True
  | raise e => e.Ordinary
  | look next => ∀ w, (next w).Honest
  | note _ next => next.Honest
  | make _ next => ∀ r, (∀ e, r = .error (.fault e) → e.Ordinary) → (next r).Honest
  | test _ _ next => ∀ r, (∀ e, r = .error (.fault e) → e.Ordinary) → (next r).Honest
  | select _ _ _ next => ∀ r, (∀ e, r = .error (.fault e) → e.Ordinary) → (next r).Honest

theorem followed_report (n : Notice) :
    Followed (report (.notice n)) fun _ ↦ [.notice n] where
  evolves w := by
    have hledger : (leave (report (.notice n)) w).ledger = w.ledger.tell [.notice n] := by
      simp [leave, report, World.ledger, Ledger.tell]
    rw [hledger]
    exact .single (.nil _) trivial (.notice n _)
  failure_mem := nofun
  ordinary := nofun

/-- The making of a literal raises nothing but why the literal cannot be made. -/
theorem exists_literal_of_build {α : Type} {b : Build α} {w : World} {r : Raised}
    (h : upshot (build b) w = .error r) : ∃ e, r = .fault (.literal e) := by
  have hrun : (build b).run w = build b w := rfl
  rw [upshot, hrun, build] at h
  cases hb : b w.building with
  | ok a s =>
    rw [hb] at h
    cases h
  | error e s =>
    rw [hb] at h
    cases h
    exact ⟨e, rfl⟩

/-- The making of a literal reports what happens in it, and changes nothing else that is not about
literals. -/
theorem leave_build {α : Type} (b : Build α) (w : World) :
    ∃ (notices : Array Notice) (state : BuildState),
      leave (build b) w =
        { w with events := w.events ++ notices.map Event.notice, building := state } ∧
      buildHistory b w = notices.toList.map .notice := by
  have hrun : (build b).run w = build b w := rfl
  rw [leave, hrun, build, buildHistory]
  cases b w.building with
  | ok a s => exact ⟨s.notices, _, rfl, rfl⟩
  | error e s => exact ⟨s.notices, _, rfl, rfl⟩

theorem followed_build {α : Type} (b : Build α) : Followed (build b) (buildHistory b) := by
  refine ⟨fun w ↦ ?_, fun {w g} h ↦ ?_, fun {w e} h ↦ ?_⟩
  · obtain ⟨notices, state, hleave, hhistory⟩ := leave_build b w
    have htold : (leave (build b) w).ledger = w.ledger.tell (notices.toList.map .notice) := by
      rw [hleave]
      simp [World.ledger, Ledger.tell]
    rw [htold, hhistory]
    exact .notices _ _
  · obtain ⟨e, he⟩ := exists_literal_of_build h
    cases he
  · obtain ⟨e', he⟩ := exists_literal_of_build h
    cases he
    exact Fault.ordinary_literal e'

/-- A program that looks at what was done goes on in the same world. -/
theorem Program.run_look (σ : Setting) (next : World → Program) (w : World) :
    ((look next).run σ).run w = ((next w).run σ).run w := by
  rw [run, EStateM.run_bind, EStateM.run_get]

/-- A failure that is passed on was made; if there is none with the number, the answer is no. -/
theorem run_passOn_cases (σ : Setting) (number : Nat) (w : World) :
    (∃ g ∈ w.ledger.failures, ((Program.passOn number).run σ).run w = .error (.failure g) w) ∨
      ((Program.passOn number).run σ).run w = .ok false w := by
  rw [Program.run, EStateM.run_bind, EStateM.run_get]
  cases hg : w.failures[number]? with
  | some g =>
    refine Or.inl ⟨g, Array.mem_toList_iff.2 (Array.mem_of_getElem? hg), ?_⟩
    simp only [hg]
    rfl
  | none =>
    refine Or.inr ?_
    simp only [hg]
    rfl

theorem followed_passOn (σ : Setting) (number : Nat) :
    Followed ((Program.passOn number).run σ) .none := by
  refine ⟨fun w ↦ ?_, fun {w g} h ↦ ?_, fun {w e} h ↦ ?_⟩
  · rcases run_passOn_cases σ number w with ⟨g, -, hrun⟩ | hrun
    · rw [leave, hrun]
      exact .nil _
    · rw [leave, hrun]
      exact .nil _
  · rcases run_passOn_cases σ number w with ⟨g', hmem, hrun⟩ | hrun
    · rw [upshot, hrun] at h
      rw [leave, hrun]
      cases h
      exact hmem
    · rw [upshot, hrun] at h
      cases h
  · rcases run_passOn_cases σ number w with ⟨g', -, hrun⟩ | hrun
    · rw [upshot, hrun] at h
      cases h
    · rw [upshot, hrun] at h
      cases h

section Programs

variable {σ : Setting} {J : Predicate → NodeId → History}
  (hJ : ∀ p i, Followed (σ.judge p i) (J p i))

include hJ

theorem followed_program {P : Program} (hP : P.Honest) : Followed (P.run σ) (P.history σ J) := by
  induction P with
  | answer truth => exact .pure truth
  | raise e => exact .throw hP
  | passOn number => exact followed_passOn σ number
  | look next ih =>
    refine ⟨fun w ↦ ?_, fun {w g} h ↦ ?_, fun {w e} h ↦ ?_⟩
    · rw [leave, Program.run_look]
      exact (ih w (hP w)).evolves w
    · rw [upshot, Program.run_look] at h
      rw [leave, Program.run_look]
      exact (ih w (hP w)).failure_mem h
    · rw [upshot, Program.run_look] at h
      exact (ih w (hP w)).ordinary h
  | note n next ih =>
    rw [Program.run, Program.history]
    exact (followed_report n).bind fun _ ↦ ih hP
  | make b next ih =>
    rw [Program.run, Program.history]
    exact (followed_build b).bind_observe fun r hr ↦ ih r (hP r hr)
  | test i s next ih =>
    rw [Program.run, Program.history]
    exact (followed_test hJ i s).bind_observe fun r hr ↦ ih r (hP r hr)
  | select e i p next ih =>
    -- honest programs may raise again what they observe, so it matters that it is ordinary
    rw [Program.run, Program.history]
    exact (followed_select hJ e i p).bind_observe fun r hr ↦ ih r (hP r hr)

end Programs

theorem followed_judge (f : Forest) (clock : Nat → Rat) {programs : Programs}
    (hprograms : ∀ p i, (programs p i).Honest) (depth : Nat) (p : Predicate) (i : NodeId) :
    Followed (Judge.ofPrograms f clock programs depth p i)
      (Judge.history f clock programs depth p i) := by
  induction depth generalizing p i with
  | zero => exact .throw Fault.ordinary_tooDeep
  | succ depth ih => exact followed_program ih (hprograms p i)

end TreePath
