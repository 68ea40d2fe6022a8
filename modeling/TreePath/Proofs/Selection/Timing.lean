import TreePath.Proofs.Selection.Elapsing
import TreePath.Proofs.Selection.Reporting

/-!
# How long selections take

The duration that a timed selection reports is that of the selection itself, however deep selections
are nested and whichever of them are ended by a failure. A selection that returns reports one
duration, after all that is reported inside it, and it takes no less time than the timed selections
directly inside it do together; one that raises something reports none (`timed_selections`).

The timesheets that computations leave behind are those that their histories lead to (`Clocked`),
for all judges and programs; that programs are honest does not matter. There is one lemma for each
piece of the code, and searches are covered since calls are (`Clocked.composable`).

The readings of the clock are numbered, and the clock is a function of the number. So how long
something takes is a difference of two values of one function, and that the clock does not go back
is that the function is monotone. This is the only hypothesis. How much time passes between two
readings is left open, and it may be none.
-/

namespace TreePath

open SelectM Happening

/-! ### Computations and the clock -/

/-- The history of a computation leads to the timesheet that is left behind. -/
def Clocked (clock : Nat → Rat) {α : Type} (x : SelectM α) (H : History) : Prop :=
  ∀ w, Elapses clock w.timesheet (H w) (leave x w).timesheet

namespace Clocked

variable {clock : Nat → Rat} {α β : Type} {x : SelectM α} {g : α → SelectM β} {H : History}
  {K : α → History}

/-- Nothing happens in a computation that changes nothing. -/
theorem idle (hleave : ∀ w, leave x w = w) : Clocked clock x .none := by
  intro w
  rw [hleave]
  exact .nil _

theorem bind (hx : Clocked clock x H) (hg : ∀ a, Clocked clock (g a) (K a)) :
    Clocked clock (x >>= g) (.andThen x H K) := by
  intro w
  rw [History.andThen, leave_bind]
  cases upshot x w with
  | ok a => exact (hx w).append (hg a _)
  | error r => exact (hx w).append (.nil _)

theorem observe (hx : Clocked clock x H) : Clocked clock (SelectM.observe x) H := by
  intro w
  rw [(upshot_observe x w).2]
  exact hx w

theorem composable (clock : Nat → Rat) : Composable (@Clocked clock) where
  pure _ := idle fun _ ↦ rfl
  throw _ := idle fun _ ↦ rfl
  bind := bind

end Clocked

theorem World.timesheet_eq_tell {w w' : World} {es : List Event}
    (hevents : w'.events.toList = w.events.toList ++ es) (hreadings : w'.readings = w.readings) :
    w'.timesheet = w.timesheet.tell es := by
  rw [timesheet, hevents, hreadings]
  rfl

section Searches

variable {σ : Setting} {J : Predicate → NodeId → History}
  (hJ : ∀ p i, Clocked σ.clock (σ.judge p i) (J p i))

include hJ

/-- A call does not read the clock beside what the predicate's own code does. -/
theorem clocked_callPredicate (p : Predicate) (i : NodeId) :
    Clocked σ.clock (callPredicate σ p i) (callHistory σ J p i) := by
  intro w
  have hleave : (leave (callPredicate σ p i) w).timesheet =
      (leave (σ.judge p i) (w.called p i)).timesheet := by
    rcases callPredicate_cases σ p i w with ⟨_, -, -, hleave⟩ | ⟨_, -, -, hleave⟩ |
      ⟨_, -, -, -, hleave⟩ | ⟨_, -, -, -, hleave⟩ <;> rw [hleave]
    -- a failure that is made is not on the timesheet
    rfl
  rw [hleave]
  exact .single (hJ p i (w.called p i)) (.silent rfl rfl)

theorem clocked_test (i : NodeId) (s : Step) :
    Clocked σ.clock (matchesStep σ i s) (testHistory σ J i s) := by
  intro w
  have hstep := (Clocked.composable σ.clock).holds_matchesStep (clocked_callPredicate hJ) i s w
  exact .single hstep (.silent rfl rfl)

omit hJ

theorem timesheet_opened (e : Engine) (i : NodeId) (p : Path) (inside : List Happening)
    (told : List Event) (outcome : Except Raised (List NodeId)) (w : World) :
    (e.opened w).timesheet = (selection e i p inside told outcome).begun w.timesheet := by
  rw [Engine.opened, begun, isTimed]
  split <;> rfl

/-- A failure that leaves a selection tells no duration. -/
theorem exists_events_aborted (w : World) (g : Failure) :
    ∃ told : List Event, (w.aborted g).events.toList = w.events.toList ++ told ∧
      told.filterMap Event.duration? = [] ∧ (w.aborted g).readings = w.readings := by
  rw [World.aborted]
  split
  · exact ⟨[], (List.append_nil _).symm, rfl, rfl⟩
  · exact ⟨[.aborted g], Array.toList_push, rfl, rfl⟩

/-- A selection that is not timed or raises something, and tells no duration. -/
theorem stops_of_no_duration {clock : Nat → Rat} {start : Nat} {e : Engine} {i : NodeId} {p : Path}
    {inside : List Happening} {outcome : Except Raised (List NodeId)} {w w' : World}
    {told : List Event} (hevents : w'.events.toList = w.events.toList ++ told)
    (hreadings : w'.readings = w.readings) (hnone : told.filterMap Event.duration? = [])
    (hraised : e.timed = true → ∃ r, outcome = .error r) :
    Stops clock start (.selection e i p inside (w'.events.toList.drop w.events.size) outcome)
      w.timesheet w'.timesheet := by
  rw [drop_events hevents, World.timesheet_eq_tell hevents hreadings]
  have hraised' : (selection e i p inside told outcome).isTimed = true →
      (selection e i p inside told outcome).raised?.isSome := by
    intro htimed
    obtain ⟨r, rfl⟩ := hraised htimed
    rfl
  exact .other hraised' hnone _

theorem stops_selectHistory (e : Engine) (i : NodeId) (p : Path) (inside : List Happening)
    (w : World) :
    Stops σ.clock w.readings
      (.selection e i p inside
        ((leave (e.select σ i p) w).events.toList.drop
          (leave (e.find σ i p) (e.opened w)).events.size)
        (upshot (e.select σ i p) w))
      (leave (e.find σ i p) (e.opened w)).timesheet (leave (e.select σ i p) w).timesheet := by
  rcases select_cases (σ := σ) e i p w with ⟨found, -, houtcome, hleave⟩ |
    ⟨g, -, houtcome, hleave⟩ | ⟨fault, -, houtcome, hleave⟩
  · rw [houtcome, hleave]
    generalize leave (e.find σ i p) (e.opened w) = w₁
    rw [Engine.closed]
    split
    · next htimed =>
      let d := σ.clock w₁.readings - σ.clock w.readings
      let w' : World := { w₁ with
        events := (w₁.events.push (.timed d)).push (.matched p.length found.length)
        readings := w₁.readings + 1 }
      have hevents : w'.events.toList =
          w₁.events.toList ++ [.timed d, .matched p.length found.length] := by
        simp [w']
      have htimesheet : w'.timesheet =
          w₁.timesheet.tick.tell [.timed d, .matched p.length found.length] := by
        rw [World.timesheet, hevents]
        rfl
      have htold : w'.events.toList.drop w₁.events.size =
          [.timed d, .matched p.length found.length] := drop_events hevents
      rw [htold, htimesheet]
      exact .returned htimed w₁.timesheet
    · next htimed => exact stops_of_no_duration Array.toList_push rfl rfl fun h ↦ absurd h htimed
  · obtain ⟨told, hevents, hnone, hreadings⟩ :=
      exists_events_aborted (leave (e.find σ i p) (e.opened w)) g
    rw [houtcome, hleave]
    exact stops_of_no_duration hevents hreadings hnone fun _ ↦ ⟨_, rfl⟩
  · rw [houtcome, hleave]
    exact stops_of_no_duration (List.append_nil _).symm rfl rfl fun _ ↦ ⟨_, rfl⟩

include hJ

/-- A selection leaves the timesheet that its history leads to. -/
theorem clocked_select (e : Engine) (i : NodeId) (p : Path) :
    Clocked σ.clock (e.select σ i p) (selectHistory σ J e i p) := by
  intro w
  have hfind :=
    (Clocked.composable σ.clock).holds_find (clocked_callPredicate hJ) e i p (e.opened w)
  have hstops := stops_selectHistory (σ := σ) e i p (searchHistory σ J e i p (e.opened w)) w
  rw [timesheet_opened e i p] at hfind
  exact .single hfind hstops

end Searches

/-! ### Programs -/

theorem clocked_report (clock : Nat → Rat) (n : Notice) :
    Clocked clock (report (.notice n)) fun _ ↦ [.notice n] := by
  intro w
  have htold : (leave (report (.notice n)) w).timesheet = w.timesheet.tell [.notice n] :=
    World.timesheet_eq_tell Array.toList_push rfl
  rw [htold]
  exact .notices [n] _

theorem clocked_build {α : Type} (clock : Nat → Rat) (b : Build α) :
    Clocked clock (build b) (buildHistory b) := by
  intro w
  obtain ⟨notices, state, hleave, hhistory⟩ := leave_build b w
  have htold : (leave (build b) w).timesheet = w.timesheet.tell (notices.toList.map .notice) := by
    rw [hleave]
    exact World.timesheet_eq_tell (by simp) rfl
  rw [htold, hhistory]
  exact .notices _ _

theorem leave_passOn (σ : Setting) (number : Nat) (w : World) :
    leave ((Program.passOn number).run σ) w = w := by
  rcases run_passOn_cases σ number w with ⟨g, -, hrun⟩ | hrun
  · rw [leave, hrun]
  · rw [leave, hrun]

/-- Whatever a program does, it reads the clock in its selections only. -/
theorem clocked_program {σ : Setting} {J : Predicate → NodeId → History}
    (hJ : ∀ p i, Clocked σ.clock (σ.judge p i) (J p i)) (P : Program) :
    Clocked σ.clock (P.run σ) (P.history σ J) := by
  induction P with
  | answer truth => exact .idle fun _ ↦ rfl
  | raise e => exact .idle fun _ ↦ rfl
  | passOn number => exact .idle (leave_passOn σ number)
  | look next ih =>
    intro w
    rw [leave, Program.run_look]
    exact ih w w
  | note n next ih =>
    rw [Program.run, Program.history]
    exact (clocked_report σ.clock n).bind fun _ ↦ ih
  | make b next ih =>
    rw [Program.run, Program.history]
    exact (clocked_build σ.clock b).observe.bind ih
  | test i s next ih =>
    rw [Program.run, Program.history]
    exact (clocked_test hJ i s).observe.bind ih
  | select e i p next ih =>
    rw [Program.run, Program.history]
    exact (clocked_select hJ e i p).observe.bind ih

/-- So does a predicate's own code, to any depth. -/
theorem clocked_judge (f : Forest) (clock : Nat → Rat) (programs : Programs) (depth : Nat)
    (p : Predicate) (i : NodeId) :
    Clocked clock (Judge.ofPrograms f clock programs depth p i)
      (Judge.history f clock programs depth p i) := by
  induction depth generalizing p i with
  | zero => exact .idle fun _ ↦ rfl
  | succ depth ih =>
    exact clocked_program (σ := .ofPrograms f clock programs depth) ih (programs p i)

/-- What happens in a session leads to the timesheet that is left behind. -/
theorem Session.elapses (s : Session) :
    Elapses s.clock ⟨[], 0⟩ s.history s.final.timesheet :=
  clocked_program (σ := s.setting) (clocked_judge s.forest s.clock s.programs s.depth) s.main
    default

/-! ### The durations of a session -/

theorem countP_tellsDuration (told : List Event) :
    told.countP Event.tellsDuration = (told.filterMap Event.duration?).length := by
  induction told with
  | nil => rfl
  | cons x rest ih =>
    rw [List.countP_cons, ih, Event.tellsDuration_eq, List.filterMap_cons]
    cases x.duration? with
    | none => rfl
    | some d => rfl

namespace Happening.Stops

variable {clock : Nat → Rat} {start : Nat} {e : Engine} {i : NodeId} {p : Path}
  {inside : List Happening} {told : List Event} {t t' : Timesheet}

/-- A timed selection that returns reports the time since it began, and then how much it found. -/
theorem told_of_ok {found : List NodeId}
    (hstops : (selection e i p inside told (.ok found)).Stops clock start t t')
    (htimed : e.timed = true) :
    told = [.timed (clock t.readings - clock start), .matched p.length found.length] := by
  cases hstops with
  | returned => rfl
  | other hraised => cases hraised htimed

/-- A selection that is not timed or raises something tells no duration. -/
theorem countP_eq_zero {outcome : Except Raised (List NodeId)}
    (hstops : (selection e i p inside told outcome).Stops clock start t t')
    (hwithout : e.timed = false ∨ ∃ r, outcome = .error r) :
    told.countP Event.tellsDuration = 0 := by
  cases hstops with
  | returned htimed =>
    rcases hwithout with hnot | ⟨r, hr⟩
    · cases hnot.symm.trans htimed
    · cases hr
  | other _ hnone =>
    have hlength := congrArg List.length hnone
    rw [countP_tellsDuration]
    exact hlength

end Happening.Stops

/-- **A timed selection that returns tells its duration once, after the selections inside it have
told theirs, and takes at least as long as the timed selections directly inside it together.** The
log consists of what the happenings of the session report, in the order in which they come to an
end, and what happened inside a selection comes to its end just before it does. A selection that is
not timed, or that raises something, tells no duration, even if that is only because no path can be
made of what it was given. All of this holds of every session in which time does not run backwards.
-/
theorem timed_selections {s : Session} (hclock : Monotone s.clock) :
    s.final.events.toList = s.endings.flatMap reports ∧
      (∀ before e i p inside told outcome after,
        s.endings = before ++ .selection e i p inside told outcome :: after →
          ∃ earlier, before = earlier ++ endingsOf inside ∧
            s.final.events.toList = earlier.flatMap reports ++
              ((endingsOf inside).flatMap reports ++ (told ++ after.flatMap reports))) ∧
      (∀ e i p inside told found, .selection e i p inside told (.ok found) ∈ s.endings →
        e.timed = true →
          ∃ d, told = [.timed d, .matched p.length found.length] ∧
            (Event.timed d).record.message =
              "SelectorEngine select took " ++ Decimal.fixedRat 4 d ++ " seconds" ∧
            told.countP Event.tellsDuration = 1 ∧
            ((outermostOf inside).flatMap durations).sum ≤ d) ∧
      (∀ e i p inside told outcome, .selection e i p inside told outcome ∈ s.endings →
        (e.timed = false ∨ ∃ r, outcome = .error r) → told.countP Event.tellsDuration = 0) ∧
      ∀ (e : Engine) (σ : Setting) (i : NodeId) (v : Literal) (w : World) (r : Raised),
        upshot (build (asPath v)) w = .error r →
          upshot (e.selectLiteral σ i v) w = .error r ∧
            ∃ told : List Event, (leave (e.selectLiteral σ i v) w).events.toList =
              w.events.toList ++ told ∧ told.countP Event.tellsDuration = 0 := by
  have hevents : s.final.events.toList = s.endings.flatMap reports := s.elapses.events_eq
  refine ⟨hevents, fun before e i p inside told outcome after hsplit ↦ ?_,
    fun e i p inside told found hmem htimed ↦ ?_,
    fun e i p inside told outcome hmem hwithout ↦ ?_, fun e σ i v w r hrefused ↦ ⟨?_, ?_⟩⟩
  · obtain ⟨earlier, rfl⟩ := exists_append_of_endingsOf hsplit
    refine ⟨earlier, rfl, ?_⟩
    rw [hevents, hsplit, List.flatMap_append, List.flatMap_append, List.flatMap_cons,
      List.append_assoc]
    rfl
  · obtain ⟨t₀, t₁, t₂, hinside, hstops⟩ := s.elapses.stops_of_mem hmem
    have hbegun := hclock (readings_le_begun (.selection e i p inside told (.ok found)) t₀)
    have htold := hstops.told_of_ok htimed
    refine ⟨_, htold, Event.message_timed _, ?_, ?_⟩
    · rw [countP_tellsDuration, htold]
      rfl
    · -- the clock is read for the first time before anything inside happens
      exact (hinside.sum_durations_le hclock).trans (sub_le_sub_left hbegun _)
  · obtain ⟨t₀, t₁, t₂, -, hstops⟩ := s.elapses.stops_of_mem hmem
    exact hstops.countP_eq_zero hwithout
  · rw [Engine.selectLiteral, upshot_bind, hrefused]
  · obtain ⟨notices, hnotices⟩ := exists_notices_build (asPath v) w
    refine ⟨notices.map .notice, ?_, ?_⟩
    · rw [Engine.selectLiteral, leave_bind, hrefused]
      exact hnotices
    · rw [countP_tellsDuration, List.filterMap_map, List.length_eq_zero_iff,
        List.filterMap_eq_nil_iff]
      exact fun _ _ ↦ rfl

/-! ### A timed session -/

/-- The predicate that raises a fault, and the other one with two selections of its own, of which
the second comes to nothing. -/
def nestedPrograms : Programs := fun p _ ↦
  if p.id = "inner" then .raise sampleFault
  else
    .select ⟨.iterative, true⟩ 0 ⟨.name "a", []⟩ fun _ ↦
      .select ⟨.iterative, true⟩ 0 ⟨.predicate sampleInner, []⟩ fun _ ↦ .answer true

/-- From the document of the sample calls, a selection in which others are made, some of which are
ended by failures. The clock goes on by one at each reading. -/
def timedSession : Session where
  forest := Call.run .empty Forest.sampleCalls
  clock n := n
  programs := nestedPrograms
  depth := 2
  main := .select ⟨.recursive, true⟩ 0 ⟨.predicate sampleOuter, []⟩ fun _ ↦ .answer true

/-- All that happens in the timed session is one selection. Four others are directly inside it, of
which two return. -/
theorem timedSession_history :
    ∃ inside told outcome,
      timedSession.history =
        [.selection ⟨.recursive, true⟩ 0 ⟨.predicate sampleOuter, []⟩ inside told outcome] ∧
      told = [.timed 7, .matched 1 2] ∧ outcome = .ok [1, 2] ∧
      (outermostOf inside).map durations = [[1], [], [1], []] := by
  have hhistory (e : Engine) (i : NodeId) (p : Path) (answer : Bool) (σ : Setting)
      (J : Predicate → NodeId → History) (w : World) :
      (Program.select e i p fun _ ↦ .answer answer).history σ J w = selectHistory σ J e i p w := by
    have hnone := History.andThen_none (SelectM.observe (e.select σ i p)) (selectHistory σ J e i p)
    rw [Program.history]
    exact congrFun hnone w
  exact ⟨_, _, _, hhistory .., by decide +kernel, by decide +kernel, by decide +kernel⟩

/-- In the timed session two selections of one second each, and two that tell no duration, are made
inside one of seven seconds. -/
theorem timed_selections_nested :
    Monotone timedSession.clock ∧
      ∃ inside told, .selection ⟨.recursive, true⟩ 0 ⟨.predicate sampleOuter, []⟩ inside told
          (.ok [1, 2]) ∈ timedSession.endings ∧
        told = [.timed 7, .matched 1 2] ∧ told.countP Event.tellsDuration = 1 ∧
        (outermostOf inside).map durations = [[1], [], [1], []] ∧
        ((outermostOf inside).flatMap durations).sum ≤ 7 := by
  have hclock : Monotone timedSession.clock := fun _ _ h ↦ Nat.cast_le.2 h
  obtain ⟨-, -, htimed, -⟩ := timed_selections hclock
  obtain ⟨inside, told, outcome, hhistory, htold, rfl, hdurations⟩ := timedSession_history
  have hmem : .selection ⟨.recursive, true⟩ 0 ⟨.predicate sampleOuter, []⟩ inside told
      (.ok [1, 2]) ∈ timedSession.endings := by
    rw [Session.endings, hhistory, endingsOf_cons]
    exact List.mem_append_right _ List.mem_cons_self
  obtain ⟨d, htold', -, hcount, hsum⟩ := htimed _ _ _ _ _ _ hmem rfl
  obtain rfl : d = 7 := by
    cases htold.symm.trans htold'
    rfl
  exact ⟨hclock, inside, told, hmem, htold, hcount, hdurations, hsum⟩

end TreePath
