import Mathlib.Algebra.Order.BigOperators.Group.List
import Mathlib.Algebra.Order.Ring.Rat
import Mathlib.Tactic.Linarith
import TreePath.Proofs.Selection.History

/-!
# The passing of time

What histories do to the clock and the log. Of the world only two things matter here, the
*timesheet*: what was reported, and how often the clock was read. A timed selection reads the clock
when it begins and, if it returns, once more at its end, and reports the difference; nothing else
reads the clock (`Happening.Stops`). `Elapses clock t hs t'` says that the happenings of a history
lead from one timesheet to another in this way.

While the clock does not go back, what is measured inside a selection is no more than what is
measured from its beginning to its end. Of the selections inside a timed one, those that no other
timed one is around (`Happening.outermostOf`) end before the next one begins, so what they report
adds up to no more than that (`Elapses.sum_durations_le`). Whichever of them raise something does
not matter, since those read the clock only once and report no duration.

Durations are rational numbers, and their sum is compared with a difference of readings. Nothing is
rounded, so that the comparison holds without a margin.
-/

namespace TreePath

open Happening

/-! ### Durations in the log -/

/-- The duration that is reported. -/
def Event.duration? : Event → Option Rat
  | timed d => some d
  | _ => none

/-- An event is logged with a text that tells how long a selection took. -/
def Event.tellsDuration (x : Event) : Bool :=
  "SelectorEngine select took ".toList.isPrefixOf x.record.message.toList

theorem Event.message_timed (d : Rat) :
    (timed d).record.message =
      "SelectorEngine select took " ++ Decimal.fixedRat 4 d ++ " seconds" :=
  rfl

/-- A text that begins otherwise tells no duration. -/
theorem Event.tellsDuration_eq_false {x : Event} {opening rest : String}
    (hmessage : x.record.message = opening ++ rest)
    (hopening : ¬ "SelectorEngine select took ".toList <+: opening.toList)
    (hduration : ¬ opening.toList <+: "SelectorEngine select took ".toList) :
    x.tellsDuration = false := by
  rw [tellsDuration, hmessage, String.toList_append, Bool.eq_false_iff, ne_eq,
    List.isPrefixOf_iff_prefix]
  intro hprefix
  have hrest := List.prefix_append opening.toList rest.toList
  exact (List.prefix_or_prefix_of_prefix hprefix hrest).elim hopening hduration

/-- Nothing but a duration is logged with such a text. -/
theorem Event.tellsDuration_eq (x : Event) : x.tellsDuration = x.duration?.isSome := by
  cases x with
  | timed d =>
    rw [tellsDuration, message_timed, String.append_assoc, String.toList_append]
    exact List.isPrefixOf_iff_prefix.2 (List.prefix_append _ _)
  | notice n =>
    cases n with
    | emptyConjunction => rfl
    | engineReady strategy =>
      exact tellsDuration_eq_false (String.append_assoc ..) (by simp) (by simp)
  | aborted e =>
    have hmessage : (aborted e).record.message = "Selection aborted: " ++ e.message := rfl
    exact tellsDuration_eq_false hmessage (by simp) (by simp)
  | untimed name =>
    have hmessage : (untimed name).record.message = "No start time found for " ++ name := rfl
    exact tellsDuration_eq_false hmessage (by simp) (by simp)
  | matched steps elements =>
    have hmessage : (matched steps elements).record.message =
        "Path of " ++ (toString steps ++ " step(s) matched " ++ toString elements ++
          " element(s)") := by
      simp only [record, Record.plain, String.append_assoc]
    exact tellsDuration_eq_false hmessage (by simp) (by simp)

namespace Happening

/-- The durations that were reported, apart from those that were reported inside. -/
def durations (h : Happening) : List Rat :=
  h.reports.filterMap Event.duration?

/-- A happening is a selection that is timed. -/
def isTimed : Happening → Bool
  | selection e .. => e.timed
  | _ => false

mutual

/-- The timed selections in a happening, itself included, that no other timed selection is around.
-/
def outermost : Happening → List Happening
  | notice _ => []
  | call _ _ inside _ _ => outermostOf inside
  | test _ _ inside _ => outermostOf inside
  | selection e i p inside reports outcome =>
    if e.timed then [selection e i p inside reports outcome] else outermostOf inside

/-- The timed selections in a history that no other timed selection is around. -/
def outermostOf : List Happening → List Happening
  | [] => []
  | h :: hs => outermost h ++ outermostOf hs

end

theorem outermostOf_cons (h : Happening) (hs : List Happening) :
    outermostOf (h :: hs) =
      (if h.isTimed then [h] else outermostOf h.inside) ++ outermostOf hs := by
  cases h with
  | notice | call | test => simp [outermostOf, outermost, isTimed, inside]
  | selection e i p inside reports outcome =>
    rw [outermostOf, outermost]
    rfl

theorem sizeOf_inside_lt (h : Happening) (hs : List Happening) :
    sizeOf h.inside < sizeOf (h :: hs) := by
  cases h <;> simp +arith [inside]

/-- To show something of every history it is enough to show it of nothing, and of something that
happens before the rest if it holds of what happened inside and of the rest. -/
@[elab_as_elim]
theorem history_induction {motive : List Happening → Prop} (nil : motive [])
    (cons : ∀ h hs, motive h.inside → motive hs → motive (h :: hs)) : ∀ hs, motive hs
  | [] => nil
  | h :: hs => cons h hs (history_induction nil cons h.inside) (history_induction nil cons hs)
termination_by hs => sizeOf hs
decreasing_by
  · exact sizeOf_inside_lt h hs
  · simp +arith

/-- What happened inside came to its end just before. -/
theorem exists_append_of_endingsOf {hs before after : List Happening} {h : Happening}
    (heq : endingsOf hs = before ++ h :: after) :
    ∃ earlier, before = earlier ++ endingsOf h.inside := by
  induction hs using history_induction generalizing before after with
  | nil => exact absurd heq.symm (List.append_ne_nil_of_right_ne_nil _ (List.cons_ne_nil _ _))
  | cons h' hs ihinside ihrest =>
    rw [endingsOf_cons] at heq
    -- it came to its end in the first happening, or is that, or came to its end in the rest
    rcases List.append_eq_append_iff.1 heq with ⟨mid, hbefore, hafter⟩ | ⟨mid, hinside, hafter⟩
    · cases mid with
      | nil =>
        cases hafter
        exact ⟨[], by rw [hbefore, List.append_nil, List.nil_append]⟩
      | cons h'' mid =>
        obtain ⟨rfl, hrest⟩ := List.cons.inj hafter
        obtain ⟨earlier, rfl⟩ := ihrest hrest
        exact ⟨endingsOf h'.inside ++ h' :: earlier, by simp [hbefore]⟩
    · cases mid with
      | nil =>
        cases hafter
        exact ⟨[], by rw [hinside, List.append_nil, List.nil_append]⟩
      | cons h'' mid =>
        obtain ⟨rfl, -⟩ := List.cons.inj hafter
        exact ihinside hinside

end Happening

/-! ### Timesheets -/

/-- What was reported, and how often the clock was read. -/
structure Timesheet where
  /-- The reports, in order. -/
  events : List Event
  /-- How often the clock was read. -/
  readings : Nat

/-- The timesheet of a world. -/
def World.timesheet (w : World) : Timesheet :=
  ⟨w.events.toList, w.readings⟩

namespace Timesheet

/-- A timesheet with more reports. -/
def tell (t : Timesheet) (es : List Event) : Timesheet :=
  { t with events := t.events ++ es }

/-- A timesheet with one more reading of the clock. -/
def tick (t : Timesheet) : Timesheet :=
  { t with readings := t.readings + 1 }

theorem tell_nil (t : Timesheet) : t.tell [] = t := by
  rw [tell, List.append_nil]

end Timesheet

namespace Happening

/-- The timesheet when a happening has begun: a timed selection has read the clock. -/
def begun (h : Happening) (t : Timesheet) : Timesheet :=
  if h.isTimed then t.tick else t

/-- What a happening does to the timesheet when all that happened inside it is over, if the clock
had been read so often before it began. -/
inductive Stops (clock : Nat → Rat) (start : Nat) : Happening → Timesheet → Timesheet → Prop
  /-- A timed selection returns. It reads the clock again and reports the difference, and then how
  much it found. -/
  | returned {e : Engine} {i : NodeId} {p : Path} {inside : List Happening} {found : List NodeId}
    (he : e.timed = true) (t : Timesheet) :
    Stops clock start
      (.selection e i p inside
        [.timed (clock t.readings - clock start), .matched p.length found.length] (.ok found))
      t (t.tick.tell [.timed (clock t.readings - clock start), .matched p.length found.length])
  /-- Anything else does not read the clock, and no duration is reported. -/
  | other {h : Happening} (hraised : h.isTimed = true → h.raised?.isSome) (hnone : h.durations = [])
    (t : Timesheet) : Stops clock start h t (t.tell h.reports)

variable {clock : Nat → Rat} {start : Nat} {h : Happening} {t t' : Timesheet}

/-- The end of something that is no timed selection and reports nothing changes nothing. -/
theorem Stops.silent (htimed : h.isTimed = false) (hnone : h.reports = []) :
    h.Stops clock start t t := by
  have hstops : h.Stops clock start t (t.tell h.reports) :=
    .other (by simp [htimed]) (by simp [durations, hnone]) t
  rwa [hnone, Timesheet.tell_nil] at hstops

theorem Stops.events_eq (hstops : h.Stops clock start t t') :
    t'.events = t.events ++ h.reports := by
  cases hstops <;> rfl

theorem Stops.readings_le (hstops : h.Stops clock start t t') : t.readings ≤ t'.readings := by
  cases hstops with
  | returned => exact Nat.le_succ _
  | other => exact Nat.le_refl _

theorem events_begun (h : Happening) (t : Timesheet) : (h.begun t).events = t.events := by
  rw [begun]
  split <;> rfl

theorem readings_le_begun (h : Happening) (t : Timesheet) : t.readings ≤ (h.begun t).readings := by
  rw [begun]
  split
  · exact Nat.le_succ _
  · exact Nat.le_refl _

/-- What a happening reports itself does not exceed the time from its beginning to its end. -/
theorem Stops.sum_durations_le (hclock : Monotone clock) (hstops : h.Stops clock start t t')
    (hstart : start ≤ t.readings) : h.durations.sum ≤ clock t'.readings - clock start := by
  have hend := hclock hstops.readings_le
  cases hstops with
  | returned =>
    have hdurations : [clock t.readings - clock start].sum = clock t.readings - clock start :=
      List.sum_singleton
    exact hdurations.trans_le (sub_le_sub_right hend _)
  | other _ hnone =>
    rw [hnone, List.sum_nil]
    exact sub_nonneg.2 (hclock hstart |>.trans hend)

end Happening

/-- The happenings of a history lead from one timesheet to another. -/
inductive Elapses (clock : Nat → Rat) : Timesheet → List Happening → Timesheet → Prop
  /-- Nothing happens. -/
  | nil (t : Timesheet) : Elapses clock t [] t
  /-- Something happens before the rest. -/
  | cons {t t₁ t₂ t' : Timesheet} {h : Happening} {hs : List Happening}
    (inside : Elapses clock (h.begun t) h.inside t₁) (stops : h.Stops clock t.readings t₁ t₂)
    (rest : Elapses clock t₂ hs t') : Elapses clock t (h :: hs) t'

namespace Elapses

variable {clock : Nat → Rat} {t t₁ t' : Timesheet} {hs hs' : List Happening} {h : Happening}

theorem append (helapses : Elapses clock t hs t₁) (helapses' : Elapses clock t₁ hs' t') :
    Elapses clock t (hs ++ hs') t' := by
  induction helapses with
  | nil t => exact helapses'
  | cons inside stops _ _ ih => exact cons inside stops (ih helapses')

theorem single (inside : Elapses clock (h.begun t) h.inside t₁)
    (stops : h.Stops clock t.readings t₁ t') : Elapses clock t [h] t' :=
  cons inside stops (nil t')

theorem notices (ns : List Notice) (t : Timesheet) :
    Elapses clock t (ns.map .notice) (t.tell (ns.map .notice)) := by
  induction ns generalizing t with
  | nil =>
    rw [List.map_nil, List.map_nil, Timesheet.tell_nil]
    exact nil t
  | cons n rest ih =>
    have hrest := ih (t.tell [.notice n])
    rw [Timesheet.tell, Timesheet.tell, List.append_assoc] at hrest
    exact cons (nil t) (.other (by simp [isTimed]) rfl t) hrest

variable (helapses : Elapses clock t hs t')

include helapses

theorem events_eq : t'.events = t.events ++ (endingsOf hs).flatMap reports := by
  induction helapses with
  | nil t => exact (List.append_nil _).symm
  | cons _ stops _ ihinside ihrest =>
    rw [ihrest, stops.events_eq, ihinside, events_begun, endingsOf_cons, List.flatMap_append,
      List.flatMap_cons, List.append_assoc, List.append_assoc]

theorem readings_le : t.readings ≤ t'.readings := by
  induction helapses with
  | nil t => exact Nat.le_refl _
  | @cons t _ _ _ h _ _ stops _ ihinside ihrest =>
    exact (readings_le_begun h t).trans (ihinside.trans (stops.readings_le.trans ihrest))

/-- Whatever comes to an end was begun before, and ends when all that happened inside it is over. -/
theorem stops_of_mem (hmem : h ∈ endingsOf hs) :
    ∃ t₀ t₁ t₂, Elapses clock (h.begun t₀) h.inside t₁ ∧ h.Stops clock t₀.readings t₁ t₂ := by
  induction helapses with
  | nil t => cases hmem
  | cons inside stops _ ihinside ihrest =>
    rw [endingsOf_cons] at hmem
    rcases List.mem_append.1 hmem with hmem | hmem
    · exact ihinside hmem
    · rcases List.mem_cons.1 hmem with rfl | hmem
      · exact ⟨_, _, _, inside, stops⟩
      · exact ihrest hmem

/-- The timed selections that no other one is around take no longer together than all that
happens. -/
theorem sum_durations_le (hclock : Monotone clock) :
    ((outermostOf hs).flatMap durations).sum ≤ clock t'.readings - clock t.readings := by
  induction helapses with
  | nil t =>
    rw [sub_self]
    exact le_of_eq List.sum_nil
  | @cons t t₁ t₂ t' h hs inside stops rest ihinside ihrest =>
    -- the first happening counts itself or what is inside it, and is over when the rest begins
    have hfirst : ((if h.isTimed then [h] else outermostOf h.inside).flatMap durations).sum ≤
        clock t₂.readings - clock t.readings := by
      cases htimed : h.isTimed with
      | true =>
        have hstart := (readings_le_begun h t).trans inside.readings_le
        simpa using stops.sum_durations_le hclock hstart
      | false =>
        have hbegun : h.begun t = t := by simp [begun, htimed]
        rw [hbegun] at ihinside
        exact ihinside.trans (sub_le_sub_right (hclock stops.readings_le) _)
    rw [outermostOf_cons, List.flatMap_append, List.sum_append]
    linarith only [hfirst, ihrest]

end Elapses

end TreePath
