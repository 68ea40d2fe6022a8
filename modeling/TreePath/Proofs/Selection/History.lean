import TreePath.Proofs.Selection.Selecting
import TreePath.Selection.Program

/-!
# Histories

What goes on in a run, as a tree. Programs test steps and make selections, and report what they
make; tests and selections call predicates; and the own code of a predicate is a program again. A
`Happening` is one of these with all that happened inside it, what it came to, and what it reported
itself. `endingsOf` lists the happenings of a history in the order in which they came to an end.

The history of a computation is what happens when it is run from a given world. There is one
function for each piece of the code, put together as the code is (`History.andThen`): what follows
happens if the first part returns, in the world that it leaves behind. Nothing here says what a
predicate may come to, or when a selection reports; the histories only record it.

Histories are functions and not a relation, so that everything that goes on in a run can be computed
and a sample of them can be looked at. A judge gives no history by itself; it is a parameter, what
happens in a call of each predicate on each node. For judges that run programs it is given by
recursion on how deep calls may be nested, next to the judge itself.
-/

namespace TreePath

namespace SelectM

variable {α β : Type}

/-- What a computation returns or raises. -/
def upshot (x : SelectM α) (w : World) : Except Raised α :=
  match x.run w with
  | .ok a _ => .ok a
  | .error r _ => .error r

/-- The world that a computation leaves behind, whether it returns or raises something. -/
def leave (x : SelectM α) (w : World) : World :=
  match x.run w with
  | .ok _ w' => w'
  | .error _ w' => w'

theorem upshot_bind (x : SelectM α) (g : α → SelectM β) (w : World) :
    upshot (x >>= g) w =
      match upshot x w with
      | .ok a => upshot (g a) (leave x w)
      | .error r => .error r := by
  rw [upshot, upshot, leave, EStateM.run_bind]
  cases x.run w with
  | ok a w' => rfl
  | error r w' => rfl

theorem leave_bind (x : SelectM α) (g : α → SelectM β) (w : World) :
    leave (x >>= g) w =
      match upshot x w with
      | .ok a => leave (g a) (leave x w)
      | .error _ => leave x w := by
  rw [upshot, leave, leave, EStateM.run_bind]
  cases x.run w with
  | ok a w' => rfl
  | error r w' => rfl

theorem upshot_observe (x : SelectM α) (w : World) :
    upshot (observe x) w = .ok (upshot x w) ∧ leave (observe x) w = leave x w := by
  delta upshot leave observe EStateM.run
  cases x w with
  | ok a w' => exact ⟨rfl, rfl⟩
  | error r w' => exact ⟨rfl, rfl⟩

end SelectM

open SelectM

/-! ### Happenings -/

/-- Something that happened in a run. -/
inductive Happening where
  /-- Something was made and reported. -/
  | notice (n : Notice)
  /-- A predicate was called with a node. Its own code came to something, and so did the call. -/
  | call (p : Predicate) (i : NodeId) (inside : List Happening) (own outcome : Except Raised Bool)
  /-- A step was tested by a program. -/
  | test (i : NodeId) (s : Step) (inside : List Happening) (outcome : Except Raised Bool)
  /-- A selection was made. It reported something itself and came to something. -/
  | selection (e : Engine) (i : NodeId) (p : Path) (inside : List Happening) (reports : List Event)
    (outcome : Except Raised (List NodeId))

namespace Happening

/-- What happened inside. -/
def inside : Happening → List Happening
  | notice _ => []
  | call _ _ inside _ _ => inside
  | test _ _ inside _ => inside
  | selection _ _ _ inside _ _ => inside

/-- What was reported, apart from what was reported inside. -/
def reports : Happening → List Event
  | notice n => [.notice n]
  | call .. => []
  | test .. => []
  | selection _ _ _ _ reports _ => reports

/-- What left the call, the test or the selection, if something was raised. -/
def raised? : Happening → Option Raised
  | call _ _ _ _ (.error r) => some r
  | test _ _ _ (.error r) => some r
  | selection _ _ _ _ _ (.error r) => some r
  | _ => none

/-- A failure left a selection. -/
def Leaves (h : Happening) (g : Failure) : Prop :=
  ∃ e i p inside reports, h = selection e i p inside reports (.error (.failure g))

theorem leaves_selection_iff {e : Engine} {i : NodeId} {p : Path} {inside : List Happening}
    {reports : List Event} {outcome : Except Raised (List NodeId)} {g : Failure} :
    (selection e i p inside reports outcome).Leaves g ↔ outcome = .error (.failure g) := by
  constructor
  · rintro ⟨_, _, _, _, _, heq⟩
    cases heq
    rfl
  · rintro rfl
    exact ⟨e, i, p, inside, reports, rfl⟩

instance (h : Happening) (g : Failure) : Decidable (h.Leaves g) :=
  match h with
  | selection _ _ _ _ _ (.error (.failure g')) =>
    decidable_of_iff (g' = g) (by
      rw [leaves_selection_iff, Except.error.injEq, Raised.failure.injEq])
  | selection _ _ _ _ _ (.error (.fault _)) | selection _ _ _ _ _ (.ok _)
  | notice _ | call .. | test .. => isFalse fun ⟨_, _, _, _, _, heq⟩ ↦ by cases heq

mutual

/-- What came to an end in a happening, in this order; itself comes last. -/
def endings : Happening → List Happening
  | notice n => [notice n]
  | call p i inside own outcome => endingsOf inside ++ [call p i inside own outcome]
  | test i s inside outcome => endingsOf inside ++ [test i s inside outcome]
  | selection e i p inside reports outcome =>
    endingsOf inside ++ [selection e i p inside reports outcome]

/-- What came to an end in a history, in this order. -/
def endingsOf : List Happening → List Happening
  | [] => []
  | h :: hs => endings h ++ endingsOf hs

end

theorem endingsOf_cons (h : Happening) (hs : List Happening) :
    endingsOf (h :: hs) = endingsOf h.inside ++ h :: endingsOf hs := by
  cases h <;> simp [endingsOf, endings, inside]

end Happening

/-! ### Histories of computations -/

/-- What happens in a run, by the world it starts from. -/
abbrev History := World → List Happening

namespace History

variable {α : Type}

/-- Nothing happens. -/
def none : History := fun _ ↦ []

/-- What happens in a computation, and after it in what is done with its result. -/
def andThen (x : SelectM α) (H : History) (K : α → History) : History := fun w ↦
  H w ++ match upshot x w with
    | .ok a => K a (leave x w)
    | .error _ => []

/-- If nothing happens after a computation, what happens in it is all that happens. -/
theorem andThen_none (x : SelectM α) (H : History) : andThen x H (fun _ ↦ none) = H := by
  funext w
  rw [andThen]
  cases upshot x w <;> exact List.append_nil _

end History

section Tests

variable (σ : Setting) (J : Predicate → NodeId → History)

/-- The call of a predicate, in whose own code happens what `J` says. -/
def callHistory (p : Predicate) (i : NodeId) : History := fun w ↦
  [.call p i (J p i (w.called p i)) (upshot (σ.judge p i) (w.called p i))
    (upshot (callPredicate σ p i) w)]

mutual

/-- What happens while a step is tested. -/
def stepHistory (i : NodeId) : Step → History
  | .predicate p => callHistory σ J p i
  | .all members => membersHistory i members
  | .name _ | .attributes _ | .unknown _ => .none

/-- What happens while steps are tested, up to the first that does not hold. -/
def membersHistory (i : NodeId) : List Step → History
  | [] => .none
  | s :: rest => .andThen (matchesStep σ i s) (stepHistory i s) fun b ↦
      if b then membersHistory i rest else .none

end

/-! ### Searches and selections -/

/-- What happens while a step is tested on those nodes of a list that are elements. -/
def amongHistory (s : Step) : List NodeId → History
  | [] => .none
  | i :: rest =>
    if σ.forest.isElement i then
      .andThen (matchesStep σ i s) (stepHistory σ J i s) fun _ ↦ amongHistory s rest
    else amongHistory s rest

/-- What happens in computations for the nodes of a list. -/
def gatherHistory (g : NodeId → SelectM (List NodeId)) (H : NodeId → History) :
    List NodeId → History
  | [] => .none
  | i :: rest => .andThen (g i) (H i) fun _ ↦ gatherHistory g H rest

/-- What happens in a search that goes depth first. -/
def descendHistory : List Step → NodeId → History
  | [], _ => .none
  | s :: rest, i => .andThen (candidates σ s i) (amongHistory σ J s (σ.forest.children i))
      (gatherHistory (descend σ rest) (descendHistory rest))

/-- What happens in a search that goes level by level. -/
def levelsHistory : List Step → List NodeId → History
  | [], _ => .none
  | s :: rest, frontier =>
    .andThen (gather (candidates σ s) frontier)
      (gatherHistory (candidates σ s) (fun i ↦ amongHistory σ J s (σ.forest.children i)) frontier)
      fun next ↦ if next.isEmpty then .none else levelsHistory rest next

/-- What happens in the search of an engine. -/
def searchHistory (e : Engine) (i : NodeId) (p : Path) : History :=
  match e.strategy with
  | .recursive => descendHistory σ J p.steps i
  | .iterative => levelsHistory σ J p.steps [i]

/-- A selection. What it reports itself is what was added to the reports when its search was
over. -/
def selectHistory (e : Engine) (i : NodeId) (p : Path) : History := fun w ↦
  let searched := (leave (e.find σ i p) (e.opened w)).events.size
  [.selection e i p (searchHistory σ J e i p (e.opened w))
    ((leave (e.select σ i p) w).events.toList.drop searched) (upshot (e.select σ i p) w)]

/-! ### Programs -/

/-- The test of a step by a program. -/
def testHistory (i : NodeId) (s : Step) : History := fun w ↦
  [.test i s (stepHistory σ J i s w) (upshot (matchesStep σ i s) w)]

/-- What happens when a literal is made. -/
def buildHistory {α : Type} (b : Build α) : History := fun w ↦
  match b w.building with
  | .ok _ s => s.notices.toList.map .notice
  | .error _ s => s.notices.toList.map .notice

/-- What happens when a program is run. -/
def Program.history : Program → History
  | .answer _ | .raise _ | .passOn _ => .none
  | .look next => fun w ↦ (next w).history w
  | .note n next => .andThen (report (.notice n)) (fun _ ↦ [.notice n]) fun _ ↦ next.history
  | .make b next => .andThen (observe (build b)) (buildHistory b) fun r ↦ (next r).history
  | .test i s next =>
    .andThen (observe (matchesStep σ i s)) (testHistory σ J i s) fun r ↦ (next r).history
  | .select e i p next =>
    .andThen (observe (e.select σ i p)) (selectHistory σ J e i p) fun r ↦ (next r).history

end Tests

/-- What happens in the own code of a predicate, where at most `depth` calls may be under way. -/
def Judge.history (f : Forest) (clock : Nat → Rat) (programs : Programs) :
    Nat → Predicate → NodeId → History
  | 0 => fun _ _ ↦ .none
  | depth + 1 => fun p i ↦
    (programs p i).history (Setting.ofPrograms f clock programs depth)
      (history f clock programs depth)

end TreePath
