import TreePath.Decimal.Fixed
import TreePath.Forest.Walk
import TreePath.Journal.Notice
import TreePath.Literal.Expression
import TreePath.Timer

/-!
# The world of a selection

What selections raise, what they report, and the state that they leave behind.

A predicate may raise a fault of its own. The step that called it turns the fault into a *failure*,
which names the predicate, the node and the fault; a failure that is already under way is passed on
as it is, and so is a fault that asks the whole program to stop. A failure is an object with an
identity: `World.failures` lists those that were made, and whether one was reported is recorded in
`World.reported` under its number, so every holder of the failure sees the same.

What predicates answer is a parameter, the *judge*: it says of a predicate and a node whether the
answer is yes, as a computation in the same world. Steps and paths never look behind the judge.

Nothing is taken back when something is raised: `SelectM` keeps the world as it is at that moment,
with all calls, failures and reports. So what a predicate did before it raised a fault has happened,
and a caller that catches the fault goes on from there. The clock is known by its readings: which
reading a duration starts with is part of the state, and what the clock shows at each is a
parameter.
-/

namespace TreePath

/-! ### What is raised -/

/-- What goes wrong apart from failures: what a predicate's own code raises, and what tests and
engines raise themselves. -/
inductive Fault where
  /-- An exception of a given class with a given text. Every fault has a text, since a failure that
  is made of it takes the text over; exceptions whose text cannot be made are not represented. -/
  | raised (kind text : String)
  /-- A request to end the program. -/
  | stop (kind text : String)
  /-- Something that is written like this was tested as if it were a step. -/
  | notAStep (shown : String)
  /-- A node of a class that lacks a feature was asked for it. -/
  | lacks (className feature : String)
  /-- A literal could not be used. -/
  | literal (e : LiteralError)
  /-- No strategy is written like this. -/
  | unknownStrategy (shown : String)
  /-- An absent attribute was read as a number. -/
  | notANumber
  /-- A text that is written like this was read as a number. -/
  | badNumber (shown : String)
  /-- Predicates called one another to a greater depth than the judge goes (`Judge.ofPrograms`). -/
  | tooDeep
deriving DecidableEq, Repr

namespace Fault

/-- The class under which a fault is raised. -/
def kindName : Fault → String
  | raised kind _ => kind
  | stop kind _ => kind
  | notAStep _ => "TypeError"
  | lacks .. => "AttributeError"
  | literal e => e.kindName
  | unknownStrategy _ => "ValueError"
  | notANumber => "TypeError"
  | badNumber _ => "ValueError"
  | tooDeep => "RecursionError"

/-- The text of a fault. -/
def message : Fault → String
  | raised _ text => text
  | stop _ text => text
  | notAStep shown => "Not a path step: " ++ shown
  | lacks className feature => "'" ++ className ++ "' object has no attribute '" ++ feature ++ "'"
  | literal e => e.message
  | unknownStrategy shown =>
    "Unknown selection strategy " ++ shown ++ ", expected one of ('recursive', 'iterative')"
  | notANumber => "float() argument must be a string or a real number, not 'NoneType'"
  | badNumber shown => "could not convert string to float: " ++ shown
  | tooDeep => "maximum recursion depth exceeded"

/-- Whether a fault passes through everything unchanged. That is so for requests to end the program
only; failures are made of all other faults, also of the one that ends a chain of calls. -/
def isStop : Fault → Bool
  | stop .. => true
  | _ => false

end Fault

/-- A predicate's fault, with where it happened. -/
structure Failure where
  /-- The number of the failure, in order of making. -/
  number : Nat
  /-- The predicate whose function raised the fault. -/
  predicate : Predicate
  /-- The node that the function was called with. -/
  node : NodeId
  /-- How the node was described at the time. -/
  nodeText : String
  /-- The fault that the function raised. -/
  original : Fault
  /-- The fault that the failure was raised from. -/
  cause : Fault
deriving DecidableEq

namespace Failure

/-- The step that the failure is about. -/
def step (e : Failure) : Step :=
  .predicate e.predicate

/-- The name of the predicate, or its step in writing if it has none. -/
def subject (e : Failure) : String :=
  match e.predicate.title with
  | some title => if title.isEmpty then e.step.text else title
  | none => e.step.text

/-- The text of the failure. -/
def message (e : Failure) : String :=
  "Predicate " ++ e.subject ++ " failed on " ++ e.nodeText ++ ": " ++ e.original.kindName ++ ": " ++
    e.original.message

end Failure

/-- What a test or a selection raises. -/
inductive Raised where
  /-- A predicate failed. -/
  | failure (e : Failure)
  /-- Anything else. -/
  | fault (e : Fault)
deriving DecidableEq

namespace Raised

/-- The class under which it is raised. -/
def kindName : Raised → String
  | failure _ => "PredicateFailure"
  | fault e => e.kindName

/-- Its text. -/
def message : Raised → String
  | failure e => e.message
  | fault e => e.message

end Raised

/-! ### What is reported -/

/-- What selections report. -/
inductive Event where
  /-- Something was made. -/
  | notice (n : Notice)
  /-- A selection was abandoned because of a failure. -/
  | aborted (e : Failure)
  /-- A selection took this many seconds. -/
  | timed (duration : Rat)
  /-- A timed operation ended that had not been started. -/
  | untimed (name : String)
  /-- A path of so many steps matched so many elements. -/
  | matched (steps elements : Nat)
deriving DecidableEq

/-- The component whose operations a selection times. -/
def Event.component : String := "SelectorEngine"

/-- The operation that a selection times. -/
def Event.operation : String := "select"

/-- The record of an event. -/
def Event.record (e : Event) : Record :=
  let source := "path_engine.dsl.selector_engine"
  match e with
  | notice n => n.record
  | aborted e =>
    .ofThrown source "Selection aborted" ⟨"PredicateFailure", e.message, Text.quoted e.message⟩
  | timed duration =>
    .plain source .debug (Timer.took component operation (Decimal.fixedRat 4 duration))
  | untimed name => .plain source .warning (Timer.notStarted name)
  | matched steps elements =>
    .plain source .debug
      ("Path of " ++ toString steps ++ " step(s) matched " ++ toString elements ++ " element(s)")

/-! ### The state -/

/-- What selections leave behind. -/
structure World where
  /-- The reports, in order. -/
  events : Array Event
  /-- The calls of predicates, in order. -/
  calls : Array (Predicate × NodeId)
  /-- The failures that were made; each stands at its number. -/
  failures : Array Failure
  /-- The numbers of the failures that a selection has reported. -/
  reported : List Nat
  /-- How often the clock was read. -/
  readings : Nat
  /-- Whether the engine that is used when none is named was made. -/
  defaultReady : Bool
  /-- What the making of literals keeps track of. -/
  building : BuildState

instance : Inhabited World := ⟨⟨#[], #[], #[], [], 0, false, default⟩⟩

/-- A computation in the world of selections. It keeps what it did to the world when it raises
something. -/
abbrev SelectM := EStateM Raised World

/-- What each predicate answers about each node. -/
abbrev Judge := Predicate → NodeId → SelectM Bool

/-- What selections take for granted: the forest, the clock by number of reading, and the judge. -/
structure Setting where
  /-- The nodes. -/
  forest : Forest
  /-- What the clock shows at each reading. -/
  clock : Nat → Rat
  /-- What predicates answer. -/
  judge : Judge

namespace SelectM

/-- Reports something. -/
def report (e : Event) : SelectM Unit :=
  modify fun w ↦ { w with events := w.events.push e }

/-- Records the call of a predicate. -/
def recordCall (p : Predicate) (i : NodeId) : SelectM Unit :=
  modify fun w ↦ { w with calls := w.calls.push (p, i) }

/-- Reads the clock. -/
def readClock (clock : Nat → Rat) : SelectM Rat :=
  modifyGet fun w ↦ (clock w.readings, { w with readings := w.readings + 1 })

/-- Makes a failure of a fault, to be raised from another one. -/
def makeFailure (p : Predicate) (i : NodeId) (nodeText : String) (original cause : Fault) :
    SelectM Failure :=
  modifyGet fun w ↦
    let e : Failure := ⟨w.failures.size, p, i, nodeText, original, cause⟩
    (e, { w with failures := w.failures.push e })

/-- Reports that a failure ends a selection, unless that was reported before. -/
def reportAborted (e : Failure) : SelectM Unit := do
  unless (← get).reported.contains e.number do
    report (.aborted e)
    modify fun w ↦ { w with reported := e.number :: w.reported }

end SelectM

end TreePath
