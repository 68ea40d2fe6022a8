import TreePath.Literal.Coercion
import TreePath.Selection.Matching

/-!
# Selecting by a path

The first step of a path is tested on the children of the start node that are elements, the next
step on the children of every element that passed, and so on until the path is used up. What passes
the last step is the result, in the order of the document: everything below an earlier element comes
before everything below a later one.

There are two ways to go about it. `descend` follows each element that passed a step all the way
down before it turns to the next; `levels` tests a step on a whole level before the next step. They
make the same tests in different orders.

An engine (`Engine`) has a strategy and may time its selections; `Engine.select` adds the reports.

Only nodes that are elements are ever tested. A level without candidates ends the level-by-level way
at once; depth first there is nothing left to follow, so that neither way tests the later steps.

A failure that leaves a selection is reported by the first selection it leaves and by no other,
since it is marked then. A fault is not reported. The duration is reported only of a selection that
returns, before what it found.
-/

namespace TreePath

open SelectM

/-! ### The two ways -/

/-- The nodes of a list that are elements and pass a step, tested in order. -/
def candidatesAmong (σ : Setting) (s : Step) : List NodeId → SelectM (List NodeId)
  | [] => return []
  | i :: rest => do
    if σ.forest.isElement i then
      if ← matchesStep σ i s then
        return i :: (← candidatesAmong σ s rest)
      else
        candidatesAmong σ s rest
    else
      candidatesAmong σ s rest

/-- The children of a node that are elements and pass a step. -/
def candidates (σ : Setting) (s : Step) (i : NodeId) : SelectM (List NodeId) :=
  candidatesAmong σ s (σ.forest.children i)

/-- The results of a computation for the nodes of a list, one after the other. -/
def gather (g : NodeId → SelectM (List NodeId)) : List NodeId → SelectM (List NodeId)
  | [] => return []
  | i :: rest => do
    let found ← g i
    return found ++ (← gather g rest)

/-- Selects depth first: each candidate is followed down before the next one. -/
def descend (σ : Setting) : List Step → NodeId → SelectM (List NodeId)
  | [], i => return [i]
  | s :: rest, i => do gather (descend σ rest) (← candidates σ s i)

/-- Selects level by level: all candidates for a step before the first for the next. A level without
candidates ends the selection. -/
def levels (σ : Setting) : List Step → List NodeId → SelectM (List NodeId)
  | [], frontier => return frontier
  | s :: rest, frontier => do
    let next ← gather (candidates σ s) frontier
    if next.isEmpty then
      return []
    else
      levels σ rest next

/-! ### Engines -/

/-- How an engine goes about a selection. -/
inductive Strategy where
  /-- Depth first. -/
  | recursive
  /-- Level by level. -/
  | iterative
deriving DecidableEq, Repr

/-- The name of a strategy. -/
def Strategy.name : Strategy → String
  | recursive => "recursive"
  | iterative => "iterative"

/-- The strategy that a text names. -/
def Strategy.ofName? (s : String) : Option Strategy :=
  if s = recursive.name then some .recursive
  else if s = iterative.name then some .iterative
  else none

/-- The strategy that a literal names, or the complaint that it names none. -/
def Strategy.ofLiteral (v : Literal) : Except Fault Strategy :=
  match v with
  | .text s =>
    match ofName? s with
    | some strategy => .ok strategy
    | none => .error (.unknownStrategy v.written)
  | v => .error (.unknownStrategy v.written)

/-- A way of selecting. -/
structure Engine where
  /-- How to go about it. -/
  strategy : Strategy
  /-- Whether the duration of each selection is reported. -/
  timed : Bool
deriving DecidableEq, Repr

namespace Engine

/-- The engine that is used when none is named. -/
def standard : Engine := ⟨.recursive, false⟩

/-- The report that an engine is ready. -/
def ready (e : Engine) : Notice :=
  .engineReady e.strategy.name

/-- What an engine finds, by its strategy, without any report. -/
def find (e : Engine) (σ : Setting) (i : NodeId) (p : Path) : SelectM (List NodeId) :=
  match e.strategy with
  | .recursive => descend σ p.steps i
  | .iterative => levels σ p.steps [i]

/-- Starts the timer of a selection. -/
def startTimer (σ : Setting) : SelectM (Timer Rat) := do
  return (Timer.new Event.component).start Event.operation (← readClock σ.clock)

/-- Ends the timer of a selection and reports the duration. -/
def endTimer (σ : Setting) (t : Timer Rat) : SelectM Unit := do
  match t.started? Event.operation with
  | none => report (.untimed Event.operation)
  | some start => report (.timed ((← readClock σ.clock) - start))

/-- Selects the elements below a node that a path leads to. A failure that ends the selection is
reported by the first selection that it leaves. -/
def select (e : Engine) (σ : Setting) (i : NodeId) (p : Path) : SelectM (List NodeId) := do
  let timer ← if e.timed then some <$> startTimer σ else pure none
  let found ←
    try
      e.find σ i p
    catch
      | .failure failure => do
        reportAborted failure
        throw (.failure failure)
      -- a fault ends the selection without a report, and the timer is not read
      | .fault fault => throw (.fault fault)
  if let some t := timer then
    endTimer σ t
  report (.matched p.length found.length)
  return found

end Engine

/-! ### From literals -/

/-- Runs a computation that makes literals inside a selection: its reports are reported and its
refusals raised. -/
def SelectM.build {α : Type} (b : Build α) : SelectM α := fun w ↦
  let told (s : BuildState) : World :=
    { w with
      events := w.events ++ s.notices.map Event.notice
      building := { s with notices := #[] } }
  match b w.building with
  | .ok a s => .ok a (told s)
  -- what was reported before the refusal stays reported
  | .error e s => .error (.fault (.literal e)) (told s)

/-- Selects by a literal, which is first read as a path. -/
def Engine.selectLiteral (e : Engine) (σ : Setting) (i : NodeId) (v : Literal) :
    SelectM (List NodeId) := do
  let p ← build (asPath v)
  e.select σ i p

/-- The engine that is used when none is named. It is made, and reported, at its first use. -/
def SelectM.defaultEngine : SelectM Engine := do
  unless (← get).defaultReady do
    report (.notice Engine.standard.ready)
    modify fun w ↦ { w with defaultReady := true }
  return Engine.standard

end TreePath
