import TreePath.Selection.World

/-!
# Testing steps

`matchesStep` tests a step on a node. The members of a conjunction are tested from left to right, up
to the first that does not hold. A name or attribute test asks the node for its name or attributes,
which only elements have.

`callPredicate` is the one place where a fault becomes a failure.

What a call raises is one of three things. A failure that is under way already is passed on as it
is, and so is a request to end the program. Anything else becomes a failure, which names the
predicate, the node and how the node was described at that moment. A step of the fifth kind, and a
literal that is no step at all, are refused as they come up, so that a conjunction that stops
earlier never hears of them.
-/

namespace TreePath

open SelectM

/-- Asks the judge about a predicate and a node. A fault in the answer becomes a failure; a failure
from a selection inside the predicate, and a request to stop, are passed on unchanged. -/
def callPredicate (σ : Setting) (p : Predicate) (i : NodeId) : SelectM Bool := do
  recordCall p i
  try
    σ.judge p i
  catch
    | .failure e => throw (.failure e)
    | .fault e =>
      if e.isStop then
        throw (.fault e)
      else
        throw (.failure (← makeFailure p i (σ.forest.content i).describe e e))

mutual

/-- Tests a step on a node. -/
def matchesStep (σ : Setting) (i : NodeId) : Step → SelectM Bool
  | .name wanted =>
    match (σ.forest.content i).name? with
    | some name => return name == wanted
    | none => throw (.fault (.lacks (σ.forest.content i).className "name"))
  | .attributes wanted =>
    match (σ.forest.content i).attributes? with
    | some attributes => return wanted.within attributes
    | none => throw (.fault (.lacks (σ.forest.content i).className "attributes"))
  | .predicate p => callPredicate σ p i
  | .all members => matchesAll σ i members
  | .unknown id => throw (.fault (.notAStep (Step.unknown id).text))

/-- Tests steps on a node, up to the first that does not hold. -/
def matchesAll (σ : Setting) (i : NodeId) : List Step → SelectM Bool
  | [] => return true
  | s :: rest => do
    if ← matchesStep σ i s then
      matchesAll σ i rest
    else
      return false

end

/-- Tests a literal on a node as it stands, without reading it as a step. -/
def matchesLiteral (σ : Setting) (i : NodeId) : Literal → SelectM Bool
  | .step s => matchesStep σ i s
  | v =>
    match v.writingFault? with
    | some e => throw (.fault (.literal e))
    | none => throw (.fault (.notAStep v.written))

end TreePath
