import TreePath.Literal.Features

/-!
# Expressions for literals

How a caller comes by a literal: constants, collections of other literals, functions and variables,
and the makers of steps and paths, which may refuse what they are given. `Expression.evaluate` goes
from left to right and from the inside out; every evaluation makes new one-shot sequences, new paths
and new steps of no known kind.

Numbers of new things are drawn from the state (`BuildState`), so that two evaluations of one
expression make two paths, which are equal and not the same. A variable holds what was made once,
and to name it twice is to name the same thing.
-/

namespace TreePath

/-- A way to come by a literal. -/
inductive Expression where
  /-- A constant. -/
  | constant (v : Literal)
  /-- A list. -/
  | list (items : List Expression)
  /-- A tuple. -/
  | tuple (items : List Expression)
  /-- A sequence that can be read once. -/
  | iterator (items : List Expression)
  /-- A mapping. -/
  | mapping (entries : List (Expression × Expression))
  /-- A list of one item made over and over. -/
  | repeated (item : Expression) (count : Nat)
  /-- What a variable holds. -/
  | named (name : String)
  /-- A name test. -/
  | nameTest (argument : Expression)
  /-- An attribute test. -/
  | attributeTest (argument : Expression)
  /-- A predicate test. -/
  | predicateTest (argument : Expression)
  /-- A conjunction of the items of a literal. -/
  | conjunction (argument : Expression)
  /-- Two literals at once. -/
  | both (left right : Expression)
  /-- A path of some literals. -/
  | path (items : List Expression)
  /-- A step of no known kind. -/
  | unknown

namespace Expression

instance : Inhabited Expression := ⟨constant .none⟩

/-- What variables hold. -/
abbrev Variables := List (String × Literal)

open Build

/-- What a computation makes when it is run so many times, put after what was made before, which
comes last first. -/
def makeTimes (b : Build Literal) : Nat → List Literal → Build (List Literal)
  | 0, made => return made.reverse
  | count + 1, made => do
    let v ← b
    makeTimes b count (v :: made)

mutual

/-- The literal that an expression makes. -/
def evaluate (vars : Variables) : Expression → Build Literal
  | constant v => return v.refresh (← get)
  | list items => do return .list (← evaluateAll vars items)
  | tuple items => do return .tuple (← evaluateAll vars items)
  | iterator items => do
    let vs ← evaluateAll vars items
    -- the items wait until somebody takes them, and can be taken once
    let id ← freshId
    modify fun s ↦ { s with pending := (id, vs) :: s.pending }
    return .iterator id
  | mapping entries => do return .mapping (← evaluateEntries vars entries [])
  | repeated item count => do return .list (← makeTimes (evaluate vars item) count [])
  | named name => do
    match vars.find? fun e ↦ e.1 == name with
    | some e => return e.2.refresh (← get)
    | none => throw (.unbound name)
  | nameTest argument => do return .step (← TreePath.nameTest (← evaluate vars argument))
  | attributeTest argument => do return .step (← TreePath.attributeTest (← evaluate vars argument))
  | predicateTest argument => do return .step (← TreePath.predicateTest (← evaluate vars argument))
  | conjunction argument => do return .step (← conjunctionOf (← evaluate vars argument))
  | both left right => do
    let v ← evaluate vars left
    v.both (← evaluate vars right)
  | path items => do
    let p ← pathOf (← evaluateAll vars items)
    return .path (← freshId) (some p)
  | unknown => do return .step (.unknown (← freshId))

/-- The literals that several expressions make, from left to right. -/
def evaluateAll (vars : Variables) : List Expression → Build (List Literal)
  | [] => return []
  | e :: rest => do
    let v ← evaluate vars e
    return v :: (← evaluateAll vars rest)

/-- The entries of a mapping, each key assigned its value in order. -/
def evaluateEntries (vars : Variables) :
    List (Expression × Expression) → List (Literal × Literal) → Build (List (Literal × Literal))
  | [], made => return made
  | (k, e) :: rest, made => do
    let key ← evaluate vars k
    let value ← evaluate vars e
    match key.keyFault? with
    | some e => throw e
    | none => evaluateEntries vars rest (Literal.putEntry made key value)

end

/-- The size of the set of what several expressions make. Each must be fit to be a key, and is
looked at before the next is made. -/
def countDistinct (vars : Variables) : List Expression → List Literal → Build Nat
  | [], present => return present.length
  | e :: rest, present => do
    let v ← evaluate vars e
    match v.keyFault? with
    | some fault => throw fault
    | none =>
      if present.any fun w ↦ w.sameElement v then countDistinct vars rest present
      else countDistinct vars rest (v :: present)

end Expression

end TreePath
