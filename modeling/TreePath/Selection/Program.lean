import TreePath.Selection.Engine

/-!
# What predicates do

A predicate's own code is opaque to the library, but what it can do *with* the library is not: it
may answer, raise a fault, pass on a failure it has come across, make steps and engines, test a
step, and run a selection of its own, at any moment and to any depth. `Program` is the type of such
behaviour, one constructor for each of these, with the rest of the program as a function of what
came out. A program may also look at what was done so far, so a predicate may do another thing each
time it is called.

A program cannot make a failure. It can pass one on, and names it by its number for that, so that
what leaves a predicate is always a failure that the library made.

`Judge.ofPrograms` turns programs into a judge. Programs may call each other in a circle, so the
judge has a depth: the number of predicate calls that may be under way at once. The call that would
be one too many raises `Fault.tooDeep` in place of what its program does, and a failure is made of
that as of any other fault.
-/

namespace TreePath

/-- What a predicate does when it is called. -/
inductive Program where
  /-- Answers. -/
  | answer (truth : Bool)
  /-- Raises a fault of its own. -/
  | raise (e : Fault)
  /-- Passes on the failure with this number; if there is none, answers no. -/
  | passOn (number : Nat)
  /-- Looks at what was done so far. -/
  | look (next : World → Program)
  /-- Makes something that is reported. -/
  | note (n : Notice) (next : Program)
  /-- Makes a literal. -/
  | make (b : Build Literal) (next : Except Raised Literal → Program)
  /-- Tests a step on a node. -/
  | test (i : NodeId) (s : Step) (next : Except Raised Bool → Program)
  /-- Selects below a node. -/
  | select (e : Engine) (i : NodeId) (p : Path) (next : Except Raised (List NodeId) → Program)

/-- Runs a computation and looks at what came out, whether it returned or raised something. -/
def SelectM.observe {α : Type} (x : SelectM α) : SelectM (Except Raised α) := fun w ↦
  match x w with
  | .ok a w' => .ok (.ok a) w'
  | .error e w' => .ok (.error e) w'

open SelectM

/-- Runs a program. -/
def Program.run (σ : Setting) : Program → SelectM Bool
  | answer truth => return truth
  | raise e => throw (.fault e)
  | passOn number => do
    match (← get).failures[number]? with
    -- only a failure that was made can be passed on, and it keeps its number
    | some e => throw (.failure e)
    | none => return false
  | look next => do
    (next (← get)).run σ
  | note n next => do
    report (.notice n)
    next.run σ
  | make b next => do
    let r ← observe (build b)
    (next r).run σ
  | test i s next => do
    let r ← observe (matchesStep σ i s)
    (next r).run σ
  | select e i p next => do
    let r ← observe (e.select σ i p)
    (next r).run σ

/-- The programs of predicates, by predicate and node. -/
abbrev Programs := Predicate → NodeId → Program

/-- The judge that runs programs, with at most `depth` calls of predicates under way at once. -/
def Judge.ofPrograms (forest : Forest) (clock : Nat → Rat) (programs : Programs) : Nat → Judge
  | 0 => fun _ _ ↦ throw (.fault .tooDeep)
  | depth + 1 => fun p i ↦
    (programs p i).run ⟨forest, clock, ofPrograms forest clock programs depth⟩

/-- The setting in which programs answer for predicates. -/
def Setting.ofPrograms (forest : Forest) (clock : Nat → Rat) (programs : Programs) (depth : Nat) :
    Setting :=
  ⟨forest, clock, Judge.ofPrograms forest clock programs depth⟩

end TreePath
