import TreePath.Step.Text

/-!
# Paths

A path is a sequence of steps with at least one member; the type says so by naming the first. Step
number `i` of a path is asked of elements `i` levels below the node that the path is applied to.

That a path is never empty need not be checked again once a path is made: `ofSteps?` is the only way
to make one of a list. What a literal says about a path, and which literals do, is in
`TreePath.Literal.Coercion`; an object that was a path once and has lost its steps is no path in
this sense.
-/

namespace TreePath

/-- A first step and the steps after it. -/
structure Path where
  /-- The outermost step. -/
  head : Step
  /-- The steps below, outermost first. -/
  rest : List Step

namespace Path

instance : Inhabited Path := ⟨⟨default, []⟩⟩

/-- All steps, outermost first. -/
def steps (p : Path) : List Step :=
  p.head :: p.rest

/-- The number of steps. -/
def length (p : Path) : Nat :=
  p.steps.length

/-- The path of a list of steps, unless the list is empty. -/
def ofSteps? : List Step → Option Path
  | [] => none
  | s :: rest => some ⟨s, rest⟩

/-- One path after another. -/
def append (p q : Path) : Path :=
  ⟨p.head, p.rest ++ q.steps⟩

instance : Append Path := ⟨append⟩

/-- Whether two paths have the same steps. -/
def same (p q : Path) : Bool :=
  Step.sameAll p.steps q.steps

/-- The written form of a path, as characters. -/
def chars (p : Path) : List Char :=
  "Path(".toList ++ (listed (Step.charsOfAll p.steps) ++ [')'])

/-- The written form of a path. -/
def text (p : Path) : String :=
  String.ofList p.chars

/-! ### The steps of paths -/

/-- The steps of one path come before those of the other. -/
@[simp] theorem steps_append (p q : Path) : (p ++ q).steps = p.steps ++ q.steps := rfl

/-- Some steps are a path exactly if they are the steps of one; so all but no steps are. -/
theorem ofSteps?_eq_some_iff {ss : List Step} {p : Path} : ofSteps? ss = some p ↔ ss = p.steps := by
  cases ss with
  | nil => simp [ofSteps?, steps]
  | cons s rest =>
    obtain ⟨head, tail⟩ := p
    simp [ofSteps?, steps]

end Path

end TreePath
