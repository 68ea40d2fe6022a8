import TreePath.Journal.Notice
import TreePath.Literal.Error

/-!
# From literals to steps and paths

`asStep` reads a literal as a step: a step is itself, a text is the name it spells, a mapping the
attributes it lists, a function a predicate, and a list or a tuple the conjunction of its items.
`asPath` reads a literal as a path: a path is itself, whatever reads as a single step is a path of
one step, and any other sequence has one step for each item.

Making a conjunction without members is reported, so reading runs in a computation (`Build`) that
keeps the reports made so far even when it fails later on.

What is refused is shown in the complaint, and to show a literal may fail in its turn
(`Build.shown`): it may hold a number with too many digits, or a path whose steps are gone. Then
that is what is raised. Every refusal is the first on the way from left to right, and the reports
about conjunctions made before it stand.
-/

namespace TreePath

/-- What the making of literals keeps track of. -/
structure BuildState where
  /-- The reports made so far. -/
  notices : Array Notice
  /-- The next number to give to a literal with an identity. -/
  fresh : Nat
  /-- What each one-shot sequence still holds. -/
  pending : List (Nat × List Literal)
  /-- The paths whose steps were taken away. -/
  emptied : List Nat
  /-- The features that functions were given, and those they lost again. -/
  features : Entries (Entries (Option String))

instance : Inhabited BuildState := ⟨⟨#[], 0, [], [], []⟩⟩

/-- A computation that makes literals, steps and paths. -/
abbrev Build := EStateM LiteralError BuildState

namespace Build

/-- Reports something. -/
def report (n : Notice) : Build Unit :=
  modify fun s ↦ { s with notices := s.notices.push n }

/-- A number not given out before. -/
def freshId : Build Nat :=
  modifyGet fun s ↦ (s.fresh, { s with fresh := s.fresh + 1 })

/-- The written form of a literal, for a complaint about it. -/
def shown (v : Literal) : Build String :=
  match v.writingFault? with
  | some e => throw e
  | none => return v.written

/-- Takes what a one-shot sequence still holds; it is empty afterwards. -/
def drain (id : Nat) : Build (List Literal) :=
  modifyGet fun s ↦
    ((s.pending.find? fun e ↦ e.1 == id).elim [] Prod.snd,
      { s with pending := s.pending.filter fun e ↦ e.1 != id })

/-- The feature that a function was given under a name and still has. -/
def featureOf? (id feature : String) : Build (Option String) := do
  return ((← get).features.get? id).bind fun es ↦ (es.get? feature).join

/-- Gives a function a feature, or takes it back. -/
def setFeature (id feature : String) (value : Option String) : Build Unit :=
  modify fun s ↦
    { s with features := s.features.put id (((s.features.get? id).getD []).put feature value) }

/-- Takes back every feature that a function was given. -/
def loseFeatures (id : String) : Build Unit :=
  modify fun s ↦
    let lost := ((s.features.get? id).getD []).map fun e ↦ (e.1, none)
    { s with features := s.features.put id lost }

end Build

open Build

/-! ### Single steps -/

/-- The test for a name, which must be a text with at least one character. -/
def nameTest (v : Literal) : Build Step :=
  match v with
  | .text s => if s.isEmpty then do throw (.badName (← shown v)) else return .name s
  | v => do throw (.badName (← shown v))

/-- Collects the entries of a mapping whose keys and values are all texts. -/
def wantedAttributes : List (Literal × Literal) → Attributes → Build Attributes
  | [], wanted => return wanted
  | (.text k, .text v) :: rest, wanted => wantedAttributes rest (wanted.put k v)
  | (k, v) :: _, _ => do throw (.badEntry (← shown k) (← shown v))

/-- The test for attributes, which come as a mapping. -/
def attributeTest (v : Literal) : Build Step :=
  match v with
  | .mapping entries => do return .attributes (← wantedAttributes entries .empty)
  | v => throw (.notAMapping v.typeName)

/-- The test by a predicate, which must be a function. -/
def predicateTest (v : Literal) : Build Step :=
  match v with
  | .function p => return .predicate p
  | v => throw (.notCallable v.typeName)

/-- The conjunction of some steps; to make one of none is reported. -/
def conjunction (members : List Step) : Build Step := do
  if members.isEmpty then
    report .emptyConjunction
  return .all members

/-- The first of several literals that is not a step is a fault; else they are the members of a
conjunction. -/
def membersOf : List Literal → Build (List Step)
  | [] => return []
  | .step s :: rest => do return s :: (← membersOf rest)
  | v :: _ => do throw (.notAMember (← shown v))

/-! ### Sequences -/

/-- The items of a literal that can be gone through, or nothing. A text has its characters, a
mapping its keys, a conjunction its members, a path its steps. -/
def items? (v : Literal) : Build (Option (List Literal)) :=
  match v with
  | .list items => return some items
  | .tuple items => return some items
  | .text s => return some ((Text.pieces s.toList).map fun c ↦ .text (String.ofList c))
  | .mapping entries => return some (entries.map Prod.fst)
  | .iterator id => do return some (← drain id)
  | .step (.all members) => return some (members.map .step)
  | .path _ (some p) => return some (p.steps.map .step)
  | .path _ none => throw .stepsTaken
  | _ => return none

/-- The conjunction of the items of a literal, which must all be steps. -/
def conjunctionOf (v : Literal) : Build Step := do
  match ← items? v with
  | none => throw (.notIterable v.typeName)
  | some items => conjunction (← membersOf items)

/-! ### Reading literals -/

mutual

/-- Reads a literal as a step. -/
def asStep : Literal → Build Step
  | .step s => return s
  | .text s => nameTest (.text s)
  | .mapping entries => attributeTest (.mapping entries)
  | .list items => do conjunction (← asSteps items)
  | .tuple items => do conjunction (← asSteps items)
  | .function p => return .predicate p
  | v => do throw (.notAStep v.typeName (← shown v))

/-- Reads literals as steps, from left to right. -/
def asSteps : List Literal → Build (List Step)
  | [] => return []
  | v :: rest => do
    let s ← asStep v
    return s :: (← asSteps rest)

end

/-- The path of some literals, at least one. -/
def pathOf (items : List Literal) : Build Path := do
  match items with
  | [] => throw .noSteps
  | first :: rest =>
    let head ← asStep first
    return ⟨head, ← asSteps rest⟩

/-- Reads a literal as a path. -/
def asPath (v : Literal) : Build Path := do
  match v with
  | .path _ (some p) => return p
  | .path _ none => throw .stepsTaken
  | .text _ | .mapping _ | .step _ | .function _ => pathOf [v]
  | v =>
    match ← items? v with
    | none => throw (.notSpreadable v.typeName)
    | some items => pathOf items

/-- A literal as a path of its own: a path is itself, anything else is read as a new one. -/
def toPath (v : Literal) : Build Literal := do
  match v with
  | .path .. => return v
  | v =>
    let p ← asPath v
    return .path (← freshId) (some p)

end TreePath
