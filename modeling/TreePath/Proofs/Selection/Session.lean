import TreePath.Proofs.Forest.Reachable
import TreePath.Proofs.Selection.Following

/-!
# Sessions

A session is a whole run: a program that makes tests and selections from the start on, in a setting
where programs answer for predicates. Whatever a caller does with selections, one after the other or
by what came out of those before, is such a program. If all programs are honest, what comes to an
end in a session leads from the empty ledger to the one that is left behind
(`Session.Honest.steps`).

The sample session has each way that a failure can take: through a predicate's own selection and the
selection around it, and out of a bare test.

A session begins in a world in which nothing was reported and no failure made. A statement on
sessions could be made of any other beginning as well; but then it would have to say of the failures
made before what is known of those made since. How many calls of predicates may be under way at once
is a number of the session. A predicate that is called when no more may be under way raises a fault
like any other, and nothing here depends on the number.
-/

namespace TreePath

open SelectM Happening

/-- A program that is run from the start, in a setting where programs answer for predicates. -/
structure Session where
  /-- The nodes. -/
  forest : Forest
  /-- What the clock shows at each reading. -/
  clock : Nat → Rat
  /-- The programs of predicates. -/
  programs : Programs
  /-- How many calls of predicates may be under way at once. -/
  depth : Nat
  /-- The program that is run. -/
  main : Program

namespace Session

/-- The setting of a session. -/
def setting (s : Session) : Setting :=
  .ofPrograms s.forest s.clock s.programs s.depth

/-- What happens in a session. -/
def history (s : Session) : List Happening :=
  s.main.history s.setting (Judge.history s.forest s.clock s.programs s.depth) default

/-- What came to an end in a session, in this order. -/
def endings (s : Session) : List Happening :=
  endingsOf s.history

/-- The world that a session leaves behind. -/
def final (s : Session) : World :=
  leave (s.main.run s.setting) default

/-- No program of a session makes up faults of the class of failures. -/
structure Honest (s : Session) : Prop where
  /-- The programs of predicates do not. -/
  programs : ∀ p i, (s.programs p i).Honest
  /-- The program that is run does not. -/
  main : s.main.Honest

/-- What happens in a session leads from the empty ledger to the one that is left behind. -/
theorem Honest.steps {s : Session} (h : s.Honest) :
    Steps ⟨[], [], []⟩ s.endings s.final.ledger :=
  ((followed_program (followed_judge s.forest s.clock h.programs s.depth) h.main).evolves
    default).steps

end Session

/-! ### A sample session -/

/-- A predicate that raises a fault. -/
def sampleInner : Predicate := ⟨"inner", none, "function", "inner"⟩

/-- A predicate that selects with the other one and lets its failures pass. -/
def sampleOuter : Predicate := ⟨"outer", none, "function", "outer"⟩

/-- The fault that is raised. -/
def sampleFault : Fault := .raised "RuntimeError" "boom"

/-- The programs of the two predicates. -/
def samplePrograms : Programs := fun p _ ↦
  if p.id = "inner" then .raise sampleFault
  else .select ⟨.iterative, false⟩ 0 ⟨.predicate sampleInner, []⟩ fun
    | .error (.failure g) => .passOn g.number
    | _ => .answer true

/-- From the document of the sample calls, a selection with a predicate whose own selection fails,
and after it a bare test that fails and a selection that finds something. -/
def sampleSession : Session where
  forest := Call.run .empty Forest.sampleCalls
  clock n := n
  programs := samplePrograms
  depth := 2
  main := .select ⟨.recursive, true⟩ 0 ⟨.predicate sampleOuter, []⟩ fun _ ↦
    .test 2 (.predicate sampleInner) fun _ ↦
      .select ⟨.recursive, true⟩ 0 ⟨.name "b", []⟩ fun _ ↦ .answer true

/-- The failure that is made in the sample session first. -/
def sampleFailure : Failure :=
  ⟨0, sampleInner, 1, (sampleSession.forest.content 1).describe, sampleFault, sampleFault⟩

theorem sampleSession_honest : sampleSession.Honest := by
  refine ⟨fun p i ↦ ?_, fun _ _ _ _ _ _ ↦ trivial⟩
  dsimp only [sampleSession, samplePrograms]
  split
  · exact (by decide : sampleFault.kindName ≠ "PredicateFailure")
  · intro r _
    dsimp only
    split <;> exact trivial

/-- The failure that is made first leaves the first selection of the sample session, the fourth
thing that comes to an end. -/
theorem sampleFailure_leaves :
    ∃ h, sampleSession.endings = sampleSession.endings.take 3 ++ h :: sampleSession.endings.drop 4 ∧
      h.Leaves sampleFailure :=
  ⟨.selection ⟨.recursive, true⟩ 0 ⟨.predicate sampleOuter, []⟩ _ []
    (.error (.failure sampleFailure)), rfl, _, _, _, _, _, rfl⟩

end TreePath
