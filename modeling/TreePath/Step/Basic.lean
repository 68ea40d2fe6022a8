import TreePath.Attributes
import TreePath.Text.Quoted

/-!
# Steps

A step is one unit of what a path asks of an element: its name, some of its attributes, the answer
of a predicate, or several steps at once. A fifth kind stands for steps made elsewhere, of which
nothing is known but which of them is which.

A predicate is named here and given its meaning elsewhere: `Predicate.id` says which function it is,
and a judge (`TreePath.Selection.World`) says what that function answers. So steps are plain data:
they can be compared, written down and taken apart without a word about what predicates do.

`Step.induction` is the principle of proof for steps: a conjunction has a property if each of its
members has it.

Sameness and hashing are two functions, each by a recursion of its own, as they are two methods that
could disagree. That steps are the same exactly if their hash keys are is a theorem
(`TreePath.Proofs.Step.Equality`), and so is that sameness is an equivalence; neither is built in.
Steps of the fifth kind are the same only if they are one and the same.
-/

namespace TreePath

/-- A predicate function, by name. -/
structure Predicate where
  /-- Which function it is. -/
  id : String
  /-- The name it was defined under, if it has one. -/
  title : Option String
  /-- The name of its class. -/
  className : String
  /-- What stands for it in a message if it has no name. -/
  appearance : String
deriving DecidableEq

/-- The text that stands for a predicate. -/
def Predicate.text (p : Predicate) : String :=
  match p.title with
  | some title => if title.isEmpty then p.appearance else title
  | none => p.appearance

/-- One unit of what a path asks of an element. -/
inductive Step where
  /-- The element has this name. -/
  | name (wanted : String)
  /-- The element has each of these attributes, with these values. -/
  | attributes (wanted : Attributes)
  /-- The predicate answers yes. -/
  | predicate (p : Predicate)
  /-- The element satisfies every member. -/
  | all (members : List Step)
  /-- A step of no known kind. -/
  | unknown (id : Nat)

namespace Step

instance : Inhabited Step := ⟨all []⟩

/-- To prove a property of every step, prove it of the four kinds without members, and of a
conjunction whose members all have it. -/
@[elab_as_elim] theorem induction {motive : Step → Prop} (name : ∀ s, motive (.name s))
    (attributes : ∀ a, motive (.attributes a)) (predicate : ∀ p, motive (.predicate p))
    (all : ∀ ms, (∀ m ∈ ms, motive m) → motive (.all ms)) (unknown : ∀ i, motive (.unknown i)) :
    ∀ s, motive s
  | .name s => name s
  | .attributes a => attributes a
  | .predicate p => predicate p
  | .all ms => all ms fun m _ ↦ induction name attributes predicate all unknown m
  | .unknown i => unknown i

/-- The name of a step's class. -/
def className : Step → String
  | name _ => "NameTest"
  | attributes _ => "AttributeTest"
  | predicate _ => "PredicateTest"
  | all _ => "Conjunction"
  | unknown _ => "Sibling"

/-! ### Conjunctions -/

/-- The steps that a step asks for together: the members of a conjunction, or the step alone. -/
def conjuncts : Step → List Step
  | all members => members
  | s => [s]

/-- Both steps at once. Conjunctions on either side are joined member by member. -/
def and (a b : Step) : Step :=
  all (a.conjuncts ++ b.conjuncts)

mutual

/-- The steps inside a step that are not conjunctions, from left to right. -/
def leaves : Step → List Step
  | all members => leavesOfAll members
  | s => [s]

/-- The leaves of several steps, one after the other. -/
def leavesOfAll : List Step → List Step
  | [] => []
  | s :: rest => leaves s ++ leavesOfAll rest

end

/-! ### Equality -/

mutual

/-- Whether two steps ask for the same: the order of attributes does not matter, that of members
does, a predicate is equal to itself only, and so is a step of no known kind. -/
def same : Step → Step → Bool
  | name a, name b => a == b
  | attributes a, attributes b => a.same b
  | predicate p, predicate q => p.id == q.id
  | all xs, all ys => sameAll xs ys
  | unknown i, unknown j => i == j
  | _, _ => false

/-- Whether two lists of steps are the same place by place. -/
def sameAll : List Step → List Step → Bool
  | [], [] => true
  | x :: xs, y :: ys => same x y && sameAll xs ys
  | _, _ => false

end

/-- What the hash of a step is made of. -/
inductive HashKey where
  /-- A name. -/
  | name (wanted : String)
  /-- A set of attributes, listed in ascending order. -/
  | attributes (wanted : List (String × String))
  /-- Which function. -/
  | predicate (id : String)
  /-- The keys of the members, in order. -/
  | all (members : List HashKey)
  /-- Which step. -/
  | unknown (id : Nat)

mutual

/-- The hash key of a step. -/
def hashKey : Step → HashKey
  | name s => .name s
  | attributes a => .attributes a.sorted
  | predicate p => .predicate p.id
  | all ms => .all (hashKeys ms)
  | unknown i => .unknown i

/-- The hash keys of several steps. -/
def hashKeys : List Step → List HashKey
  | [] => []
  | s :: rest => hashKey s :: hashKeys rest

end

mutual

/-- Whether two hash keys are equal. -/
def HashKey.same : HashKey → HashKey → Bool
  | .name a, .name b => a == b
  | .attributes a, .attributes b => a == b
  | .predicate a, .predicate b => a == b
  | .all xs, .all ys => HashKey.sameAll xs ys
  | .unknown i, .unknown j => i == j
  | _, _ => false

/-- Whether two lists of hash keys are equal place by place. -/
def HashKey.sameAll : List HashKey → List HashKey → Bool
  | [], [] => true
  | x :: xs, y :: ys => HashKey.same x y && HashKey.sameAll xs ys
  | _, _ => false

end

end Step

end TreePath
