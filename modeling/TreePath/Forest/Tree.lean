/-!
# Labelled trees

A tree is a label and a list of trees, its branches. A list of trees is called a *grove*; functions
on trees are written on groves, by one recursion that takes the first tree apart into its label, its
branches and the trees after it. `Tree.grove_induction` is the matching principle of proof, and
`Tree.map` carries a function over all labels.

Trees are what remains of a forest when the numbers of its nodes are forgotten: they can be compared
where forests cannot, since two forests may have the same shape with differently numbered nodes.
Recursion on groves, and not on trees, is what keeps functions structural: a tree is inside of the
list of its siblings, and the first of them is split into three parts at once.
-/

namespace TreePath

/-- A label and the branches below it. -/
inductive Tree (α : Type) where
  /-- A tree with its label and branches. -/
  | node (label : α) (branches : List (Tree α))

/-- Trees side by side. -/
abbrev Grove (α : Type) := List (Tree α)

namespace Tree

variable {α β : Type}

/-- The label at the top. -/
def label : Tree α → α
  | node a _ => a

/-- The trees below the top. -/
def branches : Tree α → Grove α
  | node _ ts => ts

@[simp] theorem label_node (a : α) (ts : Grove α) : (node a ts).label = a := rfl

@[simp] theorem branches_node (a : α) (ts : Grove α) : (node a ts).branches = ts := rfl

/-- To prove a property of every grove, prove it of the empty one, and of a tree in front of a grove
when it holds of the tree's branches and of that grove. -/
@[elab_as_elim] theorem grove_induction {motive : Grove α → Prop} (nil : motive [])
    (cons : ∀ (a : α) (ts rest : Grove α), motive ts → motive rest → motive (node a ts :: rest)) :
    ∀ g, motive g
  | [] => nil
  | node a ts :: rest =>
    cons a ts rest (grove_induction nil cons ts) (grove_induction nil cons rest)

/-- Applies a function to every label of a grove. -/
def mapGrove (g : α → β) : Grove α → Grove β
  | [] => []
  | node a ts :: rest => node (g a) (mapGrove g ts) :: mapGrove g rest

/-- Applies a function to every label. -/
def map (g : α → β) (t : Tree α) : Tree β :=
  node (g t.label) (mapGrove g t.branches)

/-- The labels of a grove that satisfy a test, in the order of the text: each before those below it.
The search goes below a label only if the label passes. -/
def passing (p : α → Bool) : Grove α → List α
  | [] => []
  | node a ts :: rest => (if p a then a :: passing p ts else []) ++ passing p rest

/-- A function is applied to a grove tree by tree. -/
theorem mapGrove_eq_map (g : α → β) (ts : Grove α) : mapGrove g ts = List.map (map g) ts := by
  induction ts with
  | nil => rw [mapGrove, List.map_nil]
  | cons t rest ih =>
    obtain ⟨a, ts⟩ := t
    rw [mapGrove, ih]
    rfl

/-- A search for labels by what a function makes of them finds them where it finds that. -/
theorem map_passing (g : α → β) (p : β → Bool) (ts : Grove α) :
    (passing (fun a ↦ p (g a)) ts).map g = passing p (mapGrove g ts) := by
  induction ts using grove_induction with
  | nil => rw [passing, mapGrove, passing, List.map_nil]
  | cons a ts rest ihts ihrest =>
    rw [passing, mapGrove, passing, List.map_append, ihrest]
    cases h : p (g a) with
    | true => simp [ihts]
    | false => simp

/-- What is found passes. -/
theorem of_mem_passing {p : α → Bool} {ts : Grove α} {a : α} (h : a ∈ passing p ts) :
    p a = true := by
  induction ts using grove_induction with
  | nil => simp [passing] at h
  | cons b ts rest ihts ihrest =>
    rw [passing] at h
    rcases List.mem_append.1 h with h | h
    · split at h
      · next hb =>
        rcases List.mem_cons.1 h with rfl | h
        · exact hb
        · exact ihts h
      · cases h
    · exact ihrest h

/-- How many labels a grove has. -/
def count : Grove α → Nat
  | [] => 0
  | node _ ts :: rest => count ts + 1 + count rest

/-- The number of levels of a grove. -/
def depth : Grove α → Nat
  | [] => 0
  | node _ ts :: rest => max (depth ts + 1) (depth rest)

end Tree

end TreePath
