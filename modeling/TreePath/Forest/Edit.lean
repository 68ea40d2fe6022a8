import TreePath.Forest.Walk

/-!
# Editing a forest

Three operations move nodes: `Forest.appendChild`, `Forest.insertBefore` and `Forest.removeChild`.
An edit runs on a forest that it changes as it goes (`Edit`), so an edit that fails leaves behind
whatever it had done by then; each operation makes its checks first, and a failed operation leaves
the forest as it found it.

A child is an `Option`, since a caller may hand over nothing where a node is due; that is a failure
of its own.

The edits are written down link by link, in the order in which the links are set, and what they come
to is proved of that. The small lemmas beside the setters say of each which links of which node it
changes; a proof about an edit goes through them and does not look at how nodes are stored.

`plantGrove` makes a whole grove below a node out of these operations. Whatever builds a document
comes to the same forest as planting does.
-/

namespace TreePath

/-- Why an edit fails. -/
inductive EditError where
  /-- Nothing was handed over where a node with this feature is needed. -/
  | missing (feature : String)
  /-- The node to append is the new parent or lies above it. -/
  | appendedIntoItself
  /-- The node to insert is the new parent or lies above it. -/
  | insertedIntoItself
  /-- The node to insert before is not a child of the new parent. -/
  | referenceElsewhere
  /-- The node to remove is not a child. -/
  | notAChild
  /-- A node has a parent that does not list it. -/
  | notListed
deriving DecidableEq, Repr

/-- The class under which each failure is raised. -/
def EditError.kindName : EditError → String
  | missing _ => "AttributeError"
  | _ => "ValueError"

/-- The wording of each failure. -/
def EditError.message : EditError → String
  | missing feature => "'NoneType' object has no attribute " ++ Text.quoted feature
  | appendedIntoItself => "A node cannot be appended to itself or its descendants"
  | insertedIntoItself => "A node cannot be inserted into itself or its descendants"
  | referenceElsewhere => "Reference child not found in child nodes"
  | notAChild => "Child not found in child nodes"
  | notListed => "Child not found in child nodes"

/-- A computation that changes a forest and may fail on the way. -/
abbrev Edit := EStateM EditError Forest

namespace Forest

/-! ### Changes of single links -/

/-- Sets the node above a node. -/
def setParent (f : Forest) (i : NodeId) (p : Option NodeId) : Forest :=
  f.update i fun n ↦ { n with parent := p }

/-- Sets the children of a node. -/
def setChildren (f : Forest) (i : NodeId) (cs : List NodeId) : Forest :=
  f.update i fun n ↦ { n with children := cs }

/-- Sets the sibling before a node, if there is a node. -/
def setPrevious (f : Forest) (i : Option NodeId) (s : Option NodeId) : Forest :=
  match i with
  | none => f
  | some i => f.update i fun n ↦ { n with previous := s }

/-- Sets the sibling after a node, if there is a node. -/
def setNext (f : Forest) (i : Option NodeId) (s : Option NodeId) : Forest :=
  match i with
  | none => f
  | some i => f.update i fun n ↦ { n with next := s }

/-- Makes two nodes each other's neighbours; either may be missing. -/
def join (f : Forest) (a b : Option NodeId) : Forest :=
  (f.setNext a b).setPrevious b a

/-- Takes away a node's own links to its parent and siblings. -/
def release (f : Forest) (i : NodeId) : Forest :=
  f.update i fun n ↦ { n with parent := none, previous := none, next := none }

/-- Gives a node to a document unless it belongs to one. -/
def adopt (f : Forest) (i : NodeId) (document : Option NodeId) : Forest :=
  f.update i fun n ↦ { n with owner := n.owner.or document }

/-- Adds a node at the end of a list of children, with the links that go with it. -/
def linkLast (f : Forest) (p c : NodeId) : Forest :=
  let f := f.setParent c (some p)
  let f := match (f.children p).getLast? with
    | none => f
    | some last => f.join (some last) (some c)
  f.setChildren p (f.children p ++ [c])

/-- Links a node with the neighbours it gets when it is put in front of `r`. -/
def linkBefore (f : Forest) (c r : NodeId) : Forest :=
  let before := f.previous r
  let f := f.join (some c) (some r)
  let f := f.setPrevious (some c) before
  f.setNext before (some c)

/-! ### What each change does to a node -/

section Nodes

variable {f : Forest}

/-- Of all links only one changes when a parent is set. -/
theorem node_setParent {i : NodeId} (h : i < f.size) (p : Option NodeId) (j : NodeId) :
    (f.setParent i p).node j = { f.node j with parent := if j = i then p else f.parent j } := by
  rw [setParent, f.node_update _ _ h]
  split <;> rfl

/-- The same for children. -/
theorem node_setChildren {i : NodeId} (h : i < f.size) (cs : List NodeId) (j : NodeId) :
    (f.setChildren i cs).node j =
      { f.node j with children := if j = i then cs else f.children j } := by
  rw [setChildren, f.node_update _ _ h]
  split <;> rfl

/-- The same for the sibling before a node, if there is such a node. -/
theorem node_setPrevious {i : Option NodeId} (h : ∀ k ∈ i, k < f.size) (s : Option NodeId)
    (j : NodeId) :
    (f.setPrevious i s).node j =
      { f.node j with previous := if i = some j then s else f.previous j } := by
  cases i with
  | none => rfl
  | some k =>
    rw [setPrevious, f.node_update _ _ (h k rfl)]
    by_cases hk : j = k
    · rw [if_pos hk, if_pos (congrArg some hk.symm)]
    · rw [if_neg hk, if_neg fun heq ↦ hk (Option.some.inj heq).symm]
      rfl

/-- The same for the sibling after a node. -/
theorem node_setNext {i : Option NodeId} (h : ∀ k ∈ i, k < f.size) (s : Option NodeId)
    (j : NodeId) :
    (f.setNext i s).node j = { f.node j with next := if i = some j then s else f.next j } := by
  cases i with
  | none => rfl
  | some k =>
    rw [setNext, f.node_update _ _ (h k rfl)]
    by_cases hk : j = k
    · rw [if_pos hk, if_pos (congrArg some hk.symm)]
    · rw [if_neg hk, if_neg fun heq ↦ hk (Option.some.inj heq).symm]
      rfl

@[simp] theorem size_setParent (i : NodeId) (p : Option NodeId) :
    (f.setParent i p).size = f.size :=
  size_update ..

@[simp] theorem size_setChildren (i : NodeId) (cs : List NodeId) :
    (f.setChildren i cs).size = f.size :=
  size_update ..

@[simp] theorem size_setPrevious (i s : Option NodeId) : (f.setPrevious i s).size = f.size := by
  cases i with
  | none => rfl
  | some k => exact size_update ..

@[simp] theorem size_setNext (i s : Option NodeId) : (f.setNext i s).size = f.size := by
  cases i with
  | none => rfl
  | some k => exact size_update ..

@[simp] theorem size_join (a b : Option NodeId) : (f.join a b).size = f.size := by
  rw [join, size_setPrevious, size_setNext]

@[simp] theorem size_release (i : NodeId) : (f.release i).size = f.size :=
  size_update ..

@[simp] theorem size_adopt (i : NodeId) (document : Option NodeId) :
    (f.adopt i document).size = f.size :=
  size_update ..

@[simp] theorem children_setParent (i : NodeId) (p : Option NodeId) (j : NodeId) :
    (f.setParent i p).children j = f.children j :=
  f.children_update (by intro; rfl) i j

@[simp] theorem children_setPrevious (i s : Option NodeId) (j : NodeId) :
    (f.setPrevious i s).children j = f.children j := by
  cases i with
  | none => rfl
  | some k => exact f.children_update (by intro; rfl) k j

@[simp] theorem children_setNext (i s : Option NodeId) (j : NodeId) :
    (f.setNext i s).children j = f.children j := by
  cases i with
  | none => rfl
  | some k => exact f.children_update (by intro; rfl) k j

@[simp] theorem children_join (a b : Option NodeId) (j : NodeId) :
    (f.join a b).children j = f.children j := by
  rw [join, children_setPrevious, children_setNext]

/-- To link a node into a row of siblings leaves the lists of children to be changed. -/
@[simp] theorem children_linkBefore (c r : NodeId) (j : NodeId) :
    (f.linkBefore c r).children j = f.children j := by
  rw [linkBefore, children_setNext, children_setPrevious, children_join]

/-- Joining two siblings sets two links, one in each direction. -/
theorem node_join {a b : Option NodeId} (ha : ∀ k ∈ a, k < f.size) (hb : ∀ k ∈ b, k < f.size)
    (j : NodeId) :
    (f.join a b).node j =
      { f.node j with
        previous := if b = some j then a else f.previous j
        next := if a = some j then b else f.next j } := by
  have hb' : ∀ k ∈ b, k < (f.setNext a b).size := by
    rw [size_setNext]
    exact hb
  rw [join, node_setPrevious hb', previous, node_setNext ha]
  rfl

/-- A node that is released has neither parent nor siblings. -/
theorem node_release {i : NodeId} (h : i < f.size) (j : NodeId) :
    (f.release i).node j =
      { f.node j with
        parent := if j = i then none else f.parent j
        previous := if j = i then none else f.previous j
        next := if j = i then none else f.next j } := by
  rw [release, f.node_update _ _ h]
  split <;> rfl

/-- A node that is adopted keeps its owner if it has one. -/
theorem node_adopt {i : NodeId} (h : i < f.size) (document : Option NodeId) (j : NodeId) :
    (f.adopt i document).node j =
      { f.node j with owner := if j = i then (f.owner j).or document else f.owner j } := by
  rw [adopt, f.node_update _ _ h]
  split <;> rfl

end Nodes

/-! ### The operations -/

/-- The place of a child in a list of children. -/
def placeOf (p c : NodeId) : Edit Nat := do
  match ((← get).children p).findIdx? (· == c) with
  | some k => return k
  | none => throw .notListed

/-- Takes a node out of its parent's children. Its neighbours become each other's. -/
def removeChild (p : NodeId) (c : Option NodeId) : Edit NodeId := do
  match c with
  | none => throw (.missing "parent_node")
  | some c =>
    if (← get).parent c ≠ some p then
      throw .notAChild
    modify fun f ↦ f.join (f.previous c) (f.next c)
    let k ← placeOf p c
    modify fun f ↦ (f.setChildren p ((f.children p).eraseIdx k)).release c
    return c

/-- Takes a node out of wherever it is. -/
def detach (c : NodeId) : Edit Unit := do
  match (← get).parent c with
  | none => return
  | some q => discard (removeChild q (some c))

/-- Puts a node after the last child of another, out of wherever it was before. A node without a
document gets the document its new parent belongs to. -/
def appendChild (p : NodeId) (c : Option NodeId) : Edit NodeId := do
  match c with
  | none => throw (.missing "contains")
  | some c =>
    if c = p || (← get).contains c (some p) then
      throw .appendedIntoItself
    detach c
    modify fun f ↦ (f.linkLast p c).adopt c (f.owner p)
    return c

/-- Puts a node before a child of another, out of wherever it was before; without a child to put it
before, at the end. -/
def insertBefore (p : NodeId) (c : Option NodeId) (r : Option NodeId) : Edit NodeId := do
  match r with
  | none => appendChild p c
  | some r =>
    if (← get).parent r ≠ some p then
      throw .referenceElsewhere
    match c with
    | none => throw (.missing "contains")
    | some c =>
      if c = r then
        return c
      if c = p || (← get).contains c (some p) then
        throw .insertedIntoItself
      detach c
      modify fun f ↦ f.setParent c (some p)
      -- the reference may stand one place further to the left by now
      let k ← placeOf p r
      modify fun f ↦ f.linkBefore c r
      modify fun f ↦ f.setChildren p ((f.children p).insertIdx k c)
      return c

/-! ### New nodes -/

/-- Adds a node without links; the result is its number. -/
def create (content : Content) (owner : Option NodeId) : Edit NodeId :=
  modifyGet fun f ↦ (f.size, f.add content owner)

/-- Adds the nodes of a grove below a node, each appended after those before it is built on. -/
def plantGrove (owner : Option NodeId) (p : NodeId) : Grove Content → Edit Unit
  | [] => return
  | .node c ts :: rest => do
    let i ← create c owner
    discard (appendChild p (some i))
    plantGrove owner i ts
    plantGrove owner p rest

/-- Adds the nodes of a tree; the result is the number of the one at the top. Below a document,
every node belongs to it. -/
def plant (t : Tree Content) : Edit NodeId := do
  let i ← create t.label none
  plantGrove (if t.label.type = .document then some i else none) i t.branches
  return i

end Forest

end TreePath
