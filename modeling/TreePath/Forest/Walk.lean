import TreePath.Forest.Basic
import TreePath.Forest.Tree

/-!
# Walking a forest

Upwards, `Forest.lineage` follows the parent links from a node to the top of its tree, and
everything that asks what lies above a node — `contains`, `location` — reads it. Downwards,
`Forest.subtree` unfolds what hangs below a node into a tree of node numbers, and everything that
looks below — `elements`, `textContent` — is a function of that tree.

Both walks stop after as many steps as the forest has nodes. In a forest whose links agree no walk
is longer than that, so neither is ever cut short.

The two bounds make the walks total functions of any forest whatsoever; that they do no harm is
proved for forests whose links agree (`WellLinked.lineageUpTo_succ`, `WellLinked.subtreeUpTo_succ`),
by counting the nodes that are still above, or below. Theorems about what lies above and below are
stated with the relation `Forest.IsAbove`, which has no bound in it.
-/

namespace TreePath

namespace Forest

variable (f : Forest)

/-! ### Upwards -/

/-- A node and those above it, nearest first, at most `fuel` of them. -/
def lineageUpTo : Nat → NodeId → List NodeId
  | 0, _ => []
  | fuel + 1, i =>
    i :: match f.parent i with
      | none => []
      | some p => lineageUpTo fuel p

/-- A node and all nodes above it, nearest first. -/
def lineage (i : NodeId) : List NodeId :=
  f.lineageUpTo (f.size + 1) i

/-- Whether a node is another one or lies above it. -/
def contains (a : NodeId) (b : Option NodeId) : Bool :=
  match b with
  | none => false
  | some b => (f.lineage b).contains a

/-- The node at the top of the tree that a node belongs to. -/
def top (i : NodeId) : NodeId :=
  (f.lineage i).getLast?.getD i

/-- The place of a node among its parent's children. -/
def place (i : NodeId) : Nat :=
  match f.parent i with
  | none => 0
  | some p => (f.children p).idxOf i

/-- The way from the top of the tree down to a node, as places among the children. -/
def location (i : NodeId) : List Nat :=
  ((f.lineage i).filter fun j ↦ (f.parent j).isSome).reverse.map f.place

/-- The node that a list of places leads to. -/
def follow? : NodeId → List Nat → Option NodeId
  | i, [] => some i
  | i, k :: ks => (f.children i)[k]?.bind fun c ↦ follow? c ks

/-! ### Downwards -/

/-- The tree below a node, cut off after `fuel` levels. -/
def subtreeUpTo : Nat → NodeId → Tree NodeId
  | 0, i => .node i []
  | fuel + 1, i => .node i ((f.children i).map (subtreeUpTo fuel))

/-- The tree below a node. -/
def subtree (i : NodeId) : Tree NodeId :=
  f.subtreeUpTo f.size i

/-- The tree below a node, with what each node is instead of its number. -/
def shape (i : NodeId) : Tree Content :=
  (f.subtree i).map f.content

/-- Every element below a node, each before those below it. The search goes down through elements
only. -/
def elements (i : NodeId) : List NodeId :=
  Tree.passing f.isElement (f.subtree i).branches

/-- The first element among the children. -/
def firstElement? (i : NodeId) : Option NodeId :=
  (f.children i).find? f.isElement

end Forest

/-! ### Text -/

/-- The text of a grove: that of its text nodes, and of those below its elements. -/
def Tree.groveText : Grove Content → List String
  | [] => []
  | .node c ts :: rest =>
    (match c.type with
      | .text => [c.value?.getD ""]
      | .element => groveText ts
      | _ => []) ++ groveText rest

/-- The text of a tree: that of a text node is its own, that of any other the text below it. -/
def Tree.text (t : Tree Content) : String :=
  match t.label.type with
  | .text => t.label.value?.getD ""
  | _ => String.join (groveText t.branches)

/-- The text of a node and of everything below it. -/
def Forest.textContent (f : Forest) (i : NodeId) : String :=
  (f.shape i).text

end TreePath
