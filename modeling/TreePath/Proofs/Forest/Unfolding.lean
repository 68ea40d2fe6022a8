import Mathlib.Data.List.Nodup
import Mathlib.Order.OrderDual
import TreePath.Proofs.Forest.Lineage

/-!
# What lies below a node

In a forest whose links agree, the walk downwards is never cut short either: the tree below a node
is the node with the trees below its children (`WellLinked.subtree_eq`), and its elements are, for
each child that is one, the child and its elements (`WellLinked.elements_eq`). That the fuel is
enough is the count of `TreePath.Proofs.Forest.Lineage` the other way up.

A property of a node that follows from the same property of its children holds of every node
(`WellLinked.below_induction`), and likewise for lists of nodes (`WellLinked.row_induction`). What
lies below different children is different (`WellLinked.eq_of_isAbove`), so no element is listed
twice (`WellLinked.nodup_elements`).

The two principles of induction replace an induction on the height of a node or on the fuel of a
walk. A search of a tree goes down into the children of a node and along a list of siblings, and
`WellLinked.row_induction` has one case for each of these steps, with a hypothesis for the children
of the first node and another for the rest of the list. It carries most proofs on what selections
reach.
-/

namespace TreePath

namespace Forest

variable {f : Forest}

namespace WellLinked

variable (hf : f.WellLinked)

include hf

/-- The way down ends by itself: a bound that covers the nodes below need not be any greater. -/
theorem subtreeUpTo_succ {height : NodeId → Nat}
    (hheight : ∀ {p c : NodeId}, f.parent c = some p → height c < height p) {fuel : Nat} :
    ∀ {i : NodeId}, f.countHigher (fun x ↦ OrderDual.toDual (height x)) i ≤ fuel →
      f.subtreeUpTo (fuel + 1) i = f.subtreeUpTo fuel i := by
  have hlower {i c : NodeId} (hc : c ∈ f.children i) :
      f.countHigher (fun x ↦ OrderDual.toDual (height x)) c <
        f.countHigher (fun x ↦ OrderDual.toDual (height x)) i :=
    countHigher_lt (hf.child_lt_size hc)
      (OrderDual.toDual_lt_toDual.2 (hheight (hf.mem_children_iff.1 hc)))
  induction fuel with
  | zero =>
    intro i h
    have hnil : f.children i = [] := by
      refine List.eq_nil_iff_forall_not_mem.2 fun c hc ↦ ?_
      exact absurd (Nat.lt_of_lt_of_le (hlower hc) h) (Nat.not_lt_zero _)
    rw [subtreeUpTo, subtreeUpTo, hnil, List.map_nil]
  | succ fuel ih =>
    intro i h
    rw [subtreeUpTo, subtreeUpTo]
    refine congrArg (Tree.node i) (List.map_congr_left fun c hc ↦ ih ?_)
    exact Nat.le_of_lt_succ (Nat.lt_of_lt_of_le (hlower hc) h)

/-- The tree below a node is the node with the trees below its children. -/
theorem subtree_eq (i : NodeId) : f.subtree i = .node i ((f.children i).map f.subtree) := by
  obtain ⟨height, hheight⟩ := hf.acyclic
  rw [subtree, ← hf.subtreeUpTo_succ hheight (countHigher_le_size _ i), subtreeUpTo]
  rfl

/-- To prove a property of every node, prove it of a node whose children all have it. -/
theorem below_induction {motive : NodeId → Prop}
    (h : ∀ i, (∀ c ∈ f.children i, motive c) → motive i) (i : NodeId) : motive i := by
  obtain ⟨height, hheight⟩ := hf.acyclic
  induction hi : height i using Nat.strongRecOn generalizing i with
  | ind n ih =>
    refine h i fun c hc ↦ ih (height c) ?_ c rfl
    rw [← hi]
    exact hheight (hf.mem_children_iff.1 hc)

/-- To prove a property of every list of nodes, prove it of the empty one, and of a node in front of
a list when it holds of the node's children and of that list. -/
@[elab_as_elim] theorem row_induction {motive : List NodeId → Prop} (nil : motive [])
    (cons : ∀ c rest, motive (f.children c) → motive rest → motive (c :: rest)) :
    ∀ cs, motive cs := by
  have hrow (cs : List NodeId) (h : ∀ c ∈ cs, motive (f.children c)) : motive cs := by
    induction cs with
    | nil => exact nil
    | cons c rest ih =>
      obtain ⟨hc, hrest⟩ := List.forall_mem_cons.1 h
      exact cons c rest hc (ih hrest)
  have hchildren (i : NodeId) : motive (f.children i) := by
    induction i using hf.below_induction with
    | h i ih => exact hrow _ ih
  exact fun cs ↦ hrow cs fun c _ ↦ hchildren c

/-- Only one child of a node lies above a given node. -/
theorem eq_of_isAbove {p c d x : NodeId} (hc : f.parent c = some p) (hd : f.parent d = some p)
    (hcx : f.IsAbove c x) (hdx : f.IsAbove d x) : c = d := by
  induction hcx with
  | refl =>
    rcases hdx.eq_or_parent with heq | ⟨q, hq, hdq⟩
    · exact heq.symm
    · cases hc.symm.trans hq
      exact absurd hdq (hf.not_isAbove_parent hd)
  | tail hcy hy ih =>
    rcases hdx.eq_or_parent with rfl | ⟨q, hq, hdq⟩
    · cases hd.symm.trans hy
      exact absurd hcy (hf.not_isAbove_parent hc)
    · cases hq.symm.trans hy
      exact ih hdq

/-! ### The elements below a node -/

/-- The search for elements passes the elements of the trees below, in the order of the text. -/
theorem elements_eq_passing (i : NodeId) :
    f.elements i = Tree.passing f.isElement ((f.children i).map f.subtree) := by
  rw [elements, hf.subtree_eq, Tree.branches_node]

/-- The elements below a node are, for each child that is one, the child and its elements. -/
theorem elements_eq (i : NodeId) :
    f.elements i = (f.elementChildren i).flatMap fun c ↦ c :: f.elements c := by
  rw [hf.elements_eq_passing, elementChildren]
  induction f.children i with
  | nil => rw [List.map_nil, Tree.passing, List.filter_nil, List.flatMap_nil]
  | cons c rest ih =>
    rw [List.map_cons, hf.subtree_eq c, Tree.passing, ← hf.elements_eq_passing c, ih]
    cases hc : f.isElement c with
    | true => simp [hc]
    | false => simp [hc]

/-- A node lies above its elements. -/
theorem isAbove_of_mem_elements {i x : NodeId} (h : x ∈ i :: f.elements i) : f.IsAbove i x := by
  induction i using hf.below_induction with
  | h i ih =>
    rcases List.mem_cons.1 h with rfl | h
    · exact IsAbove.refl x
    · rw [hf.elements_eq, List.mem_flatMap] at h
      obtain ⟨c, hc, hx⟩ := h
      have hmem : c ∈ f.children i := List.mem_of_mem_filter hc
      exact (IsAbove.of_parent (hf.mem_children_iff.1 hmem)).trans (ih c hmem hx)

/-- Lists for different children have nothing in common if they are made of what lies below. -/
theorem pairwise_disjoint {α : Type} (node : α → NodeId) {g : NodeId → List α} {i : NodeId}
    {is : List NodeId} (his : is.Sublist (f.children i))
    (hg : ∀ c ∈ is, ∀ a ∈ g c, f.IsAbove c (node a)) :
    is.Pairwise (Function.onFun List.Disjoint g) := by
  have hnodup : is.Nodup := his.nodup (hf.nodup_children i)
  refine hnodup.imp_of_mem fun {c d} hc hd hne ↦ ?_
  intro a hac had
  exact hne (hf.eq_of_isAbove (hf.mem_children_iff.1 (his.subset hc))
    (hf.mem_children_iff.1 (his.subset hd)) (hg c hc a hac) (hg d hd a had))

/-- No element below a node is listed twice. -/
theorem nodup_elements (i : NodeId) : (f.elements i).Nodup := by
  induction i using hf.below_induction with
  | h i ih =>
    rw [hf.elements_eq, List.nodup_flatMap]
    refine ⟨fun c hc ↦ ?_, hf.pairwise_disjoint id List.filter_sublist fun c _ x hx ↦ ?_⟩
    · refine List.nodup_cons.2 ⟨fun hmem ↦ ?_, ih c (List.mem_of_mem_filter hc)⟩
      rw [hf.elements_eq, List.mem_flatMap] at hmem
      obtain ⟨d, hd, hcd⟩ := hmem
      have hparent := hf.mem_children_iff.1 (List.mem_of_mem_filter hd)
      exact hf.not_isAbove_parent hparent (hf.isAbove_of_mem_elements hcd)
    · exact hf.isAbove_of_mem_elements hx

/-! ### The levels below a node -/

/-- There are fewer levels below a child than below its parent. -/
theorem depth_lt_of_mem_children {i c : NodeId} (h : c ∈ f.children i) :
    Tree.depth (f.subtree c).branches < Tree.depth (f.subtree i).branches := by
  rw [hf.subtree_eq i, Tree.branches_node]
  generalize f.children i = is at h
  induction is with
  | nil => cases h
  | cons d rest ih =>
    rw [List.map_cons, hf.subtree_eq d, Tree.depth]
    rcases List.mem_cons.1 h with rfl | h
    · rw [hf.subtree_eq c, Tree.branches_node]
      omega
    · have hlt := ih h
      omega

end WellLinked

end Forest

end TreePath
