import Mathlib.Data.Finset.Card
import Mathlib.Data.Finset.Range
import Mathlib.Logic.Relation
import TreePath.Forest.Walk

/-!
# What lies above a node

In a forest whose links agree, the walk upwards is never cut short: `Forest.lineage` lists a node
and everything above it (`mem_lineage_iff`), so that `Forest.contains` decides whether one node is
another or lies above it (`contains_iff`).

The walk has as much fuel as the forest has nodes, and one step more. What makes that enough is a
count: of the nodes of the forest, fewer are higher than a parent than are higher than its child
(`countHigher_lt`). The heights come from `WellLinked.acyclic`; only their order matters.

A walk with a bound is needed since a forest may have links in a circle, although no calls lead to
one. In such a forest the bound cuts the walk short, and nothing is claimed of it here. Where the
links agree, what lies above a node can be spoken of without any walk, as the reflexive and
transitive closure of being a parent (`IsAbove`), and the two notions are brought together once.
Later proofs reason about the closure, by induction on the way from one node to the other.
-/

namespace TreePath

namespace Forest

variable {f : Forest}

/-- One node is the parent of the other. -/
def IsParent (f : Forest) (p c : NodeId) : Prop := f.parent c = some p

/-- One node is the other or lies above it. -/
def IsAbove (f : Forest) (a b : NodeId) : Prop := Relation.ReflTransGen f.IsParent a b

namespace IsAbove

theorem refl (a : NodeId) : f.IsAbove a a := Relation.ReflTransGen.refl

theorem trans {a b c : NodeId} (hab : f.IsAbove a b) (hbc : f.IsAbove b c) : f.IsAbove a c :=
  Relation.ReflTransGen.trans hab hbc

/-- A parent lies above its child. -/
theorem of_parent {p c : NodeId} (h : f.parent c = some p) : f.IsAbove p c :=
  Relation.ReflTransGen.single h

/-- What lies above a node and is not the node itself lies above its parent. -/
theorem eq_or_parent {a b : NodeId} (h : f.IsAbove a b) :
    a = b ∨ ∃ p, f.parent b = some p ∧ f.IsAbove a p := by
  rcases Relation.ReflTransGen.cases_tail h with heq | ⟨p, hap, hpb⟩
  · exact Or.inl heq.symm
  · exact Or.inr ⟨p, hpb, hap⟩

end IsAbove

/-- A node with links is one of the forest. -/
theorem lt_size_of_parent {p c : NodeId} (h : f.parent c = some p) : c < f.size := by
  by_contra hge
  have hnode : f.node c = default := f.node_of_size_le (Nat.le_of_not_lt hge)
  rw [parent, hnode] at h
  cases h

/-- What has children is a node. -/
theorem lt_size_of_mem_children {p c : NodeId} (h : c ∈ f.children p) : p < f.size := by
  by_contra hge
  have hnode : f.node p = default := f.node_of_size_le (Nat.le_of_not_lt hge)
  rw [children, hnode] at h
  cases h

namespace WellLinked

variable (hf : f.WellLinked)

include hf

/-- So is what is a parent. -/
theorem parent_lt_size {p c : NodeId} (h : f.parent c = some p) : p < f.size :=
  lt_size_of_mem_children (hf.mem_children_iff.2 h)

/-- No node lies above itself. -/
theorem not_transGen_self (a : NodeId) : ¬ Relation.TransGen f.IsParent a a := by
  obtain ⟨height, hheight⟩ := hf.acyclic
  have hlt : ∀ {a b : NodeId}, Relation.TransGen f.IsParent a b → height b < height a := by
    intro a b h
    induction h with
    | single h => exact hheight h
    | tail _ h ih => exact (hheight h).trans ih
  exact fun h ↦ Nat.lt_irrefl _ (hlt h)

/-- A node does not lie above its own parent. -/
theorem not_isAbove_parent {p c : NodeId} (h : f.parent c = some p) : ¬ f.IsAbove c p :=
  fun hcp ↦ hf.not_transGen_self c (Relation.TransGen.tail' hcp h)

end WellLinked

/-! ### The walk upwards is never cut short -/

/-- How many nodes have a higher rank than a node. -/
def countHigher {α : Type} [Preorder α] [DecidableLT α] (f : Forest) (rank : NodeId → α)
    (b : NodeId) : Nat :=
  ((Finset.range f.size).filter fun x ↦ rank b < rank x).card

section Count

variable {α : Type} [Preorder α] [DecidableLT α] {rank : NodeId → α}

/-- No more nodes are higher than there are nodes. -/
theorem countHigher_le_size (rank : NodeId → α) (b : NodeId) : f.countHigher rank b ≤ f.size :=
  (Finset.card_filter_le _ _).trans_eq (Finset.card_range _)

/-- Fewer nodes are higher than a node that is higher itself. -/
theorem countHigher_lt {a b : NodeId} (ha : a < f.size) (hlt : rank b < rank a) :
    f.countHigher rank a < f.countHigher rank b := by
  refine Finset.card_lt_card ((Finset.ssubset_iff_of_subset ?_).2 ⟨a, ?_, ?_⟩)
  · intro x hx
    rw [Finset.mem_filter] at hx ⊢
    exact ⟨hx.1, hlt.trans hx.2⟩
  · exact Finset.mem_filter.2 ⟨Finset.mem_range.2 ha, hlt⟩
  · exact fun hmem ↦ lt_irrefl _ (Finset.mem_filter.1 hmem).2

end Count

/-- The way up ends by itself: a bound that covers the nodes above need not be any greater. -/
theorem WellLinked.lineageUpTo_succ (hf : f.WellLinked) {height : NodeId → Nat}
    (hheight : ∀ {p c : NodeId}, f.parent c = some p → height c < height p) {fuel : Nat} :
    ∀ {b : NodeId}, f.countHigher height b < fuel →
      f.lineageUpTo (fuel + 1) b = f.lineageUpTo fuel b := by
  induction fuel with
  | zero => intro b h; exact absurd h (Nat.not_lt_zero _)
  | succ fuel ih =>
    intro b h
    rw [lineageUpTo, lineageUpTo]
    cases hp : f.parent b with
    | none => rfl
    | some p =>
      -- the count goes down on the way up, and the fuel by no more
      have hlt := countHigher_lt (hf.parent_lt_size hp) (hheight hp)
      exact congrArg (b :: ·) (ih (Nat.lt_of_lt_of_le hlt (Nat.le_of_lt_succ h)))

/-- The lineage of a node is the node, and the lineage of its parent. -/
theorem WellLinked.lineage_eq (hf : f.WellLinked) (b : NodeId) :
    f.lineage b = b :: match f.parent b with
      | none => []
      | some p => f.lineage p := by
  obtain ⟨height, hheight⟩ := hf.acyclic
  have hstable := hf.lineageUpTo_succ hheight (b := b)
    (Nat.lt_succ_of_le (countHigher_le_size height b))
  rw [lineage, ← hstable, lineageUpTo]
  cases f.parent b <;> rfl

/-- The nodes above a child are those above its parent, and the child. -/
theorem WellLinked.lineage_of_parent (hf : f.WellLinked) {p c : NodeId} (h : f.parent c = some p) :
    f.lineage c = c :: f.lineage p := by
  rw [hf.lineage_eq c, h]

/-- How deep a node stands: how many nodes there are from the top of its tree down to it. -/
def level (f : Forest) (x : NodeId) : Nat :=
  (f.lineage x).length

/-- How many levels below another a node stands. -/
def depthBelow (f : Forest) (i x : NodeId) : Nat :=
  f.level x - f.level i

/-- A child stands one level below its parent. -/
theorem WellLinked.level_of_mem_children (hf : f.WellLinked) {i c : NodeId}
    (h : c ∈ f.children i) : f.level c = f.level i + 1 := by
  rw [level, hf.lineage_of_parent (hf.mem_children_iff.1 h), List.length_cons, level]

/-- One step further up in a lineage stands the parent. -/
theorem WellLinked.lineage_getElem?_succ (hf : f.WellLinked) (b : NodeId) (k : Nat) :
    (f.lineage b)[k + 1]? = (f.lineage b)[k]?.bind f.parent := by
  induction k generalizing b with
  | zero =>
    rw [hf.lineage_eq b]
    cases hp : f.parent b with
    | none => simp [hp]
    | some p => simp [hp, hf.lineage_eq p]
  | succ k ih =>
    rw [hf.lineage_eq b]
    cases f.parent b with
    | none => rfl
    | some p => exact ih p

/-- What is met on the way up lies above. -/
theorem isAbove_of_mem_lineageUpTo {fuel : Nat} {a : NodeId} :
    ∀ {b : NodeId}, a ∈ f.lineageUpTo fuel b → f.IsAbove a b := by
  induction fuel with
  | zero => intro b h; cases h
  | succ fuel ih =>
    intro b h
    rw [lineageUpTo, List.mem_cons] at h
    rcases h with rfl | h
    · exact IsAbove.refl a
    · cases hp : f.parent b with
      | none => rw [hp] at h; cases h
      | some p =>
        rw [hp] at h
        exact (ih h).trans (IsAbove.of_parent hp)

/-- The lineage of a node is made of the node and all that lies above it. -/
theorem WellLinked.mem_lineage_iff (hf : f.WellLinked) {a b : NodeId} :
    a ∈ f.lineage b ↔ f.IsAbove a b := by
  refine ⟨isAbove_of_mem_lineageUpTo, fun h ↦ ?_⟩
  induction h with
  | refl =>
    rw [hf.lineage_eq a]
    exact List.mem_cons_self
  | tail _ hp ih =>
    rw [hf.lineage_of_parent hp]
    exact List.mem_cons_of_mem _ ih

/-- One node contains another if it is the other or lies above it. -/
theorem WellLinked.contains_iff (hf : f.WellLinked) {a b : NodeId} :
    f.contains a (some b) = true ↔ f.IsAbove a b := by
  rw [contains, List.contains_iff_mem]
  exact hf.mem_lineage_iff

/-- The test for containment says no just when it should. -/
theorem WellLinked.contains_eq_false_iff (hf : f.WellLinked) {a b : NodeId} :
    f.contains a (some b) = false ↔ ¬ f.IsAbove a b := by
  rw [Bool.eq_false_iff, ne_eq, hf.contains_iff]

end Forest

end TreePath
