import TreePath.Forest.Access
import TreePath.Proofs.Forest.Editing

/-!
# Forests that calls lead to

A forest is reachable if a run of calls makes it from the empty one: nodes are made, appended,
inserted and removed, in any order and with any nodes of the forest for arguments, or with nothing
where a node is due. Calls that fail are part of a run; what they leave behind is the forest that
the next call finds.

The links of every reachable forest agree (`Reachable.wellLinked`). The step is
`WellLinked.after_call`: a call that is refused changes nothing, one that makes a node adds it
without links, and the others come to the forests of `TreePath.Proofs.Forest.Editing`. The run is
`WellLinked.after_run`.

What a node is may be anything when it is made, and no edit looks at it; so forests in which
attributes were set later are reachable too.
-/

namespace TreePath

/-- A call that makes or moves a node, or fails to. -/
inductive Call where
  /-- Makes a node, unless what it is to be is refused. -/
  | create (content : Except NodeError Content) (owner : Option NodeId)
  /-- Appends a node to another. -/
  | append (p : NodeId) (c : Option NodeId)
  /-- Inserts a node into another, before a child or at the end. -/
  | insert (p : NodeId) (c r : Option NodeId)
  /-- Removes a node from another. -/
  | remove (p : NodeId) (c : Option NodeId)

namespace Call

/-- Whether what is made is a document, which never has an owner. -/
def isDocument : Except NodeError Content → Bool
  | .ok (.document _) => true
  | _ => false

/-- Every node that is handed over is a node of the forest, and a document is made without an
owner. -/
def Fits (f : Forest) : Call → Prop
  | create content owner => (∀ d ∈ owner, d < f.size) ∧ (isDocument content = true → owner = none)
  | append p c => p < f.size ∧ ∀ x ∈ c, x < f.size
  | insert p c r => p < f.size ∧ (∀ x ∈ c, x < f.size) ∧ ∀ x ∈ r, x < f.size
  | remove p c => p < f.size ∧ ∀ x ∈ c, x < f.size

/-- The forest that an edit leaves behind, whether it succeeds or fails. -/
def leave {α : Type} (f : Forest) (x : Edit α) : Forest :=
  match x.run f with
  | .ok _ f' => f'
  | .error _ f' => f'

/-- The forest that a call leaves behind, whether it succeeds or fails. -/
def after (f : Forest) : Call → Forest
  | create (.ok content) owner => leave f (Forest.create content owner)
  | create (.error _) _ => f
  | append p c => leave f (Forest.appendChild p c)
  | insert p c r => leave f (Forest.insertBefore p c r)
  | remove p c => leave f (Forest.removeChild p c)

/-- The forest that calls leave behind, made one after the other. -/
def run (f : Forest) : List Call → Forest
  | [] => f
  | a :: rest => run (a.after f) rest

/-- Each call fits the forest that it finds. -/
def FitAll (f : Forest) : List Call → Prop
  | [] => True
  | a :: rest => a.Fits f ∧ FitAll (a.after f) rest

instance (f : Forest) : (a : Call) → Decidable (a.Fits f)
  | create .. => inferInstanceAs (Decidable (_ ∧ (_ → _)))
  | append .. => inferInstanceAs (Decidable (_ ∧ _))
  | insert .. => inferInstanceAs (Decidable (_ ∧ _ ∧ _))
  | remove .. => inferInstanceAs (Decidable (_ ∧ _))

instance decidableFitAll : (f : Forest) → (as : List Call) → Decidable (FitAll f as)
  | _, [] => inferInstanceAs (Decidable True)
  | f, a :: rest =>
    have := decidableFitAll (a.after f) rest
    inferInstanceAs (Decidable (_ ∧ _))

end Call

namespace Forest

/-- A run of calls makes the forest from the empty one. -/
def Reachable (f : Forest) : Prop :=
  ∃ as : List Call, Call.FitAll .empty as ∧ Call.run .empty as = f

variable {f : Forest}

/-! ### A node that is made has no links -/

/-- What a new node is, and that the others stay the same. -/
theorem node_add (content : Content) (owner : Option NodeId) (j : NodeId) :
    (f.add content owner).node j =
      if j = f.size then ⟨content, owner, none, [], none, none⟩ else f.node j := by
  split
  · next heq => rw [heq, node_add_self]
  · next hne =>
    rcases Nat.lt_or_gt_of_ne hne with hlt | hgt
    · exact f.node_add_of_lt content owner hlt
    · rw [node_of_size_le f hgt.le, node_of_size_le]
      rw [size_add]
      exact hgt

/-- A new node and those there were have the links they would have without it. -/
theorem links_add (content : Content) (owner : Option NodeId) (j : NodeId) :
    (f.add content owner).parent j = f.parent j ∧
      (f.add content owner).children j = f.children j ∧
      (f.add content owner).previous j = f.previous j ∧
      (f.add content owner).next j = f.next j := by
  rw [parent, children, previous, next, node_add]
  by_cases hj : j = f.size
  · have hnone : f.node j = default := f.node_of_size_le hj.ge
    rw [if_pos hj, parent, children, previous, next, hnone]
    exact ⟨rfl, rfl, rfl, rfl⟩
  · rw [if_neg hj]
    exact ⟨rfl, rfl, rfl, rfl⟩

/-- A new node, which has no links, leaves the links in agreement. -/
theorem WellLinked.add (hf : f.WellLinked) (content : Content) (owner : Option NodeId) :
    (f.add content owner).WellLinked := by
  have hparent (j : NodeId) := (f.links_add content owner j).1
  have hchildren (j : NodeId) := (f.links_add content owner j).2.1
  have hprevious (j : NodeId) := (f.links_add content owner j).2.2.1
  have hnext (j : NodeId) := (f.links_add content owner j).2.2.2
  constructor
  · intro p c hc
    rw [hchildren] at hc
    rw [size_add]
    exact Nat.lt_succ_of_lt (hf.child_lt_size hc)
  · intro p c
    rw [hchildren, hparent]
    exact hf.mem_children_iff
  · intro p
    rw [hchildren]
    exact hf.nodup_children p
  · intro p i c hc
    rw [hchildren] at hc ⊢
    rw [hprevious]
    exact hf.previous_eq hc
  · intro p i c hc
    rw [hchildren] at hc ⊢
    rw [hnext]
    exact hf.next_eq hc
  · intro c hc
    rw [hparent] at hc
    rw [hprevious]
    exact hf.previous_eq_none hc
  · intro c hc
    rw [hparent] at hc
    rw [hnext]
    exact hf.next_eq_none hc
  · obtain ⟨height, hheight⟩ := hf.acyclic
    refine ⟨height, fun {p c} hc ↦ hheight ?_⟩
    rwa [hparent] at hc

/-! ### What one call preserves -/

namespace WellLinked

variable (hf : f.WellLinked) {p : NodeId}

include hf

/-- An attempt to append a node leaves the links in agreement, whether it fails or not. -/
theorem leave_append (hp : p < f.size) {c : Option NodeId} (hc : ∀ x ∈ c, x < f.size) :
    (Call.leave f (appendChild p c)).WellLinked := by
  cases c with
  | none => exact hf
  | some c =>
    rw [Call.leave, hf.run_appendChild]
    cases hcp : f.contains c (some p) with
    | true => exact hf
    | false => exact hf.of_attached (hc c rfl) hcp (hf.attached_append hp (hc c rfl))

/-- So does one to insert a node before a reference. -/
theorem leave_insert (hp : p < f.size) {c r : Option NodeId} (hc : ∀ x ∈ c, x < f.size) :
    (Call.leave f (insertBefore p c r)).WellLinked := by
  cases r with
  | none => exact hf.leave_append hp hc
  | some r =>
    cases c with
    | none =>
      rw [Call.leave, run_insertBefore_none]
      exact hf
    | some c =>
      rw [Call.leave, hf.run_insertBefore]
      by_cases hr : f.parent r = some p
      · by_cases hcr : c = r
        · simpa [hr, hcr] using hf
        · cases hcp : f.contains c (some p) with
          | true => simpa [hr, hcr] using hf
          | false =>
            obtain ⟨as, bs, -, hattached, -⟩ := hf.attached_insert (hc c rfl) hr hcr
            simpa [hr, hcr] using hf.of_attached (hc c rfl) hcp hattached
      · simpa [hr] using hf

/-- And one to remove a child. -/
theorem leave_remove (c : Option NodeId) : (Call.leave f (removeChild p c)).WellLinked := by
  cases c with
  | none => exact hf
  | some c =>
    rw [Call.leave, hf.run_removeChild]
    by_cases hc : f.parent c = some p
    · rw [if_pos hc]
      exact hf.detached c
    · rw [if_neg hc]
      exact hf

/-- Links agree after a call if they agreed before. -/
theorem after_call {a : Call} (ha : a.Fits f) : (a.after f).WellLinked := by
  cases a with
  | create content owner =>
    cases content with
    | error e => exact hf
    | ok content => exact hf.add content owner
  | append p c => exact hf.leave_append ha.1 ha.2
  | insert p c r => exact hf.leave_insert ha.1 ha.2.1
  | remove p c => exact hf.leave_remove c

end WellLinked

/-- Links agree after a run of calls if they agreed before. -/
theorem WellLinked.after_run (hf : f.WellLinked) {as : List Call} (has : Call.FitAll f as) :
    (Call.run f as).WellLinked := by
  induction as generalizing f with
  | nil => exact hf
  | cons a rest ih => exact ih (hf.after_call has.1) has.2

/-- Links agree in every reachable forest. -/
theorem Reachable.wellLinked (h : f.Reachable) : f.WellLinked := by
  obtain ⟨as, has, rfl⟩ := h
  exact wellLinked_empty.after_run has

/-! ### Reachable forests are ordered forests -/

/-- **The links of a reachable forest describe an ordered forest.** A node is listed by its parent,
once, and by nobody else; its siblings are its neighbours in that list; without parent it has none;
and no node lies above itself. -/
theorem ordered_of_reachable (h : f.Reachable) :
    (∀ p c, c ∈ f.children p ↔ f.parent c = some p) ∧
      (∀ p, (f.children p).Nodup) ∧
      (∀ p i c, (f.children p)[i]? = some c →
        f.previous c = (if i = 0 then none else (f.children p)[i - 1]?) ∧
          f.next c = (f.children p)[i + 1]?) ∧
      (∀ c, f.parent c = none → f.previous c = none ∧ f.next c = none) ∧
      ∀ a, ¬ Relation.TransGen f.IsParent a a := by
  have hf := h.wellLinked
  refine ⟨fun _ _ ↦ hf.mem_children_iff, hf.nodup_children, fun p i c hc ↦ ?_, fun c hc ↦ ?_,
    hf.not_transGen_self⟩
  · exact ⟨hf.previous_eq hc, hf.next_eq hc⟩
  · exact ⟨hf.previous_eq_none hc, hf.next_eq_none hc⟩

/-- A run of calls with moves inside one list, moves to another and calls that fail. -/
def sampleCalls : List Call :=
  [.create (.ok (.document [])) none, .create (.ok (.element "a" .empty)) (some 0),
    .create (.ok (.element "b" .empty)) none, .create (.ok (.text "t")) none,
    .append 0 (some 1), .append 0 (some 2), .append 1 (some 3), .append 0 (some 3),
    .append 0 (some 1), .append 1 (some 0), .insert 0 (some 1) (some 2), .remove 2 (some 3),
    .insert 0 none (some 3)]

/-- After the sample calls the second and third children of the document are neighbours. -/
theorem ordered_sample :
    (Call.run .empty sampleCalls).Reachable ∧
      (Call.run .empty sampleCalls).children 0 = [1, 2, 3] ∧
      (Call.run .empty sampleCalls).previous 2 = some 1 ∧
      (Call.run .empty sampleCalls).next 2 = some 3 ∧
      ¬ Relation.TransGen (Call.run .empty sampleCalls).IsParent 1 1 := by
  have hreach : (Call.run .empty sampleCalls).Reachable := ⟨sampleCalls, by decide, rfl⟩
  obtain ⟨-, -, hsiblings, -, hacyclic⟩ := ordered_of_reachable hreach
  obtain ⟨hprevious, hnext⟩ := hsiblings 0 1 2 (by decide)
  exact ⟨hreach, by decide, hprevious, hnext, hacyclic 1⟩

end Forest

end TreePath
