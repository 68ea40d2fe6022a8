import TreePath.Proofs.Forest.Reachable

/-!
# Moves as operations on lists

Seen from outside, an edit that succeeds takes a node out of the list of its parent's children, if
it has one, and puts it into another list or nowhere. `Forest.Moved f f' c dest` says that this is
all that happened on the way from `f` to `f'`: no other list changed, nobody else's parent did, the
tree below the node is the same, and at most the node itself got an owner. What the list at the
destination looks like is said beside it, for each edit (`moved_append`, `moved_insert`,
`moved_remove`).

Every forest that an edit comes to is reached by taking the node out (`moved_detached`) and, unless
it was to be removed, putting it in (`Moved.of_attached`).

The fields of `Moved` are the frame: everything that an edit leaves alone, each kind of link by
itself. They are stated for any two forests and not for an edit, since a frame that is common to all
three edits can be used by whoever does not care which one it was. In `edits_are_list_operations`
each edit is given by its frame and by the list at the destination, from which the node is erased
first in case it moves within one list.
-/

namespace TreePath

namespace Forest

variable {f f' : Forest}

/-- All that happened between two forests is that a node was put below another, or nowhere. -/
structure Moved (f f' : Forest) (c : NodeId) (dest : Option NodeId) : Prop where
  /-- No node is made or lost. -/
  size_eq : f'.size = f.size
  /-- Every node is still listed by its parent, once, and by nobody else. -/
  wellLinked : f'.WellLinked
  /-- Every node is what it was. -/
  content_eq : ∀ j, f'.content j = f.content j
  /-- The node hangs where it was put. -/
  parent_self : f'.parent c = dest
  /-- Every other node hangs where it did. -/
  parent_of_ne : ∀ j, j ≠ c → f'.parent j = f.parent j
  /-- Another parent that the node had before loses it, and nothing else. -/
  children_former : ∀ q, f.parent c = some q → dest ≠ some q →
    f'.children q = (f.children q).erase c
  /-- All other lists of children stay. -/
  children_other : ∀ q, f.parent c ≠ some q → dest ≠ some q → f'.children q = f.children q
  /-- The tree below the node is the same. -/
  subtree_eq : f'.subtree c = f.subtree c
  /-- Every other node belongs to whom it did. -/
  owner_of_ne : ∀ j, j ≠ c → f'.owner j = f.owner j
  /-- The node belongs to whom it did, or to nobody before and to its new parent's owner now. -/
  owner_self : f'.owner c = f.owner c ∨
    f.owner c = none ∧ ∃ p, dest = some p ∧ f'.owner c = f.owner p

/-! ### The tree below a node -/

/-- What lies below a node looks the same in a forest that has the same children there. -/
theorem subtreeUpTo_congr {c : NodeId} {fuel : Nat}
    (h : ∀ j, f.IsAbove c j → f'.children j = f.children j)
    (hparent : ∀ {p d : NodeId}, d ∈ f.children p → f.parent d = some p) :
    ∀ {j : NodeId}, f.IsAbove c j → f'.subtreeUpTo fuel j = f.subtreeUpTo fuel j := by
  induction fuel with
  | zero => intro j _; rfl
  | succ fuel ih =>
    intro j hj
    rw [subtreeUpTo, subtreeUpTo, h j hj]
    refine congrArg (Tree.node j) (List.map_congr_left fun d hd ↦ ih ?_)
    exact hj.trans (IsAbove.of_parent (hparent hd))

/-- The tree below a node is made of the lists of children below it. -/
theorem WellLinked.subtree_congr (hf : f.WellLinked) {c : NodeId} (hsize : f'.size = f.size)
    (h : ∀ j, f.IsAbove c j → f'.children j = f.children j) : f'.subtree c = f.subtree c := by
  rw [subtree, subtree, hsize]
  exact subtreeUpTo_congr h (fun hd ↦ hf.mem_children_iff.1 hd) (IsAbove.refl c)

/-! ### What the edits come to -/

section Moves

variable (hf : f.WellLinked) {p c : NodeId}

include hf

/-- Taking a node out changes no list below it. -/
theorem children_detached_below {j : NodeId} (h : f.IsAbove c j) :
    (f.detached c).children j = f.children j := by
  rw [hf.children_detached]
  refine List.erase_of_not_mem fun hmem ↦ ?_
  exact hf.not_isAbove_parent (hf.mem_children_iff.1 hmem) h

/-- A node that is detached was moved to no parent. -/
theorem moved_detached (c : NodeId) : Moved f (f.detached c) c none where
  size_eq := size_detached f c
  wellLinked := hf.detached c
  content_eq := hf.content_detached c
  parent_self := hf.parent_detached_self c
  parent_of_ne j hj := by rw [hf.parent_detached, if_neg hj]
  children_former q _ _ := hf.children_detached c q
  children_other q hq _ := by
    rw [hf.children_detached]
    exact List.erase_of_not_mem fun hmem ↦ hq (hf.mem_children_iff.1 hmem)
  subtree_eq := hf.subtree_congr (size_detached f c) fun _ ↦ children_detached_below hf
  owner_of_ne j _ := hf.owner_detached c j
  owner_self := Or.inl (hf.owner_detached c c)

/-- A node that is detached and then attached was moved to its new parent. -/
theorem Moved.of_attached {as bs : List NodeId} (hc : c < f.size)
    (hp : f.contains c (some p) = false) (h : Attached (f.detached c) f' p c as bs)
    (howner : f'.owner c = f.owner c ∨ f.owner c = none ∧ f'.owner c = f.owner p) :
    Moved f f' c (some p) where
  size_eq := by rw [h.size_eq, size_detached]
  wellLinked := hf.of_attached hc hp h
  content_eq j := by rw [h.content_eq, hf.content_detached]
  parent_self := by rw [h.parent_eq, if_pos rfl]
  parent_of_ne j hj := by rw [h.parent_eq, if_neg hj, hf.parent_detached, if_neg hj]
  children_former q _ hq := by
    rw [h.children_eq, if_neg fun heq ↦ hq (congrArg some heq.symm), hf.children_detached]
  children_other q hcq hq := by
    rw [h.children_eq, if_neg fun heq ↦ hq (congrArg some heq.symm), hf.children_detached]
    exact List.erase_of_not_mem fun hmem ↦ hcq (hf.mem_children_iff.1 hmem)
  subtree_eq := by
    refine hf.subtree_congr (by rw [h.size_eq, size_detached]) fun j hj ↦ ?_
    have hne : j ≠ p := by
      rintro rfl
      exact hf.contains_eq_false_iff.1 hp hj
    rw [h.children_eq, if_neg hne, children_detached_below hf hj]
  owner_of_ne j hj := by rw [h.owner_eq j hj, hf.owner_detached]
  owner_self := by
    rcases howner with hsame | ⟨hnone, hgiven⟩
    · exact Or.inl hsame
    · exact Or.inr ⟨hnone, p, rfl, hgiven⟩

/-! ### What each edit that succeeds did -/

/-- Appending puts a node after the children that are left without it. -/
theorem moved_append (hp : p < f.size) (hc : c < f.size) {x : NodeId}
    (hrun : (appendChild p (some c)).run f = .ok x f') :
    f'.children p = (f.children p).erase c ++ [c] ∧ Moved f f' c (some p) := by
  rw [hf.run_appendChild] at hrun
  cases hcp : f.contains c (some p) with
  | true => simp [hcp] at hrun
  | false =>
    obtain ⟨rfl, rfl⟩ : c = x ∧ (f.detached c).attachedLast p c = f' := by simpa [hcp] using hrun
    have hattached := hf.attached_append hp hc
    have howner := hf.owner_append hp hc
    refine ⟨by rw [hattached.children_eq, if_pos rfl], .of_attached hf hc hcp hattached ?_⟩
    cases hown : f.owner c with
    | none => exact Or.inr ⟨rfl, by rw [howner, hown, Option.none_or]⟩
    | some d => exact Or.inl (by rw [howner, hown, Option.some_or])

/-- Inserting puts a node right before the reference, among the children that are left without
it. -/
theorem moved_insert (hc : c < f.size) {r x : NodeId} (hr : r ∈ f.children p) (hne : c ≠ r)
    (hrun : (insertBefore p (some c) (some r)).run f = .ok x f') :
    (∃ as bs, (f.children p).erase c = as ++ r :: bs ∧ f'.children p = as ++ c :: r :: bs) ∧
      Moved f f' c (some p) := by
  have hparent := hf.mem_children_iff.1 hr
  rw [hf.run_insertBefore] at hrun
  cases hcp : f.contains c (some p) with
  | true => simp [hcp, hparent, hne] at hrun
  | false =>
    obtain ⟨rfl, rfl⟩ : c = x ∧ (f.detached c).attachedBefore p c r = f' := by
      simpa [hcp, hparent, hne] using hrun
    obtain ⟨as, bs, hsplit, hattached, howner⟩ := hf.attached_insert hc hparent hne
    refine ⟨⟨as, bs, hsplit, ?_⟩, .of_attached hf hc hcp hattached (Or.inl howner)⟩
    rw [hattached.children_eq, if_pos rfl]

/-- Inserting a child before itself changes nothing. -/
theorem eq_of_insert_self {x : NodeId} (hmem : c ∈ f.children p)
    (hrun : (insertBefore p (some c) (some c)).run f = .ok x f') : f' = f := by
  rw [hf.run_insertBefore] at hrun
  have hrun' : c = x ∧ f = f' := by simpa [hf.mem_children_iff.1 hmem] using hrun
  exact hrun'.2.symm

/-- Removing takes a node out of the list of children. -/
theorem moved_remove {x : NodeId} (hrun : (removeChild p (some c)).run f = .ok x f') :
    f'.children p = (f.children p).erase c ∧ Moved f f' c none := by
  rw [hf.run_removeChild] at hrun
  by_cases hparent : f.parent c = some p
  · obtain ⟨rfl, rfl⟩ : c = x ∧ f.detached c = f' := by simpa [hparent] using hrun
    exact ⟨hf.children_detached c p, moved_detached hf c⟩
  · simp [hparent] at hrun

end Moves

/-! ### Edits are list operations -/

/-- **Each edit of a reachable forest that succeeds is an operation on lists of children.** To
append puts the node after the children that are left without it, to insert puts it right before
the reference, to insert a node before itself changes nothing, and to remove takes it out of its
list. Nothing else changes (`Moved`). -/
theorem edits_are_list_operations (h : f.Reachable) {p c : NodeId} (hp : p < f.size)
    (hc : c < f.size) :
    (∀ x f', (appendChild p (some c)).run f = .ok x f' →
        f'.children p = (f.children p).erase c ++ [c] ∧ Moved f f' c (some p)) ∧
      (∀ r x f', r ∈ f.children p → c ≠ r →
        (insertBefore p (some c) (some r)).run f = .ok x f' →
          (∃ as bs, (f.children p).erase c = as ++ r :: bs ∧ f'.children p = as ++ c :: r :: bs) ∧
            Moved f f' c (some p)) ∧
      (∀ x f', c ∈ f.children p → (insertBefore p (some c) (some c)).run f = .ok x f' → f' = f) ∧
      (∀ x f', (removeChild p (some c)).run f = .ok x f' →
        f'.children p = (f.children p).erase c ∧ Moved f f' c none) := by
  have hf := h.wellLinked
  refine ⟨fun x f' hrun ↦ ?_, fun r x f' hr hne hrun ↦ ?_, fun x f' hmem hrun ↦ ?_,
    fun x f' hrun ↦ ?_⟩
  · exact moved_append hf hp hc hrun
  · exact moved_insert hf hc hr hne hrun
  · exact eq_of_insert_self hf hmem hrun
  · exact moved_remove hf hrun

/-- The first of the three children of the document is put last, before the third, before itself
and nowhere. -/
theorem edits_sample :
    (Call.run .empty sampleCalls).Reachable ∧
      (∃ f', (appendChild 0 (some 1)).run (Call.run .empty sampleCalls) = .ok 1 f' ∧
        f'.children 0 = [2, 3, 1]) ∧
      (∃ f', (insertBefore 0 (some 1) (some 3)).run (Call.run .empty sampleCalls) = .ok 1 f' ∧
        Moved (Call.run .empty sampleCalls) f' 1 (some 0)) ∧
      (∃ f', (insertBefore 0 (some 1) (some 1)).run (Call.run .empty sampleCalls) = .ok 1 f' ∧
        f' = Call.run .empty sampleCalls) ∧
      ∃ f', (removeChild 0 (some 1)).run (Call.run .empty sampleCalls) = .ok 1 f' ∧
        f'.children 0 = [2, 3] := by
  have hreach : (Call.run .empty sampleCalls).Reachable := ⟨sampleCalls, by decide, rfl⟩
  have hf := hreach.wellLinked
  have hchildren : (Call.run .empty sampleCalls).children 0 = [1, 2, 3] := by decide
  have hparent : (Call.run .empty sampleCalls).parent 1 = some 0 := by decide
  have hparent' : (Call.run .empty sampleCalls).parent 3 = some 0 := by decide
  have hbelow : (Call.run .empty sampleCalls).contains 1 (some 0) = false := by decide
  obtain ⟨happend, hinsert, hself, hremove⟩ :=
    edits_are_list_operations hreach (show 0 < _ by decide) (show 1 < _ by decide)
  rw [hchildren] at happend hinsert hself hremove
  refine ⟨hreach, ?_, ?_, ?_, ?_⟩
  · have hrun := hf.run_appendChild 0 1
    rw [hbelow] at hrun
    exact ⟨_, hrun, (happend 1 _ hrun).1⟩
  · have hrun := hf.run_insertBefore 0 1 3
    rw [hbelow, hparent'] at hrun
    exact ⟨_, hrun, (hinsert 3 1 _ (by decide) (by decide) hrun).2⟩
  · have hrun := hf.run_insertBefore 0 1 1
    rw [hparent] at hrun
    exact ⟨_, hrun, hself 1 _ (by decide) hrun⟩
  · have hrun := hf.run_removeChild 0 1
    rw [hparent] at hrun
    exact ⟨_, hrun, (hremove 1 _ hrun).1⟩

end Forest

end TreePath
