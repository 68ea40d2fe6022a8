import TreePath.Proofs.Forest.Detaching

/-!
# Putting a node among the children of another

`Forest.Attached f f' p c as bs` says that `f'` is `f` with the node `c`, which had no parent, put
among the children of `p`, after `as` and before `bs`; what happens to its owner is left open. If
the links of `f` agree and `c` does not lie above `p`, those of `f'` agree as well
(`Attached.wellLinked`). The two forests that an edit may come to, `Forest.attachedLast` and
`Forest.attachedBefore`, are of this kind.

A node is put in only once it has been taken out of wherever it was. By then the list of children
that it goes into may have changed, but the child it is put in front of is still there, and that is
all `attached_attachedBefore` needs.

The pieces of the list on both sides of the node are parameters of the relation, and not the place
at which the node is put in. So it need not be said how the place is computed, and both edits fit
it: one in which there is nothing after the node, and one in which the reference begins what comes
after. The new children stand in a row, since each piece stood in one and its outer link on the side
of the node was changed to the node (`Row.change_after`, `Row.change_before`).
-/

namespace TreePath

namespace Forest

variable {f f' : Forest}

/-- The second forest is the first with a node, which had no parent, put among the children of
another, after some and before the rest. -/
structure Attached (f f' : Forest) (p c : NodeId) (as bs : List NodeId) : Prop where
  /-- The children there were. -/
  children_before : f.children p = as ++ bs
  /-- No node is made or lost. -/
  size_eq : f'.size = f.size
  /-- Every node is what it was. -/
  content_eq : ∀ j, f'.content j = f.content j
  /-- Only the node itself may get an owner. -/
  owner_eq : ∀ j, j ≠ c → f'.owner j = f.owner j
  /-- Only the node itself gets a parent. -/
  parent_eq : ∀ j, f'.parent j = if j = c then some p else f.parent j
  /-- Only the new parent gets a child. -/
  children_eq : ∀ j, f'.children j = if j = p then as ++ c :: bs else f.children j
  /-- The first of the rest gets the node before it. -/
  previous_eq : ∀ j, f'.previous j =
    if j = c then as.getLast? else if bs.head? = some j then some c else f.previous j
  /-- The last of the others gets the node after it. -/
  next_eq : ∀ j, f'.next j =
    if j = c then bs.head? else if as.getLast? = some j then some c else f.next j

/-! ### The links agree again -/

namespace Attached

variable {p c : NodeId} {as bs : List NodeId} (h : Attached f f' p c as bs)

include h

/-- The siblings of a node with another parent, or none, stay. -/
theorem siblings_eq {d : NodeId} (hd : d ≠ c) (hmem : d ∉ f.children p) :
    f'.previous d = f.previous d ∧ f'.next d = f.next d := by
  rw [h.children_before, List.mem_append, not_or] at hmem
  constructor
  · rw [h.previous_eq, if_neg hd, if_neg fun heq ↦ hmem.2 (List.mem_of_head? heq)]
  · rw [h.next_eq, if_neg hd, if_neg fun heq ↦ hmem.1 (List.mem_of_getLast? heq)]

/-- The node stands in a row with the children on either side. -/
theorem row (hf : f.WellLinked) (hc : f.parent c = none) : f'.Row none (as ++ c :: bs) none := by
  have hne : ∀ d ∈ f.children p, d ≠ c := by
    rintro d hd rfl
    exact hf.not_mem_children hc p hd
  have hnodup := hf.nodup_children p
  have hrow := hf.row p
  rw [h.children_before] at hne hnodup hrow
  obtain ⟨has, hbs, hdisjoint⟩ := List.nodup_append.1 hnodup
  obtain ⟨hleft, hright⟩ := row_append.1 hrow
  refine row_append.2 ⟨?_, ?_, ?_, ?_⟩
  · refine hleft.change_after has (fun d hd ↦ ?_) (fun d hd ↦ ?_)
    · have hhead : bs.head? ≠ some d := fun heq ↦ hdisjoint d hd d (List.mem_of_head? heq) rfl
      rw [h.previous_eq, if_neg (hne d (List.mem_append_left _ hd)), if_neg hhead]
    · rw [h.next_eq, if_neg (hne d (List.mem_append_left _ hd))]
      rfl
  · rw [h.previous_eq, if_pos rfl, Option.or_none]
  · rw [h.next_eq, if_pos rfl, Option.or_none]
  · refine hright.change_before hbs (fun d hd ↦ ?_) (fun d hd ↦ ?_)
    · rw [h.previous_eq, if_neg (hne d (List.mem_append_right _ hd))]
    · have hlast : as.getLast? ≠ some d := fun heq ↦ hdisjoint d (List.mem_of_getLast? heq) d hd rfl
      rw [h.next_eq, if_neg (hne d (List.mem_append_right _ hd)), if_neg hlast]

/-- Heights for the new links: what does not hang below the node is lifted above it. -/
theorem acyclic (hf : f.WellLinked) (hp : ¬ f.IsAbove c p) :
    ∃ height : NodeId → Nat, ∀ {q d : NodeId}, f'.parent d = some q → height d < height q := by
  classical
  obtain ⟨height, hheight⟩ := hf.acyclic
  refine ⟨fun j ↦ if f.IsAbove c j then height j else height j + height c + 1, fun {q d} hd ↦ ?_⟩
  rw [h.parent_eq] at hd
  by_cases hdc : d = c
  · subst hdc
    obtain rfl : p = q := by simpa using hd
    simp only [if_neg hp, if_pos (IsAbove.refl d)]
    omega
  · rw [if_neg hdc] at hd
    have hlt := hheight hd
    -- an old link never crosses from below the node to outside
    have hiff : f.IsAbove c d ↔ f.IsAbove c q := by
      refine ⟨fun hcd ↦ ?_, fun hcq ↦ hcq.trans (IsAbove.of_parent hd)⟩
      rcases hcd.eq_or_parent with heq | ⟨x, hx, hcx⟩
      · exact absurd heq.symm hdc
      · obtain rfl : q = x := Option.some.inj (hd.symm.trans hx)
        exact hcx
    by_cases hcq : f.IsAbove c q
    · simpa only [hiff, if_pos hcq] using hlt
    · simp only [hiff, if_neg hcq]
      omega

/-- A node without a parent that is put where it does not lie above itself leaves the links in
agreement. -/
theorem wellLinked (hf : f.WellLinked) (hc : f.parent c = none) (hcsize : c < f.size)
    (hp : ¬ f.IsAbove c p) : f'.WellLinked := by
  have hnot := hf.not_mem_children hc
  have hmem : ∀ {q d : NodeId}, d ∈ f'.children q ↔ d = c ∧ q = p ∨ d ∈ f.children q := by
    intro q d
    rw [h.children_eq]
    by_cases hq : q = p
    · rw [if_pos hq, hq, h.children_before]
      simp only [List.mem_append, List.mem_cons, and_true]
      tauto
    · simp [hq]
  refine wellLinked_of_row ?_ ?_ ?_ ?_ ?_ (h.acyclic hf hp)
  · intro q d hd
    rw [h.size_eq]
    rcases hmem.1 hd with ⟨rfl, -⟩ | hd
    · exact hcsize
    · exact hf.child_lt_size hd
  · intro q d
    rw [hmem, h.parent_eq]
    by_cases hdc : d = c
    · subst hdc
      simp [hnot q, eq_comm]
    · simp [hdc, hf.mem_children_iff]
  · intro q
    rw [h.children_eq]
    by_cases hq : q = p
    · have hnodup := hf.nodup_children p
      have hcp := hnot p
      rw [h.children_before] at hnodup hcp
      rw [if_pos hq]
      exact List.nodup_middle.2 (List.nodup_cons.2 ⟨hcp, hnodup⟩)
    · rw [if_neg hq]
      exact hf.nodup_children q
  · intro q
    rw [h.children_eq]
    by_cases hq : q = p
    · rw [if_pos hq]
      exact h.row hf hc
    · rw [if_neg hq]
      have hsame : ∀ d ∈ f.children q, f'.previous d = f.previous d ∧ f'.next d = f.next d := by
        intro d hd
        have hdc : d ≠ c := by
          rintro rfl
          exact hnot q hd
        exact h.siblings_eq hdc fun hdp ↦ hq (hf.parent_unique hd hdp)
      exact (hf.row q).congr (fun d hd ↦ (hsame d hd).1) (fun d hd ↦ (hsame d hd).2)
  · intro d hd
    rw [h.parent_eq] at hd
    by_cases hdc : d = c
    · rw [if_pos hdc] at hd
      cases hd
    · rw [if_neg hdc] at hd
      obtain ⟨hprevious, hnext⟩ := h.siblings_eq hdc (hf.not_mem_children hd p)
      rw [hprevious, hnext]
      exact ⟨hf.previous_eq_none hd, hf.next_eq_none hd⟩

end Attached

/-! ### The forests that edits come to -/

/-- A forest with a node put after the last child of another, and given to its document. -/
def attachedLast (f : Forest) (p c : NodeId) : Forest :=
  (f.linkLast p c).adopt c (f.owner p)

/-- A forest with a node put before a child of another. -/
def attachedBefore (f : Forest) (p c r : NodeId) : Forest :=
  ((f.setParent c (some p)).linkBefore c r).setChildren p
    ((f.children p).insertIdx ((f.children p).idxOf r) c)

@[simp] theorem size_linkLast (f : Forest) (p c : NodeId) : (f.linkLast p c).size = f.size := by
  rw [linkLast]
  split <;> simp

/-- To insert at the place of an item is to insert before it. -/
theorem insertIdx_idxOf {as bs : List NodeId} {r : NodeId} (c : NodeId) (h : r ∉ as) :
    (as ++ r :: bs).insertIdx ((as ++ r :: bs).idxOf r) c = as ++ c :: r :: bs := by
  induction as with
  | nil => simp
  | cons a as ih =>
    rw [List.mem_cons, not_or] at h
    rw [List.cons_append, List.idxOf_cons_ne _ (Ne.symm h.1), List.insertIdx_succ_cons, ih h.2]
    rfl

section Links

variable (hf : f.WellLinked) {p c r : NodeId} (hc : f.parent c = none) (hcsize : c < f.size)

include hf hc hcsize

/-- The links that change when a node is put after the last child. -/
theorem node_linkLast (hp : p < f.size) (j : NodeId) :
    (f.linkLast p c).node j =
      { f.node j with
        parent := if j = c then some p else f.parent j
        children := if j = p then f.children p ++ [c] else f.children j
        previous := if j = c then (f.children p).getLast? else f.previous j
        next := if (f.children p).getLast? = some j then some c else f.next j } := by
  have hnode (j : NodeId) := node_setParent hcsize (some p) j
  have hprevious : (if j = c then none else f.previous j) = f.previous j := by
    split
    · next heq => rw [heq, hf.previous_eq_none hc]
    · rfl
  rw [linkLast]
  dsimp only
  rw [children_setParent]
  cases hlast : (f.children p).getLast? with
  | none =>
    dsimp only
    rw [node_setChildren (by simpa using hp), children_setParent, children_setParent, hnode,
      hprevious]
    rfl
  | some last =>
    have hlt : last < f.size := hf.child_lt_size (List.mem_of_getLast? hlast)
    have hjoin := node_join (f := f.setParent c (some p)) (a := some last) (b := some c)
      (by simpa using hlt) (by simpa using hcsize)
    dsimp only
    rw [node_setChildren (by simpa using hp), children_join, children_join, children_setParent,
      children_setParent, hjoin, hnode]
    simp only [previous, next, hnode, Option.some.injEq, eq_comm (a := c)]

/-- The same after the whole edit, in which the new parent hands over its owner. -/
theorem node_attachedLast (hp : p < f.size) (j : NodeId) :
    (f.attachedLast p c).node j =
      { f.node j with
        owner := if j = c then (f.owner j).or (f.owner p) else f.owner j
        parent := if j = c then some p else f.parent j
        children := if j = p then f.children p ++ [c] else f.children j
        previous := if j = c then (f.children p).getLast? else f.previous j
        next := if (f.children p).getLast? = some j then some c else f.next j } := by
  rw [attachedLast, node_adopt (by simpa using hcsize), owner, node_linkLast hf hc hcsize hp]
  rfl

/-- Putting a node last puts it after all the children there are. -/
theorem attached_attachedLast (hp : p < f.size) :
    Attached f (f.attachedLast p c) p c (f.children p) [] := by
  have hnode := node_attachedLast hf hc hcsize hp
  refine ⟨(List.append_nil _).symm, ?_, ?_, ?_, ?_, ?_, ?_, ?_⟩
  · rw [attachedLast, size_adopt, size_linkLast]
  · exact fun j ↦ by rw [content, hnode]; rfl
  · exact fun j hj ↦ by rw [owner, hnode]; exact if_neg hj
  · exact fun j ↦ by rw [parent, hnode]
  · exact fun j ↦ by rw [children, hnode]
  · exact fun j ↦ by rw [previous, hnode]; rfl
  · intro j
    have hnext : (f.attachedLast p c).next j =
        if (f.children p).getLast? = some j then some c else f.next j := by rw [next, hnode]
    rw [hnext]
    by_cases hj : j = c
    · subst hj
      have hlast : (f.children p).getLast? ≠ some j := fun heq ↦
        hf.not_mem_children hc p (List.mem_of_getLast? heq)
      rw [if_neg hlast, if_pos rfl, hf.next_eq_none hc]
      rfl
    · rw [if_neg hj]

/-- The node itself is given to the document of its new parent unless it belongs to one. -/
theorem owner_attachedLast (hp : p < f.size) :
    (f.attachedLast p c).owner c = (f.owner c).or (f.owner p) := by
  rw [owner, node_attachedLast hf hc hcsize hp]
  exact if_pos rfl

variable {as bs : List NodeId} (hsplit : f.children p = as ++ r :: bs)

include hsplit

omit hc in
/-- The links that change when a node is put before a reference. -/
theorem node_attachedBefore (j : NodeId) :
    (f.attachedBefore p c r).node j =
      { f.node j with
        parent := if j = c then some p else f.parent j
        children := if j = p then as ++ c :: r :: bs else f.children j
        previous := if j = c then as.getLast? else if j = r then some c else f.previous j
        next := if as.getLast? = some j then some c else if j = c then some r else f.next j } := by
  have hmem : r ∈ f.children p := by simp [hsplit]
  have hp : p < f.size := lt_size_of_mem_children hmem
  have hr : r < f.size := hf.child_lt_size hmem
  obtain ⟨hprevious, -⟩ := hf.siblings_eq hsplit
  have hlast : ∀ k ∈ as.getLast?, k < f.size := fun k hk ↦ by
    refine hf.child_lt_size (p := p) ?_
    rw [hsplit]
    exact List.mem_append_left _ (List.mem_of_getLast? hk)
  have hnotmem : r ∉ as := by
    have hnodup := hf.nodup_children p
    rw [hsplit, List.nodup_append] at hnodup
    exact fun h ↦ hnodup.2.2 r h r List.mem_cons_self rfl
  -- the links are set one after the other, each in the forest that the last one left
  set g := f.setParent c (some p) with hg
  have hnode (j : NodeId) : g.node j = _ := node_setParent hcsize (some p) j
  have hbefore : g.previous r = as.getLast? := by
    rw [previous, hnode]
    exact hprevious
  have hjoin := node_join (f := g) (a := some c) (b := some r) (by simpa [hg] using hcsize)
    (by simpa [hg] using hr) j
  have hset := node_setPrevious (f := g.join (some c) (some r)) (i := some c)
    (by simpa [hg] using hcsize) as.getLast? j
  have hlink := node_setNext (f := (g.join (some c) (some r)).setPrevious (some c) as.getLast?)
    (i := as.getLast?) (by simpa [hg] using hlast) (some c) j
  rw [attachedBefore, ← hg, linkBefore, hbefore, hsplit, insertIdx_idxOf c hnotmem]
  dsimp only
  rw [node_setChildren (by simpa [hg] using hp)]
  simp only [parent, previous, next, children] at hnode hjoin hset hlink ⊢
  rw [hlink, hset, hjoin, hnode]
  simp only [Option.some.injEq, eq_comm (b := j)]

/-- Putting a node before a child puts it between the children before that one and the child. -/
theorem attached_attachedBefore : Attached f (f.attachedBefore p c r) p c as (r :: bs) := by
  have hnode := node_attachedBefore hf hcsize hsplit
  refine ⟨hsplit, ?_, ?_, ?_, ?_, ?_, ?_, ?_⟩
  · rw [attachedBefore, size_setChildren, linkBefore]
    simp
  · exact fun j ↦ by rw [content, hnode]; rfl
  · exact fun j _ ↦ by rw [owner, hnode]; rfl
  · exact fun j ↦ by rw [parent, hnode]
  · exact fun j ↦ by rw [children, hnode]
  · intro j
    rw [previous, hnode]
    simp [eq_comm (a := r), previous]
  · intro j
    have hnext : (f.attachedBefore p c r).next j =
        if as.getLast? = some j then some c else if j = c then some r else f.next j := by
      rw [next, hnode]
    rw [hnext]
    by_cases hj : j = c
    · subst hj
      have hlast : as.getLast? ≠ some j := fun heq ↦ by
        refine hf.not_mem_children hc p ?_
        rw [hsplit]
        exact List.mem_append_left _ (List.mem_of_getLast? heq)
      rw [if_neg hlast, if_pos rfl, if_pos rfl]
      rfl
    · rw [if_neg hj, if_neg hj]

omit hc in
/-- Putting a node before a child gives it to nobody. -/
theorem owner_attachedBefore (j : NodeId) : (f.attachedBefore p c r).owner j = f.owner j := by
  rw [owner, node_attachedBefore hf hcsize hsplit]
  rfl

end Links

end Forest

end TreePath
