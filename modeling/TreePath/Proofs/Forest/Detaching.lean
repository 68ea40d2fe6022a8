import TreePath.Forest.Edit
import TreePath.Proofs.Forest.Row

/-!
# Taking a node out of a forest

`Forest.detached` is the forest that taking a node out of its parent's children leaves behind. In a
forest whose links agree it can be told node by node what the new links are (`node_detached`): the
node is gone from every list of children, it has no parent and no siblings, and its former
neighbours are each other's. So the links agree again (`WellLinked.detached`).

The operations that take nodes out come to this forest and never fail on the way:
`Forest.detach` always (`run_detach`), `Forest.removeChild` if the node is a child
(`run_removeChild`).

The former neighbours are found by the links of the node itself, and its former place by looking it
up in a list. That both mean the same is the agreement of the links, and here it is used
(`previous_mem_children`, `next_mem_children`). Everything after `node_detached` is read off it, one
link at a time. The agreement of the new links is then a statement on rows: the row that the node
stood in is cut before and after it, and its two pieces get each other's ends for outer links.
-/

namespace TreePath

/-- To take away links that are not there changes nothing. -/
theorem Node.with_links_none {n : Node} (hparent : n.parent = none) (hprevious : n.previous = none)
    (hnext : n.next = none) : { n with parent := none, previous := none, next := none } = n := by
  cases n
  cases hparent
  cases hprevious
  cases hnext
  rfl

namespace Forest

variable {f : Forest}

/-- A forest with a node taken out of its parent's children. -/
def detached (f : Forest) (c : NodeId) : Forest :=
  match f.parent c with
  | none => f
  | some q =>
    ((f.join (f.previous c) (f.next c)).setChildren q ((f.children q).erase c)).release c

/-- A node without a parent is detached already. -/
theorem detached_of_parent_eq_none {c : NodeId} (h : f.parent c = none) : f.detached c = f := by
  rw [detached, h]

@[simp] theorem size_detached (f : Forest) (c : NodeId) : (f.detached c).size = f.size := by
  rw [detached]
  split
  · rfl
  · rw [size_release, size_setChildren, size_join]

namespace WellLinked

variable (hf : f.WellLinked)

include hf

/-- A node is a child of its parent only. -/
theorem not_mem_children_of_ne {p q c : NodeId} (h : f.parent c = some p) (hne : q ≠ p) :
    c ∉ f.children q := by
  intro hmem
  rw [hf.mem_children_iff, h] at hmem
  exact hne (Option.some.inj hmem).symm

/-- The children of a parent fall into those before a child, the child, and those after it. -/
theorem exists_children_eq {p c : NodeId} (h : f.parent c = some p) :
    ∃ as bs, f.children p = as ++ c :: bs ∧ f.previous c = as.getLast? ∧ f.next c = bs.head? := by
  obtain ⟨as, bs, hsplit⟩ := List.append_of_mem (hf.mem_children_iff.2 h)
  exact ⟨as, bs, hsplit, hf.siblings_eq hsplit⟩

/-- The sibling before a child is a child of the same parent. -/
theorem previous_mem_children {p c d : NodeId} (h : f.parent c = some p)
    (hd : f.previous c = some d) : d ∈ f.children p := by
  obtain ⟨as, bs, hsplit, hprevious, -⟩ := hf.exists_children_eq h
  rw [hprevious] at hd
  rw [hsplit]
  exact List.mem_append_left _ (List.mem_of_getLast? hd)

/-- The sibling after a child is a child of the same parent. -/
theorem next_mem_children {p c d : NodeId} (h : f.parent c = some p)
    (hd : f.next c = some d) : d ∈ f.children p := by
  obtain ⟨as, bs, hsplit, -, hnext⟩ := hf.exists_children_eq h
  rw [hnext] at hd
  rw [hsplit]
  exact List.mem_append_right _ (List.mem_cons_of_mem _ (List.mem_of_head? hd))

/-! ### The links after a node was taken out -/

/-- The links that change when a node is detached: its own, those to it, and those of its siblings
to each other. -/
theorem node_detached (c j : NodeId) :
    (f.detached c).node j =
      { f.node j with
        parent := if j = c then none else f.parent j
        children := (f.children j).erase c
        previous :=
          if j = c then none else if f.next c = some j then f.previous c else f.previous j
        next :=
          if j = c then none else if f.previous c = some j then f.next c else f.next j } := by
  cases hc : f.parent c with
  | none =>
    have hmem := hf.not_mem_children hc j
    have hprevious := hf.previous_eq_none hc
    have hnext := hf.next_eq_none hc
    rw [detached_of_parent_eq_none hc, List.erase_of_not_mem hmem, hprevious, hnext]
    by_cases hj : j = c
    · subst hj
      simp only [if_pos]
      exact (Node.with_links_none hc hprevious hnext).symm
    · simp only [if_neg hj]
      rfl
  | some q =>
    -- links can be set on nodes of the forest only
    have hc' : c < f.size := lt_size_of_parent hc
    have hq : q < f.size := hf.parent_lt_size hc
    have hprevious : ∀ k ∈ f.previous c, k < f.size := fun k hk ↦
      hf.child_lt_size (hf.previous_mem_children hc hk)
    have hnext : ∀ k ∈ f.next c, k < f.size := fun k hk ↦
      hf.child_lt_size (hf.next_mem_children hc hk)
    have hchildren : (if j = q then (f.children q).erase c else f.children j) =
        (f.children j).erase c := by
      split
      · next heq => rw [heq]
      · next hne => rw [List.erase_of_not_mem (hf.not_mem_children_of_ne hc hne)]
    have hjoin := node_join hprevious hnext j
    rw [detached, hc, ← hchildren]
    dsimp only
    set g := f.join (f.previous c) (f.next c) with hg
    have hset := node_setChildren (f := g) (by simpa [hg] using hq) ((f.children q).erase c) j
    rw [node_release (by simpa [hg] using hc')]
    simp only [parent, previous, next, children] at hset hjoin ⊢
    rw [hset, hjoin]

/-- No content changes. -/
theorem content_detached (c j : NodeId) : (f.detached c).content j = f.content j := by
  rw [content, hf.node_detached]
  rfl

/-- No owner changes. -/
theorem owner_detached (c j : NodeId) : (f.detached c).owner j = f.owner j := by
  rw [owner, hf.node_detached]
  rfl

/-- Of the parents, only that of the node changes. -/
theorem parent_detached (c j : NodeId) :
    (f.detached c).parent j = if j = c then none else f.parent j := by
  rw [parent, hf.node_detached]

/-- The node is no child any more. -/
theorem children_detached (c j : NodeId) :
    (f.detached c).children j = (f.children j).erase c := by
  rw [children, hf.node_detached]

/-- The sibling after it follows the one before it. -/
theorem previous_detached (c j : NodeId) :
    (f.detached c).previous j =
      if j = c then none else if f.next c = some j then f.previous c else f.previous j := by
  rw [previous, hf.node_detached]

/-- And the other way round. -/
theorem next_detached (c j : NodeId) :
    (f.detached c).next j =
      if j = c then none else if f.previous c = some j then f.next c else f.next j := by
  rw [next, hf.node_detached]

end WellLinked

/-! ### The links agree again -/

/-- The nodes around one that was taken out stand in a row. -/
theorem Row.detached (hf : f.WellLinked) {q c : NodeId} {as bs : List NodeId}
    (hsplit : f.children q = as ++ c :: bs) : (f.detached c).Row none (as ++ bs) none := by
  obtain ⟨hprevious, hnext⟩ := hf.siblings_eq hsplit
  have hnodup := hf.nodup_children q
  rw [hsplit, List.nodup_append] at hnodup
  obtain ⟨has, hcbs, hdisjoint⟩ := hnodup
  obtain ⟨hc, hbs⟩ := List.nodup_cons.1 hcbs
  have hne_as : ∀ d ∈ as, d ≠ c := fun d hd ↦ hdisjoint d hd c List.mem_cons_self
  have hne_bs : ∀ d ∈ bs, d ≠ c := fun d hd heq ↦ hc (heq ▸ hd)
  have hrow := hf.row q
  rw [hsplit, row_append] at hrow
  obtain ⟨hleft, -, -, hright⟩ := hrow
  rw [row_append, Option.or_none, Option.or_none]
  constructor
  · refine hleft.change_after has (fun d hd ↦ ?_) (fun d hd ↦ ?_)
    · have hhead : bs.head? ≠ some d := fun heq ↦
        hdisjoint d hd d (List.mem_cons_of_mem _ (List.mem_of_head? heq)) rfl
      rw [hf.previous_detached, if_neg (hne_as d hd), hnext, if_neg hhead]
    · rw [hf.next_detached, if_neg (hne_as d hd), hprevious, hnext]
  · refine hright.change_before hbs (fun d hd ↦ ?_) (fun d hd ↦ ?_)
    · rw [hf.previous_detached, if_neg (hne_bs d hd), hprevious, hnext]
    · have hlast : as.getLast? ≠ some d := fun heq ↦
        hdisjoint d (List.mem_of_getLast? heq) d (List.mem_cons_of_mem _ hd) rfl
      rw [hf.next_detached, if_neg (hne_bs d hd), hprevious, if_neg hlast]

/-- Only the node that is taken out and its former siblings get other siblings. -/
theorem WellLinked.siblings_detached (hf : f.WellLinked) {q c d : NodeId} (hc : f.parent c = some q)
    (hdc : d ≠ c) (hmem : d ∉ f.children q) :
    (f.detached c).previous d = f.previous d ∧ (f.detached c).next d = f.next d := by
  constructor
  · rw [hf.previous_detached, if_neg hdc, if_neg fun h ↦ hmem (hf.next_mem_children hc h)]
  · rw [hf.next_detached, if_neg hdc, if_neg fun h ↦ hmem (hf.previous_mem_children hc h)]

/-- To detach a node leaves the links in agreement. -/
theorem WellLinked.detached (hf : f.WellLinked) (c : NodeId) : (f.detached c).WellLinked := by
  cases hc : f.parent c with
  | none => rwa [detached_of_parent_eq_none hc]
  | some q =>
    refine wellLinked_of_row ?_ ?_ ?_ ?_ ?_ ?_
    · intro p d hd
      rw [hf.children_detached] at hd
      rw [size_detached]
      exact hf.child_lt_size (List.mem_of_mem_erase hd)
    · intro p d
      rw [hf.children_detached, hf.parent_detached, (hf.nodup_children p).mem_erase_iff,
        hf.mem_children_iff]
      by_cases hd : d = c <;> simp [hd]
    · intro p
      rw [hf.children_detached]
      exact (hf.nodup_children p).erase c
    · intro p
      rw [hf.children_detached]
      by_cases hp : p = q
      · obtain ⟨as, bs, hsplit, -⟩ := hf.exists_children_eq hc
        have hnodup := hf.nodup_children q
        have hmem : c ∉ as := by
          rw [hsplit, List.nodup_append] at hnodup
          exact fun hmem ↦ hnodup.2.2 c hmem c List.mem_cons_self rfl
        rw [hp, hsplit, List.erase_append_right _ hmem, List.erase_cons_head]
        exact Row.detached hf hsplit
      · have hnot : c ∉ f.children p := hf.not_mem_children_of_ne hc hp
        have hsame (d : NodeId) (hd : d ∈ f.children p) :=
          hf.siblings_detached hc (fun hdc ↦ hnot (hdc ▸ hd)) fun hdq ↦ hp (hf.parent_unique hd hdq)
        rw [List.erase_of_not_mem hnot]
        exact (hf.row p).congr (fun d hd ↦ (hsame d hd).1) (fun d hd ↦ (hsame d hd).2)
    · intro d hd
      by_cases hdc : d = c
      · rw [hf.previous_detached, hf.next_detached, if_pos hdc, if_pos hdc]
        exact ⟨rfl, rfl⟩
      · rw [hf.parent_detached, if_neg hdc] at hd
        obtain ⟨hprevious, hnext⟩ := hf.siblings_detached hc hdc (hf.not_mem_children hd q)
        rw [hprevious, hnext]
        exact ⟨hf.previous_eq_none hd, hf.next_eq_none hd⟩
    · obtain ⟨height, hheight⟩ := hf.acyclic
      refine ⟨height, fun {p d} hd ↦ hheight ?_⟩
      rw [hf.parent_detached] at hd
      by_cases hdc : d = c
      · rw [if_pos hdc] at hd
        cases hd
      · rwa [if_neg hdc] at hd

/-- Taking a node out puts nothing above anything else. -/
theorem WellLinked.isAbove_of_detached (hf : f.WellLinked) {a b c : NodeId}
    (h : (f.detached c).IsAbove a b) : f.IsAbove a b := by
  refine Relation.ReflTransGen.mono (fun x y hxy ↦ ?_) a b h
  rw [IsParent, hf.parent_detached] at hxy
  by_cases hy : y = c
  · rw [if_pos hy] at hxy
    cases hxy
  · rwa [if_neg hy] at hxy

/-! ### The operations come to this forest -/

/-- The place of a child is found. -/
theorem run_placeOf {p c : NodeId} (h : c ∈ f.children p) :
    (placeOf p c).run f = .ok ((f.children p).idxOf c) f := by
  have hfind : (f.children p).findIdx? (· == c) = some ((f.children p).idxOf c) :=
    List.findIdx?_eq_some_iff_findIdx_eq.2 ⟨List.idxOf_lt_length_iff.2 h, rfl⟩
  simp [placeOf, hfind]

/-- A removal takes a child out, and refuses anything else before it changes a link. -/
theorem WellLinked.run_removeChild (hf : f.WellLinked) (p c : NodeId) :
    (removeChild p (some c)).run f =
      if f.parent c = some p then .ok c (f.detached c) else .error .notAChild f := by
  by_cases hc : f.parent c = some p
  · have hmem : c ∈ (f.join (f.previous c) (f.next c)).children p := by
      rw [children_join]
      exact hf.mem_children_iff.2 hc
    have hplace := run_placeOf hmem
    rw [children_join] at hplace
    simp [removeChild, hc, hplace, Forest.detached, -bind_pure_comp]
  · simp [removeChild, hc]

/-- Taking a node out of wherever it is never fails. -/
theorem WellLinked.run_detach (hf : f.WellLinked) (c : NodeId) :
    (detach c).run f = .ok () (f.detached c) := by
  cases hc : f.parent c with
  | none => simp [detach, hc, detached_of_parent_eq_none]
  | some q =>
    simp [detach, hc, discard, map_const, map_eq_pure_bind, hf.run_removeChild, -bind_pure_comp]

end Forest

end TreePath
