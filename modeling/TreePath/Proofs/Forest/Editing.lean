import TreePath.Proofs.Forest.Attaching

/-!
# What an edit comes to

Each operation on a forest whose links agree is an equation: which checks it makes, in which order,
and which forest a call that passes them comes to (`run_appendChild`, `run_insertBefore`, and
`run_removeChild` of `TreePath.Proofs.Forest.Detaching`). A call that is refused leaves the forest
as it was, since everything after the checks succeeds: a node that is taken out first is listed by
its parent, and the child that it is put in front of is still there afterwards.

An edit takes the node out first and puts it in afterwards, but its checks look at the forest before
both. What they establish has to be carried over to the forest in between, in which the node hangs
nowhere. The lemmas at the beginning do this: a node that is not above the new parent is not above
it when it was taken out either, and a reference other than the node itself is still a child. With
them each operation is an equation by the equations of its parts.

What the lists are afterwards, and who owns the node, is said at the end, of the forests that the
equations name. Later proofs use that and do not look at the operations again.
-/

namespace TreePath

namespace Forest

variable {f : Forest}

namespace WellLinked

variable (hf : f.WellLinked) {p c r : NodeId}

include hf

/-- The place that a node may be put into: it has been taken out, and nothing above the new parent
came loose. -/
theorem not_isAbove_detached (hp : f.contains c (some p) = false) :
    ¬ (f.detached c).IsAbove c p :=
  fun h ↦ hf.contains_eq_false_iff.1 hp (hf.isAbove_of_detached h)

/-- A detached node has no parent. -/
theorem parent_detached_self (c : NodeId) : (f.detached c).parent c = none := by
  rw [hf.parent_detached, if_pos rfl]

/-- A node contains itself. -/
theorem ne_of_contains_eq_false (h : f.contains c (some p) = false) : c ≠ p := by
  rintro rfl
  exact hf.contains_eq_false_iff.1 h (IsAbove.refl c)

/-- Appending refuses a node that contains the new parent, and puts any other after all children. -/
theorem run_appendChild (p c : NodeId) :
    (appendChild p (some c)).run f =
      if f.contains c (some p) then .error .appendedIntoItself f
      else .ok c ((f.detached c).attachedLast p c) := by
  cases hp : f.contains c (some p) with
  | true => simp [appendChild, hp]
  | false =>
    have hne : c ≠ p := hf.ne_of_contains_eq_false hp
    simp [appendChild, hp, hne, hf.run_detach, attachedLast, -bind_pure_comp]

/-- Inserting before a child refuses a reference that is no child, does nothing if the node is the
reference itself, refuses a node that contains the new parent, and puts any other before the
reference. -/
theorem run_insertBefore (p c r : NodeId) :
    (insertBefore p (some c) (some r)).run f =
      if f.parent r ≠ some p then .error .referenceElsewhere f
      else if c = r then .ok c f
      else if f.contains c (some p) then .error .insertedIntoItself f
      else .ok c ((f.detached c).attachedBefore p c r) := by
  by_cases hr : f.parent r = some p
  · by_cases hcr : c = r
    · simp [insertBefore, hr, hcr]
    · cases hp : f.contains c (some p) with
      | true => simp [insertBefore, hr, hcr, hp]
      | false =>
        have hne : c ≠ p := hf.ne_of_contains_eq_false hp
        -- the reference is still a child after the node was taken out
        have hmem : r ∈ ((f.detached c).setParent c (some p)).children p := by
          rw [children_setParent, hf.children_detached, (hf.nodup_children p).mem_erase_iff]
          exact ⟨Ne.symm hcr, hf.mem_children_iff.2 hr⟩
        have hplace := run_placeOf hmem
        rw [children_setParent] at hplace
        simp [insertBefore, hr, hcr, hp, hne, hf.run_detach, hplace, attachedBefore,
          -bind_pure_comp]
  · simp [insertBefore, hr]

omit hf in
/-- Where nothing is handed over to be inserted, the reference is looked at first. -/
theorem run_insertBefore_none (p r : NodeId) :
    (insertBefore p none (some r)).run f =
      .error (if f.parent r ≠ some p then .referenceElsewhere else .missing "contains") f := by
  by_cases hr : f.parent r = some p
  · simp [insertBefore, hr]
    rfl
  · simp [insertBefore, hr]

/-! ### What a move puts where -/

/-- An appended node goes after the children that are left when it has been taken out. -/
theorem attached_append (hp : p < f.size) (hc : c < f.size) :
    Attached (f.detached c) ((f.detached c).attachedLast p c) p c ((f.children p).erase c) [] := by
  rw [← hf.children_detached]
  exact attached_attachedLast (hf.detached c) (hf.parent_detached_self c) (by simpa using hc)
    (by simpa using hp)

/-- An appended node is given to the document its new parent belongs to, unless it belongs to
one. -/
theorem owner_append (hp : p < f.size) (hc : c < f.size) :
    ((f.detached c).attachedLast p c).owner c = (f.owner c).or (f.owner p) := by
  rw [owner_attachedLast (hf.detached c) (hf.parent_detached_self c) (by simpa using hc)
    (by simpa using hp), hf.owner_detached, hf.owner_detached]

/-- An inserted node goes right before the reference, among the children that are left when it has
been taken out, and is given to nobody. -/
theorem attached_insert (hc : c < f.size) (hr : f.parent r = some p) (hne : c ≠ r) :
    ∃ as bs, (f.children p).erase c = as ++ r :: bs ∧
      Attached (f.detached c) ((f.detached c).attachedBefore p c r) p c as (r :: bs) ∧
      ((f.detached c).attachedBefore p c r).owner c = f.owner c := by
  have hmem : r ∈ (f.children p).erase c :=
    (hf.nodup_children p).mem_erase_iff.2 ⟨hne.symm, hf.mem_children_iff.2 hr⟩
  obtain ⟨as, bs, hsplit⟩ := List.append_of_mem hmem
  have hsplit' : (f.detached c).children p = as ++ r :: bs := by
    rw [hf.children_detached, hsplit]
  have hcsize : c < (f.detached c).size := by rwa [size_detached]
  refine ⟨as, bs, hsplit, ?_, ?_⟩
  · exact attached_attachedBefore (hf.detached c) (hf.parent_detached_self c) hcsize hsplit'
  · rw [owner_attachedBefore (hf.detached c) hcsize hsplit', hf.owner_detached]

/-- Links agree after a move. -/
theorem of_attached {f' : Forest} {as bs : List NodeId} (hc : c < f.size)
    (hp : f.contains c (some p) = false) (h : Attached (f.detached c) f' p c as bs) :
    f'.WellLinked :=
  h.wellLinked (hf.detached c) (hf.parent_detached_self c) (by simpa using hc)
    (hf.not_isAbove_detached hp)

end WellLinked

end Forest

end TreePath
