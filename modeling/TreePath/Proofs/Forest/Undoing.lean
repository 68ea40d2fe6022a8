import TreePath.Proofs.Forest.Adopting
import TreePath.Proofs.Forest.Moving

/-!
# Undoing and repeating edits

Where the links of a forest agree, parents and siblings can be read off the lists of children. So
two such forests with the same lists have the same links (`WellLinked.sameLinks`), and whether an
edit comes back to links that there were before is a question about one list: a node is taken out of
it and put before the one that came next.

Everything is reduced to one case, a child that is put before its own next sibling
(`WellLinked.exists_insert_next`). To remove the child first makes no difference, since the edit
takes it out anyway (`WellLinked.run_edit_detached`); and once a node was put somewhere, to put it
there again is to put it before its next sibling (`WellLinked.placed_of_run_edit`).

An edit may fail, and so every statement that one can be undone has to say of two calls that they
succeed. The first is a hypothesis; that the second passes its checks follows from the first having
passed its own (`WellLinked.checked_of_run_edit`). Whom a node belongs to is not among the links. An
edit may give a node an owner, and to undo the edit does not take the owner away again.
-/

namespace TreePath

namespace Forest

variable {f f' : Forest}

/-- Every node has the same parent, children and siblings in both forests. -/
structure SameLinks (f f' : Forest) : Prop where
  /-- Every node hangs where it did. -/
  parent_eq : ∀ j, f'.parent j = f.parent j
  /-- Every list of children is the same. -/
  children_eq : ∀ j, f'.children j = f.children j
  /-- Every node has the sibling before it that it had. -/
  previous_eq : ∀ j, f'.previous j = f.previous j
  /-- Every node has the sibling after it that it had. -/
  next_eq : ∀ j, f'.next j = f.next j

namespace WellLinked

/-- Where links agree, the lists of children determine all of them. -/
theorem sameLinks (hf : f.WellLinked) (hf' : f'.WellLinked)
    (h : ∀ j, f'.children j = f.children j) : SameLinks f f' := by
  have hparent (j : NodeId) : f'.parent j = f.parent j := by
    refine Option.ext fun p ↦ ?_
    rw [← hf'.mem_children_iff, ← hf.mem_children_iff, h]
  have hsiblings (j : NodeId) : f'.previous j = f.previous j ∧ f'.next j = f.next j := by
    cases hp : f.parent j with
    | none =>
      have hp' : f'.parent j = none := by rw [hparent, hp]
      rw [hf.previous_eq_none hp, hf.next_eq_none hp, hf'.previous_eq_none hp',
        hf'.next_eq_none hp']
      exact ⟨rfl, rfl⟩
    | some p =>
      obtain ⟨as, bs, hsplit, hprevious, hnext⟩ := hf.exists_children_eq hp
      obtain ⟨hprevious', hnext'⟩ := hf'.siblings_eq ((h p).trans hsplit)
      rw [hprevious, hprevious', hnext, hnext']
      exact ⟨rfl, rfl⟩
  exact ⟨hparent, h, fun j ↦ (hsiblings j).1, fun j ↦ (hsiblings j).2⟩

/-! ### What an attachment comes to -/

variable (hf : f.WellLinked) {p c : NodeId} (hp : p < f.size) (hc : c < f.size)
  (hcp : f.contains c (some p) = false) (a : Attachment)
  (ha : ∀ r ∈ a.reference, f.parent r = some p ∧ c ≠ r)

include hf hp hc hcp ha

/-- A node that does not contain its new parent is put before the reference, or at the end if there
is none. -/
theorem exists_run_edit :
    ∃ f' as bs, (a.edit p c).run f = .ok c f' ∧ (f.children p).erase c = as ++ bs ∧
      bs.head? = a.reference ∧ Attached (f.detached c) f' p c as bs := by
  rw [a.edit_eq_insertBefore]
  cases hr : a.reference with
  | none =>
    have hrun : (insertBefore p (some c) none).run f = _ := hf.run_appendChild p c
    rw [hcp] at hrun
    exact ⟨_, _, [], hrun, (List.append_nil _).symm, rfl, hf.attached_append hp hc⟩
  | some r =>
    obtain ⟨hparent, hne⟩ := ha r hr
    have hrun := hf.run_insertBefore p c r
    rw [if_neg (not_not.2 hparent), if_neg hne, hcp] at hrun
    obtain ⟨as, bs, hsplit, hattached, -⟩ := hf.attached_insert hc hparent hne
    exact ⟨_, as, r :: bs, hrun, hsplit, rfl, hattached⟩

omit hp hc in
/-- It makes no difference to take the node out before. -/
theorem run_edit_detached : (a.edit p c).run (f.detached c) = (a.edit p c).run f := by
  have hdetached := hf.detached c
  have hout : (f.detached c).contains c (some p) = false :=
    hdetached.contains_eq_false_iff.2 (hf.not_isAbove_detached hcp)
  have htwice : (f.detached c).detached c = f.detached c :=
    detached_of_parent_eq_none (hf.parent_detached_self c)
  rw [a.edit_eq_insertBefore]
  cases hr : a.reference with
  | none =>
    have hrun : (insertBefore p (some c) none).run f = _ := hf.run_appendChild p c
    have hrun' : (insertBefore p (some c) none).run (f.detached c) = _ :=
      hdetached.run_appendChild p c
    rw [hrun, hrun', hcp, hout, htwice, if_neg Bool.false_ne_true, if_neg Bool.false_ne_true]
  | some r =>
    obtain ⟨hparent, hne⟩ := ha r hr
    have hparent' : (f.detached c).parent r = some p := by
      rw [hf.parent_detached, if_neg (Ne.symm hne), hparent]
    rw [hf.run_insertBefore, hdetached.run_insertBefore, if_neg (not_not.2 hparent),
      if_neg (not_not.2 hparent'), if_neg hne, if_neg hne, hcp, hout, htwice,
      if_neg Bool.false_ne_true, if_neg Bool.false_ne_true]

/-- The node that was put somewhere hangs below its new parent, followed by the reference. -/
theorem placed_of_run_edit {x : NodeId} (hrun : (a.edit p c).run f = .ok x f') :
    f'.WellLinked ∧ f'.parent c = some p ∧ f'.next c = a.reference := by
  obtain ⟨f₁, as, bs, hrun₁, -, hhead, hattached⟩ := hf.exists_run_edit hp hc hcp a ha
  obtain ⟨-, rfl⟩ : c = x ∧ f₁ = f' := by simpa using hrun₁.symm.trans hrun
  refine ⟨hf.of_attached hc hcp hattached, ?_, ?_⟩
  · rw [hattached.parent_eq, if_pos rfl]
  · rw [hattached.next_eq, if_pos rfl, hhead]

end WellLinked

/-! ### Back to the same place -/

/-- Where a list without repetitions is cut can be told from the item after the cut. -/
theorem eq_of_append_eq {α : Type} {as bs as' bs' : List α} (h : as ++ bs = as' ++ bs')
    (hnodup : (as ++ bs).Nodup) (hhead : bs.head? = bs'.head?) : as = as' ∧ bs = bs' := by
  cases bs with
  | nil =>
    obtain rfl : bs' = [] := List.head?_eq_none_iff.1 hhead.symm
    simpa using h
  | cons r bs =>
    obtain ⟨rest, rfl⟩ := List.head?_eq_some_iff.1 hhead.symm
    obtain ⟨-, hbs, hdisjoint⟩ := List.nodup_append.1 hnodup
    have has : r ∉ as := fun hr ↦ hdisjoint r hr r List.mem_cons_self rfl
    obtain ⟨rfl, -, rfl⟩ :=
      (List.append_cons_inj_of_notMem has (List.nodup_cons.1 hbs).1).1 h
    exact ⟨rfl, rfl⟩

/-- A child that is put before its own next sibling, or last if it has none, comes to where it
was, whether or not it is taken out before. -/
theorem WellLinked.exists_insert_next (hf : f.WellLinked) {p c : NodeId}
    (h : f.parent c = some p) :
    ∃ f', (insertBefore p (some c) (f.next c)).run f = .ok c f' ∧
      (insertBefore p (some c) (f.next c)).run (f.detached c) = .ok c f' ∧ SameLinks f f' := by
  obtain ⟨as, bs, hsplit, -, hnext⟩ := hf.exists_children_eq h
  have hnodup := hf.nodup_children p
  rw [hsplit, List.nodup_middle, List.nodup_cons, List.mem_append, not_or] at hnodup
  obtain ⟨⟨has, hbs⟩, hrest⟩ := hnodup
  have hcp : f.contains c (some p) = false :=
    hf.contains_eq_false_iff.2 (hf.not_isAbove_parent h)
  have ha : ∀ r ∈ (Attachment.insert (f.next c)).reference, f.parent r = some p ∧ c ≠ r := by
    intro r hr
    refine ⟨hf.mem_children_iff.1 (hf.next_mem_children h hr), ?_⟩
    rintro rfl
    rw [hnext] at hr
    exact hbs (List.mem_of_head? hr)
  have hp : p < f.size := hf.parent_lt_size h
  have hc : c < f.size := lt_size_of_parent h
  obtain ⟨f', as', bs', hrun, hsplit', hhead, hattached⟩ := hf.exists_run_edit hp hc hcp _ ha
  refine ⟨f', hrun, (hf.run_edit_detached hcp _ ha).trans hrun, ?_⟩
  -- the node is put where the list was cut when it was taken out
  have hcut : as ++ bs = as' ++ bs' := by
    rw [← hsplit', hsplit, List.erase_append_right _ has, List.erase_cons_head]
  obtain ⟨rfl, rfl⟩ := eq_of_append_eq hcut hrest (hnext.symm.trans hhead.symm)
  refine hf.sameLinks (hf.of_attached hc hcp hattached) fun j ↦ ?_
  rw [hattached.children_eq, hf.children_detached]
  by_cases hj : j = p
  · rw [if_pos hj, hj, hsplit]
  · rw [if_neg hj, List.erase_of_not_mem (hf.not_mem_children_of_ne h hj)]

/-- What an attachment that succeeded has checked, unless the node was its own reference. -/
theorem WellLinked.checked_of_run_edit (hf : f.WellLinked) {p c x : NodeId} (a : Attachment)
    (hself : a.reference ≠ some c) (hrun : (a.edit p c).run f = .ok x f') :
    f.contains c (some p) = false ∧ ∀ r ∈ a.reference, f.parent r = some p ∧ c ≠ r := by
  rw [a.edit_eq_insertBefore] at hrun
  cases hr : a.reference with
  | none =>
    rw [hr] at hrun
    have happend := (hf.run_appendChild p c).symm.trans hrun
    cases hcp : f.contains c (some p) with
    | true => simp [hcp] at happend
    | false => exact ⟨rfl, nofun⟩
  | some r =>
    rw [hr] at hrun hself
    rw [hf.run_insertBefore] at hrun
    have hne : c ≠ r := fun heq ↦ hself (congrArg some heq.symm)
    by_cases hparent : f.parent r = some p
    · cases hcp : f.contains c (some p) with
      | true => simp [hparent, hne, hcp] at hrun
      | false => exact ⟨rfl, fun r' hr' ↦ Option.some.inj hr' ▸ ⟨hparent, hne⟩⟩
    · simp [hparent] at hrun

/-- An attachment that succeeded once succeeds again, and changes no link. -/
theorem WellLinked.exists_run_edit_again (hf : f.WellLinked) {p c x : NodeId} (hp : p < f.size)
    (hc : c < f.size) (a : Attachment) (hrun : (a.edit p c).run f = .ok x f') :
    ∃ f'', (a.edit p c).run f' = .ok c f'' ∧ SameLinks f' f'' := by
  have hrun' := hrun
  rw [a.edit_eq_insertBefore] at hrun' ⊢
  by_cases hself : a.reference = some c
  · -- a node that is its own reference stays where it is, the first time and the second
    rw [hself] at hrun' ⊢
    rw [hf.run_insertBefore] at hrun'
    by_cases hparent : f.parent c = some p
    · obtain ⟨-, rfl⟩ : c = x ∧ f = f' := by simpa [hparent] using hrun'
      refine ⟨f, ?_, hf.sameLinks hf fun _ ↦ rfl⟩
      rw [hf.run_insertBefore, if_neg (not_not.2 hparent), if_pos rfl]
    · simp [hparent] at hrun'
  · obtain ⟨hcp, ha⟩ := hf.checked_of_run_edit a hself hrun
    obtain ⟨hf', hparent, hnext⟩ := hf.placed_of_run_edit hp hc hcp a ha hrun
    obtain ⟨f'', hagain, -, hsame⟩ := hf'.exists_insert_next hparent
    rw [hnext] at hagain
    exact ⟨f'', hagain, hsame⟩

/-- **Edits are undone and repeated without a trace.** In a reachable forest, a child that is
removed and put back before its former next sibling, or last if it had none, finds all links as they
were, its own and those of all other nodes; so does a child that is put there without being removed.
And an attachment that succeeded succeeds again and changes no link. -/
theorem links_restored (h : f.Reachable) {p c : NodeId} (hp : p < f.size) (hc : c < f.size) :
    (c ∈ f.children p →
        (∃ f' f'', (removeChild p (some c)).run f = .ok c f' ∧
          (insertBefore p (some c) (f.next c)).run f' = .ok c f'' ∧ SameLinks f f'') ∧
        ∃ f', (insertBefore p (some c) (f.next c)).run f = .ok c f' ∧ SameLinks f f') ∧
      ∀ (a : Attachment) (x : NodeId) (f' : Forest), (a.edit p c).run f = .ok x f' →
        ∃ f'', (a.edit p c).run f' = .ok c f'' ∧ SameLinks f' f'' := by
  have hf := h.wellLinked
  refine ⟨fun hmem ↦ ?_, fun a x f' hrun ↦ hf.exists_run_edit_again hp hc a hrun⟩
  have hparent := hf.mem_children_iff.1 hmem
  obtain ⟨f', hrun, hrun', hsame⟩ := hf.exists_insert_next hparent
  have hremove := hf.run_removeChild p c
  rw [if_pos hparent] at hremove
  exact ⟨⟨f.detached c, f', hremove, hrun', hsame⟩, f', hrun, hsame⟩

/-- The middle one of the three children of the document is removed and put back, and the first one
is put last twice. -/
theorem links_restored_sample :
    (Call.run .empty sampleCalls).Reachable ∧ 2 ∈ (Call.run .empty sampleCalls).children 0 ∧
      (∃ f' f'', (removeChild 0 (some 2)).run (Call.run .empty sampleCalls) = .ok 2 f' ∧
        (insertBefore 0 (some 2) (some 3)).run f' = .ok 2 f'' ∧
        SameLinks (Call.run .empty sampleCalls) f'' ∧ f''.children 0 = [1, 2, 3]) ∧
      ∃ f' f'', (Attachment.append.edit 0 1).run (Call.run .empty sampleCalls) = .ok 1 f' ∧
        f'.children 0 = [2, 3, 1] ∧ (Attachment.append.edit 0 1).run f' = .ok 1 f'' ∧
        SameLinks f' f'' := by
  have hreach : (Call.run .empty sampleCalls).Reachable := ⟨sampleCalls, by decide, rfl⟩
  have hchildren : (Call.run .empty sampleCalls).children 0 = [1, 2, 3] := by decide
  have hmem : 2 ∈ (Call.run .empty sampleCalls).children 0 := by decide
  have hrun := hreach.wellLinked.run_appendChild 0 1
  rw [show (Call.run .empty sampleCalls).contains 1 (some 0) = false by decide] at hrun
  obtain ⟨hback, -⟩ := links_restored hreach (show 0 < _ by decide) (show 2 < _ by decide)
  obtain ⟨-, hagain⟩ := links_restored hreach (show 0 < _ by decide) (show 1 < _ by decide)
  obtain ⟨⟨f', f'', hremove, hinsert, hsame⟩, -⟩ := hback hmem
  obtain ⟨f₂, hrepeat, hsame₂⟩ := hagain .append 1 _ hrun
  refine ⟨hreach, hmem, ⟨f', f'', hremove, hinsert, hsame, ?_⟩, _, f₂, hrun, by decide, hrepeat,
    hsame₂⟩
  rw [hsame.children_eq, hchildren]

end Forest

end TreePath
