import TreePath.Proofs.Forest.Undoing
import TreePath.Proofs.Selection.Plain

/-!
# Selections after an attachment

A node without parent is put among the children of another one. What a selection by a plain path
returned before, it still returns in the same order, and what is new stands together in one place
and is made of the attached node and nodes below it (`Forest.selects_after_edit`). Where the start
node does not lie above the new place, or the attached node is no element, nothing is new; and once
the node is removed again, all selections are what they were.

One list is another with a block put in (`Spliced`). This carries over from the children of the new
parent to what is reached from there, and further up as long as only one of the nodes on a level has
the new place below it (`Spliced.flatMap`). Two children of one node never have a node below them in
common, so that is always so.
-/

namespace TreePath

/-! ### Lists with a block put in -/

/-- The second list is the first with a block put in that is made of such items. -/
def Spliced {α : Type} (D : α → Prop) (xs ys : List α) : Prop :=
  ∃ before block after, xs = before ++ after ∧ ys = before ++ block ++ after ∧ ∀ x ∈ block, D x

namespace Spliced

variable {α β : Type} {D : α → Prop} {xs ys : List α}

/-- Nothing is put in. -/
theorem refl (xs : List α) : Spliced D xs xs :=
  ⟨xs, [], [], (List.append_nil xs).symm, by rw [List.append_nil, List.append_nil], nofun⟩

theorem append_left (h : Spliced D xs ys) (zs : List α) : Spliced D (zs ++ xs) (zs ++ ys) := by
  obtain ⟨before, block, after, rfl, rfl, hblock⟩ := h
  refine ⟨zs ++ before, block, after, (List.append_assoc ..).symm, ?_, hblock⟩
  simp only [List.append_assoc]

theorem append_right (h : Spliced D xs ys) (zs : List α) : Spliced D (xs ++ zs) (ys ++ zs) := by
  obtain ⟨before, block, after, rfl, rfl, hblock⟩ := h
  exact ⟨before, block, after ++ zs, List.append_assoc .., List.append_assoc .., hblock⟩

/-- What the items of a list contribute has at most one block put in, if of any two items at most
one contributes anything else than before. -/
theorem flatMap {g g' : β → List α} {cs : List β} (h : ∀ c ∈ cs, Spliced D (g c) (g' c))
    (hone : cs.Pairwise fun c d ↦ g' c = g c ∨ g' d = g d) :
    Spliced D (cs.flatMap g) (cs.flatMap g') := by
  induction cs with
  | nil => exact refl []
  | cons c rest ih =>
    obtain ⟨hc, hrest⟩ := List.forall_mem_cons.1 h
    obtain ⟨hfirst, hothers⟩ := List.pairwise_cons.1 hone
    rw [List.flatMap_cons, List.flatMap_cons]
    by_cases hsame : g' c = g c
    · rw [hsame]
      exact (ih hrest hothers).append_left (g c)
    · rw [List.flatMap_congr fun d hd ↦ (hfirst d hd).resolve_left hsame]
      exact hc.append_right (rest.flatMap g)

end Spliced

namespace Forest

variable {f f' : Forest} {τ : Answers}

/-! ### What stays as it was -/

/-- What is reached from a node by way of one of its children. -/
def share (f : Forest) (τ : Answers) (s : Step) (rest : List Step) (c : NodeId) : List NodeId :=
  if f.isElement c && τ ⟨c, s⟩ then f.reach τ rest c else []

theorem reach_cons (s : Step) (rest : List Step) (m : NodeId) :
    f.reach τ (s :: rest) m = (f.children m).flatMap (f.share τ s rest) := by
  rw [reach, passing, elementChildren]
  induction f.children m with
  | nil => rfl
  | cons c cs ih =>
    rw [List.flatMap_cons, ← ih, share]
    cases hc : f.isElement c with
    | false => simp [hc]
    | true => cases hτ : τ ⟨c, s⟩ <;> simp [hc, hτ]

theorem isElement_congr (hcontent : ∀ j, f'.content j = f.content j) (c : NodeId) :
    f'.isElement c = f.isElement c :=
  congrArg Content.isElement (hcontent c)

theorem share_congr (hcontent : ∀ j, f'.content j = f.content j) {s : Step} {rest : List Step}
    {c : NodeId} (h : f'.reach τ rest c = f.reach τ rest c) :
    f'.share τ s rest c = f.share τ s rest c := by
  rw [share, share, isElement_congr hcontent, h]

/-- Where nodes keep what they are, and those of a kind that is closed downwards keep their
children, the same is reached from them. -/
theorem reach_congr (hcontent : ∀ j, f'.content j = f.content j) {S : NodeId → Prop}
    (hS : ∀ m, S m → f'.children m = f.children m ∧ ∀ c ∈ f.children m, S c) (steps : List Step)
    {m : NodeId} (hm : S m) : f'.reach τ steps m = f.reach τ steps m := by
  induction steps generalizing m with
  | nil => rfl
  | cons s rest ih =>
    obtain ⟨hchildren, hbelow⟩ := hS m hm
    rw [reach_cons, reach_cons, hchildren]
    exact List.flatMap_congr fun c hc ↦ share_congr hcontent (ih (hbelow c hc))

theorem answers_congr (hcontent : ∀ j, f'.content j = f.content j) : f'.answers = f.answers := by
  funext t
  rw [answers, answers, hcontent]

/-- Where nodes are what they were, selections return what is reached under the same answers. -/
theorem selects_congr (hcontent : ∀ j, f'.content j = f.content j)
    (hnamed : ∀ i, (f.content i).isNamed = true) (m : NodeId) {p : Path} (hp : p.Plain) :
    f'.Selects m p (f'.reach f.answers p.steps m) := by
  rw [← answers_congr hcontent]
  exact (namedTo_of_forall (fun i ↦ hcontent i ▸ hnamed i) _ m).selects hp

/-! ### What is new -/

namespace Attached

variable {n c : NodeId} {as bs : List NodeId} (h : Attached f f' n c as bs) (hf : f.WellLinked)

include h hf

/-- From nodes that do not lie above the new place, the same is reached. -/
theorem reach_eq (steps : List Step) {m : NodeId} (hm : ¬ f.IsAbove m n) :
    f'.reach τ steps m = f.reach τ steps m := by
  refine reach_congr h.content_eq (S := fun m ↦ ¬ f.IsAbove m n) (fun m hm ↦ ⟨?_, ?_⟩) steps hm
  · rw [h.children_eq, if_neg]
    rintro rfl
    exact hm (IsAbove.refl m)
  · intro d hd hdn
    exact hm ((IsAbove.of_parent (hf.mem_children_iff.1 hd)).trans hdn)

theorem share_eq {s : Step} {rest : List Step} {d : NodeId} (hd : ¬ f.IsAbove d n) :
    f'.share τ s rest d = f.share τ s rest d :=
  share_congr h.content_eq (h.reach_eq hf rest hd)

/-- From the new parent, what is reached by way of the new child is put in. -/
theorem spliced_reach_cons (hc : ¬ f.IsAbove c n) (s : Step) (rest : List Step) :
    Spliced (fun x ↦ f.isElement c = true ∧ f.IsAbove c x) (f.reach τ (s :: rest) n)
      (f'.reach τ (s :: rest) n) := by
  have hold : ∀ d ∈ as ++ bs, f'.share τ s rest d = f.share τ s rest d := by
    intro d hd
    rw [← h.children_before] at hd
    exact h.share_eq hf (hf.not_isAbove_parent (hf.mem_children_iff.1 hd))
  rw [List.forall_mem_append] at hold
  refine ⟨as.flatMap (f.share τ s rest), f.share τ s rest c, bs.flatMap (f.share τ s rest), ?_, ?_,
    fun x hx ↦ ?_⟩
  · rw [reach_cons, h.children_before, List.flatMap_append]
  · rw [reach_cons, h.children_eq, if_pos rfl, List.flatMap_append, List.flatMap_cons,
      List.flatMap_congr hold.1, List.flatMap_congr hold.2, h.share_eq hf hc, List.append_assoc]
  · rw [share] at hx
    split at hx
    · next hpass =>
      refine ⟨(Bool.and_eq_true_iff.1 hpass).1, ?_⟩
      exact hf.isAbove_of_mem_elements ((hf.reach_sublist rest c).subset hx)
    · cases hx

/-- From any node, what is reached has a block put in, of nodes at or below the attached one. -/
theorem spliced_reach (hc : ¬ f.IsAbove c n) (steps : List Step) (m : NodeId) :
    Spliced (fun x ↦ f.isElement c = true ∧ f.IsAbove c x) (f.reach τ steps m)
      (f'.reach τ steps m) := by
  induction steps generalizing m with
  | nil => exact Spliced.refl [m]
  | cons s rest ih =>
    by_cases hm : m = n
    · rw [hm]
      exact h.spliced_reach_cons hf hc s rest
    · rw [reach_cons, reach_cons, h.children_eq, if_neg hm]
      refine Spliced.flatMap (fun d _ ↦ ?_) ?_
      · rw [share, share, isElement_congr h.content_eq]
        split
        · exact ih d
        · exact Spliced.refl []
      · -- of two children of a node, one does not lie above the new place
        refine (hf.nodup_children m).imp_of_mem fun {d e} hd he hne ↦ ?_
        by_cases hdn : f.IsAbove d n
        · refine Or.inr (h.share_eq hf fun hen ↦ hne ?_)
          exact hf.eq_of_isAbove (hf.mem_children_iff.1 hd) (hf.mem_children_iff.1 he) hdn hen
        · exact Or.inl (h.share_eq hf hdn)

/-- When the node is taken out again, the lists of children are what they were. -/
theorem children_detached (hc : f.parent c = none) (hf' : f'.WellLinked) (j : NodeId) :
    (f'.detached c).children j = f.children j := by
  have hnot (p : NodeId) : c ∉ f.children p := hf.not_mem_children hc p
  rw [hf'.children_detached, h.children_eq]
  by_cases hj : j = n
  · have has : c ∉ as := fun hmem ↦
      hnot n (h.children_before.symm ▸ List.mem_append_left bs hmem)
    rw [if_pos hj, hj, h.children_before, List.erase_append_right _ has, List.erase_cons_head]
  · rw [if_neg hj, List.erase_of_not_mem (hnot j)]

end Attached

/-- **What an attachment adds to a selection stands in one place.** In a reachable forest without
nameless nodes of the element kind, let a node without parent be attached to one that it does not
contain, at the end or before a child. A selection by a plain path from any node then returns what
it returned before, with a block put in that is made of the attached node and nodes below it. The
block is empty if the start does not contain the new parent, or if the attached node is no element.
Once the node is removed again, the selection returns what it returned before. -/
theorem selects_after_edit (h : f.Reachable) (hnamed : ∀ i, (f.content i).isNamed = true)
    {n c : NodeId} (hn : n < f.size) (hc : c < f.size) (hparent : f.parent c = none)
    (hout : f.contains c (some n) = false) (a : Attachment)
    (ha : ∀ r ∈ a.reference, r ∈ f.children n) :
    ∃ f' f'', (a.edit n c).run f = .ok c f' ∧ (removeChild n (some c)).run f' = .ok c f'' ∧
      ∀ (m : NodeId) (p : Path), p.Plain →
        ∃ before block after, f.Selects m p (before ++ after) ∧
          f'.Selects m p (before ++ block ++ after) ∧ f''.Selects m p (before ++ after) ∧
          (∀ x ∈ block, f.IsAbove c x) ∧
          (f.contains m (some n) = false ∨ f.isElement c = false → block = []) := by
  have hf := h.wellLinked
  have hcn := hf.contains_eq_false_iff.1 hout
  have href : ∀ r ∈ a.reference, f.parent r = some n ∧ c ≠ r := by
    intro r hr
    have hchild := hf.mem_children_iff.1 (ha r hr)
    refine ⟨hchild, ?_⟩
    rintro rfl
    cases hparent.symm.trans hchild
  obtain ⟨f', as, bs, hrun, -, -, hattached⟩ := hf.exists_run_edit hn hc hout a href
  have hf' := hf.of_attached hc hout hattached
  have hparent' : f'.parent c = some n := by rw [hattached.parent_eq, if_pos rfl]
  rw [detached_of_parent_eq_none hparent] at hattached
  have hremove := hf'.run_removeChild n c
  rw [if_pos hparent'] at hremove
  -- nodes are what they were, and in the end so are the lists of children
  have hcontent : ∀ j, (f'.detached c).content j = f.content j := fun j ↦
    (hf'.content_detached c j).trans (hattached.content_eq j)
  have hchildren := hattached.children_detached hf hparent hf'
  refine ⟨f', f'.detached c, hrun, hremove, fun m p hp ↦ ?_⟩
  have hbefore := selects_congr (fun _ ↦ rfl) hnamed m hp
  have hafter := selects_congr hattached.content_eq hnamed m hp
  have hrestored := selects_congr hcontent hnamed m hp
  rw [reach_congr hcontent (S := fun _ ↦ True) (fun j _ ↦ ⟨hchildren j, fun _ _ ↦ trivial⟩)
    p.steps trivial] at hrestored
  obtain ⟨before, block, after, hold, hnew, hblock⟩ :=
    hattached.spliced_reach hf hcn p.steps m (τ := f.answers)
  refine ⟨before, block, after, hold ▸ hbefore, hnew ▸ hafter, hold ▸ hrestored,
    fun x hx ↦ (hblock x hx).2, ?_⟩
  rintro (houtside | hnot)
  · have hsame :=
      hattached.reach_eq hf p.steps (hf.contains_eq_false_iff.1 houtside) (τ := f.answers)
    rw [hold, hnew, List.append_assoc] at hsame
    simpa using hsame
  · refine List.eq_nil_iff_forall_not_mem.2 fun x hx ↦ ?_
    cases hnot.symm.trans (hblock x hx).1

/-- Asks for all elements in an element with a given name. -/
def withinPath : Path := ⟨.name "a", [.all []]⟩

/-- The loose element is put before the one that the path finds, and is found before it. -/
theorem selects_after_edit_loose :
    (Call.run .empty looseCalls).Reachable ∧ withinPath.Plain ∧
      (Call.run .empty looseCalls).Selects 0 withinPath [2] ∧
      ∃ f' f'', ((Attachment.insert (some 2)).edit 1 3).run (Call.run .empty looseCalls) =
          .ok 3 f' ∧
        (removeChild 1 (some 3)).run f' = .ok 3 f'' ∧ f'.Selects 0 withinPath [3, 2] ∧
        f''.Selects 0 withinPath [2] := by
  have hreach : (Call.run .empty looseCalls).Reachable := ⟨looseCalls, by decide, rfl⟩
  have hplain : withinPath.Plain :=
    List.forall_mem_cons.2 ⟨.name _, List.forall_mem_singleton.2 (.all nofun)⟩
  have hnamed : ∀ i, ((Call.run .empty looseCalls).content i).isNamed = true :=
    isNamed_of_lt_size (by decide)
  obtain ⟨f', f'', hrun, hremove, hselects⟩ := selects_after_edit hreach hnamed
    (show 1 < _ by decide) (show 3 < _ by decide) (show _ = none by decide)
    (show _ = false by decide) (.insert (some 2)) (by decide)
  obtain ⟨before, block, after, hbefore, hafter, hrestored, -⟩ := hselects 0 withinPath hplain
  have hinsert : ((Attachment.insert (some 2)).edit 1 3).run (Call.run .empty looseCalls) =
      .ok 3 (Call.run .empty (looseCalls ++ [.insert 1 (some 3) (some 2)])) := rfl
  obtain rfl : Call.run .empty (looseCalls ++ [.insert 1 (some 3) (some 2)]) = f' := by
    simpa using hinsert.symm.trans hrun
  have hfound : before ++ after = [2] :=
    hbefore.unique ((namedTo_of_forall hnamed _ 0).selects hplain)
  have hfound' : before ++ block ++ after = [3, 2] :=
    hafter.unique ((namedTo_of_forall (isNamed_of_lt_size (by decide)) _ 0).selects hplain)
  rw [hfound] at hbefore hrestored
  rw [hfound'] at hafter
  exact ⟨hreach, hplain, hbefore, _, f'', hrun, hremove, hafter, hrestored⟩

end Forest

end TreePath
