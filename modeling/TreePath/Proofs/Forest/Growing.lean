import TreePath.Proofs.Forest.Moving
import TreePath.Proofs.Forest.Unfolding

/-!
# Growing a grove

`Forest.Enlarged f f' owner` says that `f'` has the nodes of `f`, each what it was and hanging where
it did, and perhaps new ones, all of which belong to `owner`. `Forest.Grown f f' p owner g` says
moreover what the new ones are: the grove `g`, below the node `p`, after the children there were.

To plant a grove is to grow it (`WellLinked.run_plantGrove`). One node is created and appended
(`WellLinked.exists_sprout`); what grows below it makes the two one tree (`Grown.nest`), and what
grows after it is put side by side (`Grown.trans`). A later growth never touches the trees of an
earlier one, since it happens above them (`WellLinked.shape_congr`).

A grove is what a document is to be, as a tree without numbers; planting it gives the numbers. Which
numbers these are is of no interest to anybody, and `Grown` does not say it. What it says of the
shapes of nodes is enough to compare the planted trees with the grove, and that the new nodes belong
to one owner is said of all of them at once. The induction on the grove is that of the planting: one
node, its children, and the nodes after it.
-/

namespace TreePath

namespace Forest

variable {f f' f'' : Forest}

/-! ### The shape of what lies below -/

/-- The shape of a node is what it is, over the shapes of its children. -/
theorem WellLinked.shape_eq (hf : f.WellLinked) (i : NodeId) :
    f.shape i = .node (f.content i) ((f.children i).map f.shape) := by
  rw [shape, hf.subtree_eq, Tree.map, Tree.label_node, Tree.branches_node, Tree.mapGrove_eq_map,
    List.map_map]
  rfl

/-- The elements below a node are those of its shape. -/
theorem map_content_elements (f : Forest) (i : NodeId) :
    (f.elements i).map f.content = Tree.passing Content.isElement (f.shape i).branches :=
  Tree.map_passing f.content Content.isElement (f.subtree i).branches

/-- Two forests have the same shape below a node if the nodes there are and have the same. -/
theorem WellLinked.shape_congr (hf : f.WellLinked) (hf' : f'.WellLinked) {i : NodeId}
    (h : ∀ j, f.IsAbove i j → f'.content j = f.content j ∧ f'.children j = f.children j) :
    f'.shape i = f.shape i := by
  induction i using hf.below_induction with
  | h i ih =>
    obtain ⟨hcontent, hchildren⟩ := h i (IsAbove.refl i)
    rw [hf.shape_eq, hf'.shape_eq, hcontent, hchildren]
    refine congrArg (Tree.node _) (List.map_congr_left fun c hc ↦ ih c hc fun j hj ↦ h j ?_)
    exact (IsAbove.of_parent (hf.mem_children_iff.1 hc)).trans hj

/-! ### Growth -/

/-- Nodes were added to a forest, all for one owner, and no old node was changed, save that it may
have got children. -/
structure Enlarged (f f' : Forest) (owner : Option NodeId) : Prop where
  /-- No node is lost. -/
  size_le : f.size ≤ f'.size
  /-- The links agree. -/
  wellLinked : f'.WellLinked
  /-- Every old node is what it was. -/
  content_eq : ∀ j, j < f.size → f'.content j = f.content j
  /-- Every old node belongs to whom it did. -/
  owner_eq : ∀ j, j < f.size → f'.owner j = f.owner j
  /-- Every old node hangs where it did. -/
  parent_eq : ∀ j, j < f.size → f'.parent j = f.parent j
  /-- Every new node belongs to the owner. -/
  owner_new : ∀ j, f.size ≤ j → j < f'.size → f'.owner j = owner

/-- All that happened between two forests is that a grove grew below a node, after the children
there were. -/
structure Grown (f f' : Forest) (p : NodeId) (owner : Option NodeId) (g : Grove Content) : Prop
    extends Enlarged f f' owner where
  /-- No other old node got children. -/
  children_eq : ∀ j, j < f.size → j ≠ p → f'.children j = f.children j
  /-- The new children are new nodes, and have the shape of the grove. -/
  children_self : ∃ cs, f'.children p = f.children p ++ cs ∧ (∀ c ∈ cs, f.size ≤ c) ∧
    cs.map f'.shape = g

namespace Enlarged

variable {owner : Option NodeId}

theorem refl (hf : f.WellLinked) (owner : Option NodeId) : Enlarged f f owner where
  size_le := le_rfl
  wellLinked := hf
  content_eq _ _ := rfl
  owner_eq _ _ := rfl
  parent_eq _ _ := rfl
  owner_new _ hle hlt := absurd hlt (Nat.not_lt_of_le hle)

/-- A forest that was enlarged twice was enlarged. -/
theorem trans (h : Enlarged f f' owner) (h' : Enlarged f' f'' owner) : Enlarged f f'' owner := by
  have hlt : ∀ j, j < f.size → j < f'.size := fun j hj ↦ Nat.lt_of_lt_of_le hj h.size_le
  refine ⟨h.size_le.trans h'.size_le, h'.wellLinked, ?_, ?_, ?_, ?_⟩
  · intro j hj
    rw [h'.content_eq j (hlt j hj), h.content_eq j hj]
  · intro j hj
    rw [h'.owner_eq j (hlt j hj), h.owner_eq j hj]
  · intro j hj
    rw [h'.parent_eq j (hlt j hj), h.parent_eq j hj]
  · intro j hj hsize
    -- a new node is new to the first enlargement or to the second
    rcases Nat.lt_or_ge j f'.size with hold | hnew
    · rw [h'.owner_eq j hold, h.owner_new j hj hold]
    · exact h'.owner_new j hnew hsize

end Enlarged

namespace Grown

variable {p : NodeId} {owner : Option NodeId} {g g' : Grove Content}

/-- The forest itself, with nothing grown. -/
theorem refl (hf : f.WellLinked) (p : NodeId) (owner : Option NodeId) : Grown f f p owner [] where
  toEnlarged := .refl hf owner
  children_eq _ _ _ := rfl
  children_self := ⟨[], (List.append_nil _).symm, List.forall_mem_nil _, rfl⟩

/-- A growth below a node leaves the shape of every child that the node had. -/
theorem shape_of_mem_children (hf : f.WellLinked) (h : Grown f f' p owner g) {c : NodeId}
    (hc : c ∈ f.children p) : f'.shape c = f.shape c := by
  have hparent : f.parent c = some p := hf.mem_children_iff.1 hc
  refine hf.shape_congr h.wellLinked fun j hj ↦ ?_
  have hlt : j < f.size := by
    rcases hj.eq_or_parent with rfl | ⟨q, hq, -⟩
    · exact hf.child_lt_size hc
    · exact lt_size_of_parent hq
  -- the node itself, whose list did change, lies above the child and not below it
  have hne : j ≠ p := by
    rintro rfl
    exact hf.not_isAbove_parent hparent hj
  exact ⟨h.content_eq j hlt, h.children_eq j hlt hne⟩

/-- Two groves that grow one after the other stand side by side. -/
theorem trans (h : Grown f f' p owner g) (h' : Grown f' f'' p owner g') :
    Grown f f'' p owner (g ++ g') := by
  have hle := h.size_le
  obtain ⟨cs, hcs, hnew, rfl⟩ := h.children_self
  obtain ⟨ds, hds, hnew', rfl⟩ := h'.children_self
  have hshape : cs.map f''.shape = cs.map f'.shape := by
    refine List.map_congr_left fun c hc ↦ h'.shape_of_mem_children h.wellLinked ?_
    rw [hcs]
    exact List.mem_append_right _ hc
  refine ⟨h.toEnlarged.trans h'.toEnlarged, ?_, ⟨cs ++ ds, ?_, ?_, ?_⟩⟩
  · intro j hj hne
    rw [h'.children_eq j (by omega) hne, h.children_eq j hj hne]
  · rw [hds, hcs, List.append_assoc]
  · intro c hc
    rcases List.mem_append.1 hc with hc | hc
    · exact hnew c hc
    · exact hle.trans (hnew' c hc)
  · rw [List.map_append, hshape]

/-- What grows below the only node of an earlier growth is part of its tree. -/
theorem nest {c : Content} {i : NodeId} (hp : p < f.size)
    (h : Grown f f' p owner [.node c []]) (hi : f.size ≤ i)
    (hchildren : f'.children p = f.children p ++ [i]) (h' : Grown f' f'' i owner g) :
    Grown f f'' p owner [.node c g] := by
  have hle := h.size_le
  have hpi : p ≠ i := Nat.ne_of_lt (Nat.lt_of_lt_of_le hp hi)
  have hisize : i < f'.size := h.wellLinked.child_lt_size (p := p) (by simp [hchildren])
  -- before the second growth the node is a leaf
  have hleaf : f'.content i = c ∧ f'.children i = [] := by
    obtain ⟨cs, hcs, -, hshape⟩ := h.children_self
    obtain rfl : cs = [i] := List.append_cancel_left (hcs.symm.trans hchildren)
    rw [List.map_singleton, h.wellLinked.shape_eq] at hshape
    simpa using hshape
  obtain ⟨cs, hcs, -, hshape⟩ := h'.children_self
  rw [hleaf.2, List.nil_append] at hcs
  refine ⟨h.toEnlarged.trans h'.toEnlarged, ?_, ⟨[i], ?_, ?_, ?_⟩⟩
  · intro j hj hne
    have hji : j ≠ i := Nat.ne_of_lt (Nat.lt_of_lt_of_le hj hi)
    rw [h'.children_eq j (by omega) hji, h.children_eq j hj hne]
  · rw [h'.children_eq p (Nat.lt_of_lt_of_le hp hle) hpi, hchildren]
  · intro d hd
    rw [List.mem_singleton.1 hd]
    exact hi
  · rw [List.map_singleton, h'.wellLinked.shape_eq, h'.content_eq i hisize, hleaf.1, hcs, hshape]

/-- What lies below a new node is new. -/
theorem size_le_of_isAbove (hf : f.WellLinked) (h : Grown f f' p owner g) {c x : NodeId}
    (hc : f.size ≤ c) (hx : f'.IsAbove c x) : f.size ≤ x := by
  by_contra hlt
  rw [Nat.not_le] at hlt
  induction hx with
  | refl => exact Nat.not_lt_of_le hc hlt
  | @tail y z hcy hparent ih =>
    -- the parent of an old node is old
    rw [IsParent, h.parent_eq z hlt] at hparent
    exact ih (hf.parent_lt_size hparent)

/-- Below a node that had no children, everything belongs to the owner. -/
theorem owner_of_isAbove (hf : f.WellLinked) (h : Grown f f' p owner g)
    (hnil : f.children p = []) {x : NodeId} (hx : f'.IsAbove p x) (hne : x ≠ p) :
    f'.owner x = owner := by
  obtain ⟨cs, hcs, hnew, -⟩ := h.children_self
  rw [hnil, List.nil_append] at hcs
  rcases Relation.ReflTransGen.cases_head hx with heq | ⟨c, hparent, hcx⟩
  · exact absurd heq.symm hne
  · have hc : f.size ≤ c := hnew c (hcs ▸ h.wellLinked.mem_children_iff.2 hparent)
    have hlt : x < f'.size := by
      rcases hx.eq_or_parent with heq | ⟨q, hq, -⟩
      · exact absurd heq.symm hne
      · exact lt_size_of_parent hq
    exact h.owner_new x (h.size_le_of_isAbove hf hc hcx) hlt

end Grown

/-! ### Planting -/

namespace WellLinked

variable (hf : f.WellLinked) {p : NodeId} {owner : Option NodeId}

include hf

/-- Nothing lies below a node that was just created. -/
theorem contains_add_self (hp : p < f.size) (c : Content) :
    (f.add c owner).contains f.size (some p) = false := by
  have hadd : (f.add c owner).WellLinked := hf.add c owner
  rw [hadd.contains_eq_false_iff]
  intro habove
  rcases Relation.ReflTransGen.cases_head habove with heq | ⟨d, hd, -⟩
  · exact Nat.ne_of_gt hp heq
  · have hmem := hadd.mem_children_iff.2 hd
    rw [children, f.node_add_self c owner] at hmem
    cases hmem

/-- A node that is created and appended grows as a leaf, if it is given an owner or its parent has
none to give. -/
theorem exists_sprout (hp : p < f.size) (howner : owner.or (f.owner p) = owner) (c : Content) :
    ∃ f', (appendChild p (some f.size)).run (f.add c owner) = .ok f.size f' ∧
      f'.children p = f.children p ++ [f.size] ∧ Grown f f' p owner [.node c []] := by
  have hadd : (f.add c owner).WellLinked := hf.add c owner
  have hself : (f.add c owner).node f.size = ⟨c, owner, none, [], none, none⟩ :=
    f.node_add_self c owner
  have hold : ∀ j, j < f.size → (f.add c owner).node j = f.node j :=
    fun j hj ↦ f.node_add_of_lt c owner hj
  have hlinks (j : NodeId) := f.links_add c owner j
  have hparent : (f.add c owner).parent f.size = none := by rw [parent, hself]
  have hrun := hadd.run_appendChild p f.size
  rw [hf.contains_add_self hp] at hrun
  have hsize : (f.add c owner).size = f.size + 1 := f.size_add c owner
  have hpsize : p < (f.add c owner).size := hsize ▸ Nat.lt_succ_of_lt hp
  have hisize : f.size < (f.add c owner).size := hsize ▸ Nat.lt_succ_self f.size
  obtain ⟨hchildren, hmoved⟩ := moved_append hadd hpsize hisize hrun
  have hnot : f.size ∉ f.children p := fun hmem ↦ Nat.lt_irrefl _ (hf.child_lt_size hmem)
  rw [(hlinks p).2.1, List.erase_of_not_mem hnot] at hchildren
  refine ⟨_, hrun, hchildren, ?_⟩
  set f' := ((f.add c owner).detached f.size).attachedLast p f.size
  have hsize' : f'.size = f.size + 1 := hmoved.size_eq.trans hsize
  have hother : ∀ j, j ≠ p → f'.children j = (f.add c owner).children j := by
    intro j hne
    refine hmoved.children_other j ?_ ?_
    · rw [hparent]
      exact (Option.some_ne_none j).symm
    · exact fun heq ↦ hne (Option.some.inj heq).symm
  refine ⟨⟨by omega, hmoved.wellLinked, ?_, ?_, ?_, ?_⟩, ?_, ⟨[f.size], hchildren, ?_, ?_⟩⟩
  · intro j hj
    rw [hmoved.content_eq, content, hold j hj, content]
  · intro j hj
    rw [hmoved.owner_of_ne j (Nat.ne_of_lt hj), Forest.owner, hold j hj, Forest.owner]
  · intro j hj
    rw [hmoved.parent_of_ne j (Nat.ne_of_lt hj), (hlinks j).1]
  · intro j hj hlt
    obtain rfl : j = f.size := Nat.le_antisymm (by omega) hj
    have hgiven : (f.add c owner).owner f.size = owner := by rw [Forest.owner, hself]
    have hfrom : (f.add c owner).owner p = f.owner p := by
      rw [Forest.owner, hold p hp, Forest.owner]
    -- it keeps the owner it was given, and only one without takes its parent's
    rcases hmoved.owner_self with hsame | ⟨hnone, q, hq, hgot⟩
    · rw [hsame, hgiven]
    · obtain rfl : p = q := Option.some.inj hq
      rw [hgiven] at hnone
      rw [hgot, hfrom, ← howner, hnone, Option.none_or]
  · intro j hj hne
    rw [hother j hne, (hlinks j).2.1]
  · intro d hd
    rw [List.mem_singleton.1 hd]
  · have hcontent : f'.content f.size = c := by rw [hmoved.content_eq, content, hself]
    have hnil : f'.children f.size = [] := by rw [hother _ (Nat.ne_of_gt hp), children, hself]
    rw [List.map_singleton, hmoved.wellLinked.shape_eq, hcontent, hnil, List.map_nil]

end WellLinked

/-- To discard a result changes nothing else. -/
theorem run_discard {ε σ α : Type} (x : EStateM ε σ α) (s : σ) :
    (discard x).run s =
      match x.run s with
      | .ok _ s' => .ok () s'
      | .error e s' => .error e s' := by
  have hmap : discard x = x >>= fun _ ↦ pure () := by
    rw [← map_eq_pure_bind]
    simp only [discard, map_const]
    rfl
  rw [hmap, EStateM.run_bind]
  rfl

/-- To plant a tree in front of a grove is to append its top, to plant its branches below that, and
then to plant the grove. -/
theorem exists_of_run_plantGrove_cons {p : NodeId} {owner : Option NodeId} {c : Content}
    {ts rest : Grove Content}
    (h : (plantGrove owner p (.node c ts :: rest)).run f = .ok () f') :
    ∃ i f₁ f₂, (appendChild p (some f.size)).run (f.add c owner) = .ok i f₁ ∧
      (plantGrove owner f.size ts).run f₁ = .ok () f₂ ∧
      (plantGrove owner p rest).run f₂ = .ok () f' := by
  have hcreate : (create c owner).run f = .ok f.size (f.add c owner) := rfl
  rw [plantGrove, EStateM.run_bind, hcreate] at h
  cases happend : (appendChild p (some f.size)).run (f.add c owner) with
  | error e f₁ => simp [run_discard, happend] at h
  | ok i f₁ =>
    cases hbelow : (plantGrove owner f.size ts).run f₁ with
    | error e f₂ => simp [run_discard, happend, hbelow] at h
    | ok u f₂ =>
      refine ⟨i, f₁, f₂, rfl, hbelow, ?_⟩
      simpa [run_discard, happend, hbelow] using h

/-- Planting a grove grows it. -/
theorem WellLinked.run_plantGrove (g : Grove Content) (owner : Option NodeId) :
    ∀ {f : Forest} {p : NodeId}, f.WellLinked → p < f.size → owner.or (f.owner p) = owner →
      ∃ f', (plantGrove owner p g).run f = .ok () f' ∧ Grown f f' p owner g := by
  induction g using Tree.grove_induction with
  | nil =>
    intro f p hf _ _
    exact ⟨f, by rw [plantGrove]; rfl, Grown.refl hf p owner⟩
  | cons c ts rest ihts ihrest =>
    intro f p hf hp howner
    obtain ⟨f₁, hrun₁, hchildren, hgrown₁⟩ := hf.exists_sprout hp howner c
    have hisize : f.size < f₁.size :=
      hgrown₁.wellLinked.child_lt_size (p := p) (by simp [hchildren])
    have hiowner : f₁.owner f.size = owner := hgrown₁.owner_new f.size le_rfl hisize
    obtain ⟨f₂, hrun₂, hgrown₂⟩ := ihts hgrown₁.wellLinked hisize (by rw [hiowner, Option.or_self])
    have htree := hgrown₁.nest hp le_rfl hchildren hgrown₂
    have hp₂ : p < f₂.size := lt_of_lt_of_le hp htree.size_le
    obtain ⟨f₃, hrun₃, hgrown₃⟩ :=
      ihrest htree.wellLinked hp₂ (by rw [htree.owner_eq p hp, howner])
    refine ⟨f₃, ?_, htree.trans hgrown₃⟩
    have hcreate : (create c owner).run f = .ok f.size (f.add c owner) := rfl
    rw [plantGrove]
    simp [run_discard, hcreate, hrun₁, hrun₂, hrun₃]

/-- A grove planted below a node that was just created makes one tree with it, and everything in it
belongs to that node if this is what it is planted for. -/
theorem WellLinked.run_plantGrove_add (hf : f.WellLinked) (c : Content) (g : Grove Content) :
    ∃ f', (plantGrove (some f.size) f.size g).run (f.add c none) = .ok () f' ∧ f'.WellLinked ∧
      f'.shape f.size = .node c g ∧
      ∀ i, f'.IsAbove f.size i → i ≠ f.size → f'.owner i = some f.size := by
  have hadd : (f.add c none).WellLinked := hf.add c none
  have hself : (f.add c none).node f.size = ⟨c, none, none, [], none, none⟩ :=
    f.node_add_self c none
  have hsize : f.size < (f.add c none).size := by
    rw [size_add]
    exact Nat.lt_succ_self _
  obtain ⟨f', hrun, hgrown⟩ := hadd.run_plantGrove g (some f.size) hsize Option.some_or
  have hnil : (f.add c none).children f.size = [] := by rw [children, hself]
  have hcontent : f'.content f.size = c := by rw [hgrown.content_eq _ hsize, content, hself]
  refine ⟨f', hrun, hgrown.wellLinked, ?_, fun i ↦ hgrown.owner_of_isAbove hadd hnil⟩
  obtain ⟨cs, hcs, -, hgrove⟩ := hgrown.children_self
  rw [hnil, List.nil_append] at hcs
  rw [hgrown.wellLinked.shape_eq, hcontent, hcs, hgrove]

end Forest

end TreePath
