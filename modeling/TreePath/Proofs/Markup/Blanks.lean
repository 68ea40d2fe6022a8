import TreePath.Proofs.Markup.Assembling
import TreePath.Proofs.Selection.Skeleton

/-!
# Documents with and without blanks

A source is assembled with its blanks or without them. What it stands for without blanks is what it
stands for with them, less the texts that are nothing but blanks (`Source.Depicts.without_blanks`);
so the one document is the other with these texts taken out, and everything said of the elements of
the one holds of the other (`Builder.blanks_only`).

For selections, the shapes are compared node by node. `Forest.Stripped` relates two nodes if the
first has the shape of the second, less the blanks below. The relation carries over to the element
children, one by one, since no blank is an element. That what is found stands at the same places
among all elements follows from the pairs that corresponding elements make: those below two children
are among those below their parents (`Forest.Stripped.forall₂_zip_elements`).

Only documents that can be made are compared. A source with a fault has no document with blanks nor
one without, as whether it has a fault does not depend on the builder.
-/

namespace TreePath

/-! ### Trees without certain labels -/

namespace Tree

variable {α β : Type}

/-- A grove without the trees whose label satisfies a test, at any depth. -/
def without (p : α → Bool) : Grove α → Grove α
  | [] => []
  | node a ts :: rest => (if p a then [] else [node a (without p ts)]) ++ without p rest

/-- A tree without the trees below its top whose label satisfies a test. -/
def pruned (p : α → Bool) (t : Tree α) : Tree α :=
  node t.label (without p t.branches)

theorem mapGrove_without (g : α → β) (p : β → Bool) (ts : Grove α) :
    mapGrove g (without (fun a ↦ p (g a)) ts) = without p (mapGrove g ts) := by
  induction ts using grove_induction with
  | nil => rw [without, mapGrove, without]
  | cons a ts rest ihts ihrest =>
    rw [without, mapGrove, without, ← ihts, ← ihrest]
    cases p (g a) with
    | true => rfl
    | false => simp [mapGrove]

theorem map_pruned (g : α → β) (p : β → Bool) (t : Tree α) :
    (t.pruned fun a ↦ p (g a)).map g = (t.map g).pruned p := by
  rw [map, pruned, pruned, map, branches_node, label_node, branches_node, label_node,
    mapGrove_without]

/-- A search that passes none of them finds the same. -/
theorem passing_without {p q : α → Bool} (h : ∀ a, p a = true → q a = false) (ts : Grove α) :
    passing q (without p ts) = passing q ts := by
  induction ts using grove_induction with
  | nil => rw [without]
  | cons a ts rest ihts ihrest =>
    rw [without, passing]
    cases hp : p a with
    | true => simp [h a hp, ihrest]
    | false => simp [passing, ihts, ihrest]

/-- Every label of a grove has a property. -/
def Everywhere (P : α → Prop) : Grove α → Prop
  | [] => True
  | node a ts :: rest => P a ∧ Everywhere P ts ∧ Everywhere P rest

theorem Everywhere.of_mem {P : α → Prop} {ts : Grove α} {t : Tree α} (h : Everywhere P ts)
    (ht : t ∈ ts) : P t.label ∧ Everywhere P t.branches := by
  induction ts with
  | nil => cases ht
  | cons u rest ih =>
    obtain ⟨a, us⟩ := u
    rw [Everywhere] at h
    rcases List.mem_cons.1 ht with rfl | ht
    · exact ⟨h.1, h.2.1⟩
    · exact ih h.2.2 ht

end Tree

/-- What the labels of a shape have in common, the nodes below have in common. -/
theorem Forest.WellLinked.forall_of_everywhere {f : Forest} (hf : f.WellLinked)
    {P : Content → Prop} {i j : NodeId} (hi : P (f.content i))
    (h : Tree.Everywhere P (f.shape i).branches) (hj : f.IsAbove i j) : P (f.content j) := by
  induction hj using Relation.ReflTransGen.head_induction_on with
  | refl => exact hi
  | @head i c hparent _ ih =>
    have hmem : f.shape c ∈ (f.shape i).branches := by
      rw [hf.shape_eq i]
      exact List.mem_map_of_mem (hf.mem_children_iff.2 hparent)
    obtain ⟨hc, hbelow⟩ := h.of_mem hmem
    refine ih ?_ hbelow
    rw [hf.shape_eq c] at hc
    exact hc

/-! ### The image of a source, with and without blanks -/

/-- Whether a node is a text of blanks only. -/
def Content.isBlank : Content → Bool
  | text s => Text.allBlank s
  | _ => false

theorem Forest.isBlankText_eq_ok_iff {f : Forest} {i : NodeId} :
    f.isBlankText i = .ok true ↔ (f.content i).isBlank = true := by
  rw [isBlankText]
  cases f.content i with
  | text s => simp [Content.isBlank]
  | _ => simp [Content.isBlank]

/-- What a node can be that is made of a source: a text that is kept, or anything else that has a
name if it is of the element kind. -/
def Content.Kept (keepBlank : Bool) : Content → Prop
  | text s => keepsText keepBlank s = true
  | c => c.isNamed = true

/-- What is kept has a name if it is an element. -/
theorem Content.Kept.isNamed {keepBlank : Bool} {c : Content} (h : c.Kept keepBlank) :
    c.isNamed = true := by
  cases c with
  | text s => rfl
  | _ => exact h

/-- Without blanks no text of blanks is kept. -/
theorem Content.Kept.not_isBlank {c : Content} (h : c.Kept false) : ¬ c.isBlank = true := by
  intro hblank
  cases c with
  | text s =>
    rw [isBlank] at hblank
    simp [Kept, keepsText, hblank] at h
  | _ => cases hblank

/-- An empty text is never kept. -/
theorem Content.Kept.ne_empty {keepBlank : Bool} {c : Content} (h : c.Kept keepBlank) :
    c ≠ .text "" := by
  rintro rfl
  cases h

namespace Source.Depicts

variable {keepBlank : Bool} {sources : List Source} {g : Grove Content}

/-- All that a source stands for is kept. -/
theorem everywhere_kept (h : Depicts keepBlank sources g) :
    Tree.Everywhere (Content.Kept keepBlank) g := by
  induction h with
  | nil =>
    rw [Tree.Everywhere]
    trivial
  | tag _ _ _ _ ihcontents ihrest =>
    rw [Tree.Everywhere]
    exact ⟨rfl, ihcontents, ihrest⟩
  | comment _ ih =>
    rw [Tree.Everywhere, Tree.Everywhere]
    exact ⟨rfl, trivial, ih⟩
  | kept hne hkept _ ih =>
    rw [Tree.Everywhere, Tree.Everywhere]
    exact ⟨keepsText_eq_true_iff.2 ⟨hne, hkept⟩, trivial, ih⟩
  | dropped _ _ ih => exact ih
  | skipped _ _ _ ih => exact ih

/-- What there is in a document that a source stands for. -/
theorem kept_of_shape {f : Forest} {d : NodeId} (hf : f.WellLinked)
    (h : Depicts keepBlank sources g) (hshape : f.shape d = .node (.document []) g) :
    ∀ i, f.IsAbove d i → (f.content i).Kept keepBlank := by
  intro i hi
  have hd : f.content d = .document [] := by
    rw [hf.shape_eq] at hshape
    exact (Tree.node.inj hshape).1
  refine hf.forall_of_everywhere ?_ ?_ hi
  · rw [hd]
    rfl
  · rw [hshape]
    exact h.everywhere_kept

/-- Without blanks, a source stands for what it stands for with them, less the blanks. -/
theorem without_blanks (h : Depicts true sources g) :
    Depicts false sources (Tree.without Content.isBlank g) := by
  have hother {c : Content} (hc : c.isBlank = false) (below after : Grove Content) :
      Tree.without Content.isBlank (.node c below :: after) =
        .node c (Tree.without Content.isBlank below) :: Tree.without Content.isBlank after := by
    rw [Tree.without, hc]
    rfl
  have hnil : Tree.without Content.isBlank [] = [] := by rw [Tree.without]
  induction h with
  | nil =>
    rw [hnil]
    exact .nil
  | tag hname ha _ _ ihcontents ihrest =>
    rw [hother rfl]
    exact .tag hname ha ihcontents ihrest
  | comment _ ih =>
    rw [hother rfl, hnil]
    exact .comment ih
  | @kept text _ _ hne _ _ ih =>
    cases hblank : Text.allBlank text with
    | true =>
      rw [Tree.without, Content.isBlank, hblank, if_pos rfl, List.nil_append]
      exact .dropped (.inr ⟨rfl, List.all_eq_true.1 hblank⟩) ih
    | false =>
      rw [hother (by rw [Content.isBlank, hblank]), hnil]
      obtain ⟨c, hc, hcblank⟩ := List.all_eq_false.1 hblank
      exact .kept hne (.inr ⟨c, hc, Bool.eq_false_iff.2 hcblank⟩) ih
  | dropped hdropped _ ih => exact .dropped (hdropped.imp_right nofun) ih
  | skipped hcomment htext _ ih => exact .skipped hcomment htext ih

end Source.Depicts

/-! ### Nodes with the same below, less the blanks -/

/-- Where related items contribute lists of equal length, the pairs of what two of them contribute
are among all pairs. -/
theorem forall₂_zip_flatMap {α β γ δ : Type} {R : α → β → Prop} {g : α → List γ} {g' : β → List δ}
    {xs : List α} {ys : List β} (hlength : ∀ x y, R x y → (g x).length = (g' y).length)
    (h : List.Forall₂ R xs ys) :
    List.Forall₂ (fun x y ↦ R x y ∧ (g x).zip (g' y) ⊆ (xs.flatMap g).zip (ys.flatMap g'))
      xs ys := by
  induction h with
  | nil => exact .nil
  | cons hxy _ ih =>
    rw [List.flatMap_cons, List.flatMap_cons, List.zip_append (hlength _ _ hxy)]
    refine .cons ⟨hxy, List.subset_append_left _ _⟩ (List.Forall₂.imp (fun x y h ↦ ?_) ih)
    exact ⟨h.1, List.Subset.trans h.2 (List.subset_append_right _ _)⟩

namespace Forest

/-- The first node has the shape of the second one, less the blanks below. -/
def Stripped (f f' : Forest) (i i' : NodeId) : Prop :=
  f.shape i = (f'.shape i').pruned Content.isBlank

variable {f f' : Forest} {i i' : NodeId}

/-- The elements below are the same. -/
theorem Stripped.map_elements (h : f.Stripped f' i i') :
    (f.elements i).map f.content = (f'.elements i').map f'.content := by
  have hblank (c : Content) (hc : c.isBlank = true) : c.isElement = false := by
    cases c with
    | text s => rfl
    | _ => cases hc
  have hbranches : (f.shape i).branches = Tree.without Content.isBlank (f'.shape i').branches :=
    congrArg Tree.branches h
  rw [f.map_content_elements, f'.map_content_elements, hbranches, Tree.passing_without hblank]

theorem Stripped.length_elements (h : f.Stripped f' i i') :
    (f.elements i).length = (f'.elements i').length := by
  rw [← List.length_map f.content, h.map_elements, List.length_map]

/-- Where two lists of nodes have the same shapes, less the blanks, they correspond one by one. -/
theorem forall₂_stripped (hf' : f'.WellLinked) {cs cs' : List NodeId}
    (h : cs.map f.shape = Tree.without Content.isBlank (cs'.map f'.shape)) :
    List.Forall₂ (Stripped f f') cs (cs'.filter fun c ↦ !(f'.content c).isBlank) := by
  induction cs' generalizing cs with
  | nil =>
    rw [List.map_nil, Tree.without, List.map_eq_nil_iff] at h
    rw [h]
    exact .nil
  | cons c' rest ih =>
    rw [List.map_cons, hf'.shape_eq c', Tree.without] at h
    cases hblank : (f'.content c').isBlank with
    | true =>
      rw [hblank, if_pos rfl] at h
      rw [List.filter_cons_of_neg (by simp [hblank])]
      exact ih h
    | false =>
      rw [hblank, if_neg Bool.false_ne_true, List.singleton_append, List.map_eq_cons_iff] at h
      obtain ⟨c, cs, rfl, hc, hcs⟩ := h
      rw [List.filter_cons_of_pos (by simp [hblank])]
      refine .cons ?_ (ih hcs)
      rw [Stripped, hc, hf'.shape_eq c']
      rfl

namespace Stripped

variable (hf : f.WellLinked) (hf' : f'.WellLinked) (h : f.Stripped f' i i')

include hf hf' h

/-- The nodes are the same, and so are the shapes of their children, less the blanks. -/
theorem content_and_children : f.content i = f'.content i' ∧
    (f.children i).map f.shape =
      Tree.without Content.isBlank ((f'.children i').map f'.shape) := by
  rw [Stripped, hf.shape_eq, hf'.shape_eq] at h
  exact Tree.node.inj h

/-- The element children correspond one by one. -/
theorem forall₂_elementChildren :
    List.Forall₂ (Stripped f f') (f.elementChildren i) (f'.elementChildren i') := by
  have helements : f'.elementChildren i' =
      ((f'.children i').filter fun c ↦ !(f'.content c).isBlank).filter f'.isElement := by
    rw [elementChildren, List.filter_filter]
    refine List.filter_congr fun c _ ↦ ?_
    rw [isElement]
    cases f'.content c <;> simp [Content.isBlank, Content.isElement, Content.type]
  rw [helements]
  refine List.rel_filter (fun c c' hc ↦ ?_)
    (forall₂_stripped hf' (content_and_children hf hf' h).2)
  show (f.content c).isElement = true ↔ (f'.content c').isElement = true
  rw [(content_and_children hf hf' hc).1]

/-- The pairs of corresponding elements below two corresponding children are among the pairs of
those below their parents. -/
theorem forall₂_zip_elements :
    List.Forall₂ (fun c c' ↦ f.Stripped f' c c' ∧
        (c :: f.elements c).zip (c' :: f'.elements c') ⊆ (f.elements i).zip (f'.elements i'))
      (f.elementChildren i) (f'.elementChildren i') := by
  rw [hf.elements_eq i, hf'.elements_eq i']
  refine forall₂_zip_flatMap (fun c c' hc ↦ ?_) (forall₂_elementChildren hf hf' h)
  rw [List.length_cons, List.length_cons, hc.length_elements]

/-- Selections by a plain path from nodes with the same below, less the blanks, return what stands
at the same places among the elements. -/
theorem selects (hnamed : ∀ j, f.IsAbove i j → (f.content j).isNamed = true) {p : Path}
    (hp : p.Plain) :
    ∃ found found', f.Selects i p found ∧ f'.Selects i' p found' ∧
      List.Forall₂ (fun x x' ↦ ∃ k : Nat, (f.elements i)[k]? = some x ∧
        (f'.elements i')[k]? = some x') found found' := by
  -- a pair of nodes that is reached, the start excepted, is a pair of corresponding elements, and
  -- so are those below it
  let R (k : Nat) (c c' : NodeId) : Prop := f.IsAbove i c ∧ f.Stripped f' c c' ∧
    (f.elements c).zip (f'.elements c') ⊆ (f.elements i).zip (f'.elements i') ∧
    (k < p.length → (c, c') ∈ (f.elements i).zip (f'.elements i'))
  have hR : CarriesDown f f' R := by
    intro k c c' hcc
    obtain ⟨habove, hstripped, hsub, -⟩ := hcc
    have hchildren := (List.forall₂_and_left (p := (· ∈ f.elementChildren c)) _ _).2
      ⟨fun _ hd ↦ hd, forall₂_zip_elements hf hf' hstripped⟩
    refine List.Forall₂.imp (fun d d' hdd ↦ ?_) hchildren
    obtain ⟨hd, hstripped', hzip⟩ := hdd
    obtain ⟨hchild, helement⟩ := List.mem_filter.1 hd
    have habove' : f.IsAbove i d :=
      habove.trans (IsAbove.of_parent (hf.mem_children_iff.1 hchild))
    obtain ⟨name, attributes, hcontent⟩ :=
      Content.exists_eq_element helement (hnamed d habove')
    have hcontent' := (content_and_children hf hf' hstripped').1.symm.trans hcontent
    rw [List.zip_cons_cons, List.cons_subset] at hzip
    exact ⟨⟨name, attributes, attributes, hcontent, hcontent',
      Attributes.same_iff_get?.2 fun _ ↦ rfl⟩, habove', hstripped', List.Subset.trans hzip.2 hsub,
      fun _ ↦ hsub hzip.1⟩
  have hstart : R p.length i i' :=
    ⟨IsAbove.refl i, h, List.Subset.refl _, fun hlt ↦ absurd hlt (Nat.lt_irrefl _)⟩
  obtain ⟨found, found', hfound, hfound', hrelated⟩ := hR.selects hp hstart
  refine ⟨found, found', hfound, hfound', List.Forall₂.imp (fun x x' hxx ↦ ?_) hrelated⟩
  obtain ⟨k, hk⟩ := List.mem_iff_getElem?.1 (hxx.2.2.2 (Nat.zero_lt_succ _))
  exact ⟨k, List.getElem?_zip_eq_some.1 hk⟩

end Stripped

end Forest

/-! ### Two documents of one source -/

/-- The links agree, and everything below a document belongs to it. -/
structure Forest.Whole (f : Forest) (d : NodeId) : Prop where
  /-- The links agree. -/
  wellLinked : f.WellLinked
  /-- Everything below belongs to the document. -/
  owner_eq : ∀ i, f.IsAbove d i → i ≠ d → f.owner i = some d

/-- **Blanks make no difference but themselves.** Let a source be assembled twice, without blanks
and with them. Either some tag has no name, or some attribute value cannot be written, and both
assemblies fail in the same way; or both return. The first document is then the second without the
texts that are nothing but blanks, at all depths. The first has no such text, and the second no
empty one. The same elements come in the same order in both, and selections by a plain path return
what stands at the same places in that order. -/
theorem Builder.blanks_only (backend backend' : Option Backend) (sources : List Source)
    {w w' : Workshop} (hw : w.forest.WellLinked) (hw' : w'.forest.WellLinked) :
    (¬ (Source.Named sources ∧ Source.Writable sources) ∧ ∃ e v v',
      Source.fault? sources = some e ∧
        ((Builder.mk backend false).assemble sources).run w = .error e v ∧
        ((Builder.mk backend' true).assemble sources).run w' = .error e v') ∨
    (Source.Named sources ∧ Source.Writable sources ∧ ∃ d v d' v',
      ((Builder.mk backend false).assemble sources).run w = .ok d v ∧
        ((Builder.mk backend' true).assemble sources).run w' = .ok d' v' ∧
        v.forest.Whole d ∧ v'.forest.Whole d' ∧
        v.forest.shape d =
          ((v'.forest.subtree d').pruned fun i ↦ v'.forest.isBlankText i = .ok true).map
            v'.forest.content ∧
        (∀ i, v.forest.IsAbove d i → v.forest.isBlankText i ≠ .ok true) ∧
        (∀ i, v'.forest.IsAbove d' i → v'.forest.content i ≠ .text "") ∧
        (v.forest.elements d).map v.forest.content =
          (v'.forest.elements d').map v'.forest.content ∧
        ∀ p : Path, p.Plain → ∃ found found',
          v.forest.Selects d p found ∧ v'.forest.Selects d' p found' ∧
            List.Forall₂ (fun x x' ↦ ∃ k : Nat, (v.forest.elements d)[k]? = some x ∧
              (v'.forest.elements d')[k]? = some x') found found') := by
  cases hfault : Source.fault? sources with
  | none =>
    obtain ⟨hnamed, hwritable⟩ := Source.fault?_eq_none_iff.1 hfault
    obtain ⟨f, g, hrun, hf, hdepicts, hshape, howner⟩ :=
      Assembly.exists_run_fromSources false hfault hw
    obtain ⟨f', g', hrun', hf', hdepicts', hshape', howner'⟩ :=
      Assembly.exists_run_fromSources true hfault hw'
    have hstripped : f.Stripped f' w.forest.size w'.forest.size := by
      rw [Forest.Stripped, hshape, hshape', hdepicts.unique hdepicts'.without_blanks]
      rfl
    have hkept := hdepicts.kept_of_shape hf hshape
    have hkept' := hdepicts'.kept_of_shape hf' hshape'
    refine Or.inr ⟨hnamed, hwritable, _, _, _, _, hrun, hrun', ⟨hf, howner⟩, ⟨hf', howner'⟩, ?_,
      fun i hi hblank ↦ ?_, fun i hi hempty ↦ ?_, hstripped.map_elements, fun p hp ↦ ?_⟩
    · have hblank : (fun i ↦ decide (f'.isBlankText i = .ok true)) =
          fun i ↦ (f'.content i).isBlank := by
        funext i
        rw [Bool.eq_iff_iff, decide_eq_true_iff, Forest.isBlankText_eq_ok_iff]
      rw [hblank, Tree.map_pruned]
      exact hstripped
    · exact (hkept i hi).not_isBlank (Forest.isBlankText_eq_ok_iff.1 hblank)
    · exact (hkept' i hi).ne_empty hempty
    · exact hstripped.selects hf hf' (fun j hj ↦ (hkept j hj).isNamed) hp
  | some e =>
    obtain ⟨v, hrun⟩ := Assembly.exists_run_fromSources_fault false hfault hw
    obtain ⟨v', hrun'⟩ := Assembly.exists_run_fromSources_fault true hfault hw'
    refine Or.inl ⟨fun h ↦ ?_, e, v, v', rfl, hrun, hrun'⟩
    rw [Source.fault?_eq_none_iff.2 h] at hfault
    cases hfault

/-- Asks for the items of a list. -/
def itemPath : Path := ⟨.name "ul", [.name "li"]⟩

/-- The sample, assembled with its blanks and without them: the elements are the same, and as many
items are found in both. -/
theorem Builder.blanks_only_sample :
    (default : Workshop).forest.WellLinked ∧ itemPath.Plain ∧ ∃ d v d' v',
      ((Builder.mk none false).assemble sampleSources).run default = .ok d v ∧
        ((Builder.mk none true).assemble sampleSources).run default = .ok d' v' ∧
        (v.forest.elements d).map v.forest.content =
          (v'.forest.elements d').map v'.forest.content ∧
        ∃ found found', v.forest.Selects d itemPath found ∧ v'.forest.Selects d' itemPath found' ∧
          found.length = found'.length := by
  have hlinked : (default : Workshop).forest.WellLinked := Forest.wellLinked_empty
  have hnamed : Source.Named sampleSources := by simp [sampleSources, Source.Named]
  have hwritable : Source.Writable sampleSources := writable_sampleSources
  have hplain : itemPath.Plain :=
    List.forall_mem_cons.2 ⟨.name _, List.forall_mem_singleton.2 (.name _)⟩
  rcases Builder.blanks_only none none sampleSources hlinked hlinked with
    ⟨hnot, -⟩ | ⟨-, -, d, v, d', v', hrun, hrun', -, -, -, -, -, helements, hselects⟩
  · exact absurd ⟨hnamed, hwritable⟩ hnot
  · obtain ⟨found, found', hfound, hfound', hplaces⟩ := hselects itemPath hplain
    exact ⟨hlinked, hplain, d, v, d', v', hrun, hrun', helements, found, found', hfound, hfound',
      hplaces.length_eq⟩

end TreePath
