import TreePath.Proofs.Forest.Reachable
import TreePath.Proofs.Forest.Unfolding

/-!
# Climbing and descending

Two questions about a forest are answered by following links. Whether a node contains another one is
found out by climbing from parent to parent (`Climbs`), and the elements below a node are found by
descending from child to child (`Yields`). Nothing in the two walks says that they end; where the
links agree they do, and they come to what `Forest.contains` and `Forest.elements` say
(`WellLinked.climbs_iff`, `WellLinked.yields_iff`).

The elements come in the order of the document (`Precedes`): a node before what lies below it, and
everything below a child before everything below a later one. That no two nodes come before each
other is seen from their locations, which are put in alphabetical order by it
(`WellLinked.location_lt`).
-/

namespace TreePath

namespace Forest

variable {f : Forest}

/-! ### The walk upwards -/

/-- The search for a node, from another one upwards, comes to an end with an answer. -/
inductive Climbs (f : Forest) (a : NodeId) : Option NodeId → Bool → Prop
  /-- There is nothing further up. -/
  | ended : Climbs f a none false
  /-- The node is found. -/
  | found : Climbs f a (some a) true
  /-- The search goes on from the parent. -/
  | up {b : NodeId} {r : Bool} (hne : b ≠ a) (h : Climbs f a (f.parent b) r) : Climbs f a (some b) r

/-- What a climb comes to is determined. -/
theorem Climbs.unique {a : NodeId} {b : Option NodeId} {r r' : Bool} (h : f.Climbs a b r)
    (h' : f.Climbs a b r') : r = r' := by
  induction h with
  | ended =>
    cases h'
    rfl
  | found =>
    rcases h' with - | - | ⟨hne, -⟩
    · rfl
    · exact absurd rfl hne
  | up hne _ ih =>
    rcases h' with - | - | ⟨-, h'⟩
    · exact absurd rfl hne
    · exact ih h'

/-! ### The walk downwards -/

/-- The search for elements, through nodes side by side and what lies below those that are elements,
comes to an end and finds these. -/
inductive Yields (f : Forest) : List NodeId → List NodeId → Prop
  /-- There are no nodes. -/
  | nil : Yields f [] []
  /-- An element is found, then what lies below it, then the rest. -/
  | element {c : NodeId} {rest inside after : List NodeId} (hc : f.isElement c = true)
    (hinside : Yields f (f.children c) inside) (hafter : Yields f rest after) :
    Yields f (c :: rest) (c :: (inside ++ after))
  /-- Any other node is passed over with all that lies below it. -/
  | other {c : NodeId} {rest after : List NodeId} (hc : f.isElement c = false)
    (hafter : Yields f rest after) : Yields f (c :: rest) after

/-- So is what a walk yields. -/
theorem Yields.unique {is es es' : List NodeId} (h : f.Yields is es) (h' : f.Yields is es') :
    es = es' := by
  induction h generalizing es' with
  | nil =>
    cases h'
    rfl
  | element hc _ _ ihinside ihafter =>
    rcases h' with - | ⟨-, hinside, hafter⟩ | ⟨hc', -⟩
    · rw [ihinside hinside, ihafter hafter]
    · exact absurd (hc.symm.trans hc') Bool.noConfusion
  | other hc _ ih =>
    rcases h' with - | ⟨hc', -, -⟩ | ⟨-, hafter⟩
    · exact absurd (hc.symm.trans hc') Bool.noConfusion
    · exact ih hafter

/-! ### The order of the document -/

/-- One node comes before another in the document. -/
inductive Precedes (f : Forest) : NodeId → NodeId → Prop
  /-- It lies above the other. -/
  | above {x y : NodeId} (h : f.IsAbove x y) (hne : x ≠ y) : Precedes f x y
  /-- It is, or lies below, a child that stands before the one that the other is or lies below. -/
  | aside {p c d x y : NodeId} (hcd : [c, d].Sublist (f.children p)) (hx : f.IsAbove c x)
    (hy : f.IsAbove d y) : Precedes f x y

namespace WellLinked

variable (hf : f.WellLinked)

include hf

/-! ### Both walks end -/

/-- To prove a property of every node, prove it of a node whose parent, if any, has it. -/
theorem above_induction {motive : NodeId → Prop}
    (h : ∀ i, (∀ p, f.parent i = some p → motive p) → motive i) (i : NodeId) : motive i := by
  induction hi : (f.lineage i).length using Nat.strongRecOn generalizing i with
  | ind n ih =>
    refine h i fun p hp ↦ ih (f.lineage p).length ?_ p rfl
    rw [← hi, hf.lineage_of_parent hp, List.length_cons]
    exact Nat.lt_succ_self _

/-- A node contains another one if it is that one or contains its parent. -/
theorem contains_eq (a b : NodeId) :
    f.contains a (some b) = (a == b || f.contains a (f.parent b)) := by
  show (f.lineage b).contains a = _
  rw [hf.lineage_eq b, List.contains_cons]
  cases f.parent b <;> rfl

/-- The test for containment climbs. -/
theorem climbs_contains (a b : NodeId) : f.Climbs a (some b) (f.contains a (some b)) := by
  induction b using hf.above_induction with
  | h b ih =>
    rw [hf.contains_eq]
    by_cases hab : a = b
    · rw [hab, beq_self_eq_true, Bool.true_or]
      exact .found
    · rw [beq_eq_false_iff_ne.2 hab, Bool.false_or]
      refine .up (Ne.symm hab) ?_
      cases hp : f.parent b with
      | none => exact .ended
      | some p => exact ih p hp

/-- The climb ends, and its answer is whether the node contains the other one. -/
theorem climbs_iff {a b : NodeId} {r : Bool} :
    f.Climbs a (some b) r ↔ f.contains a (some b) = r := by
  constructor
  · exact (hf.climbs_contains a b).unique
  · rintro rfl
    exact hf.climbs_contains a b

/-- The search for elements yields what it should. -/
theorem yields_elements (i : NodeId) : f.Yields (f.children i) (f.elements i) := by
  induction i using hf.below_induction with
  | h i ih =>
    rw [hf.elements_eq, elementChildren]
    generalize f.children i = is at ih
    induction is with
    | nil => exact .nil
    | cons c rest ihrest =>
      rw [List.forall_mem_cons] at ih
      cases hc : f.isElement c with
      | true =>
        rw [List.filter_cons_of_pos hc, List.flatMap_cons]
        exact .element hc ih.1 (ihrest ih.2)
      | false =>
        rw [List.filter_cons_of_neg (by simp [hc])]
        exact .other hc (ihrest ih.2)

/-- The descent ends, and what it finds are the elements below the node. -/
theorem yields_iff {i : NodeId} {es : List NodeId} :
    f.Yields (f.children i) es ↔ f.elements i = es := by
  constructor
  · exact (hf.yields_elements i).unique
  · rintro rfl
    exact hf.yields_elements i

/-- What a node contains is what its children lead to. -/
theorem contains_iff_children {a b : NodeId} :
    f.contains a (some b) = true ↔ Relation.ReflTransGen (fun p c ↦ c ∈ f.children p) a b := by
  have hchild : (fun p c ↦ c ∈ f.children p) = f.IsParent := by
    funext p c
    exact propext hf.mem_children_iff
  rw [hf.contains_iff, hchild]
  rfl

/-! ### Which elements are found -/

/-- What lies below a node and is not the node itself lies below one of its children. -/
theorem eq_or_child {a b : NodeId} (h : f.IsAbove a b) :
    a = b ∨ ∃ c ∈ f.children a, f.IsAbove c b := by
  rcases Relation.ReflTransGen.cases_head h with heq | ⟨c, hac, hcb⟩
  · exact Or.inl heq
  · exact Or.inr ⟨c, hf.mem_children_iff.2 hac, hcb⟩

/-- Two nodes that lie above each other are one. -/
theorem isAbove_antisymm {a b : NodeId} (hab : f.IsAbove a b) (hba : f.IsAbove b a) : a = b := by
  rcases hba.eq_or_parent with heq | ⟨p, hp, hbp⟩
  · exact heq.symm
  · exact absurd (hab.trans hbp) (hf.not_isAbove_parent hp)

/-- No node is found below itself. -/
theorem ne_of_mem_elements {i x : NodeId} (h : x ∈ f.elements i) : x ≠ i := by
  rintro rfl
  rw [hf.elements_eq, List.mem_flatMap] at h
  obtain ⟨c, hc, hx⟩ := h
  have hparent := hf.mem_children_iff.1 (List.mem_of_mem_filter hc)
  exact hf.not_isAbove_parent hparent (hf.isAbove_of_mem_elements hx)

/-- The elements below a node are those elements that lie below it with nothing but elements in
between. -/
theorem mem_elements_iff {i x : NodeId} :
    x ∈ f.elements i ↔ f.isElement x = true ∧ x ≠ i ∧ f.IsAbove i x ∧
      ∀ y, y ≠ i → y ≠ x → f.IsAbove i y → f.IsAbove y x → f.isElement y = true := by
  induction i using hf.below_induction with
  | h i ih =>
    constructor
    · intro h
      have habove : f.IsAbove i x := hf.isAbove_of_mem_elements (List.mem_cons_of_mem i h)
      have hne : x ≠ i := hf.ne_of_mem_elements h
      rw [hf.elements_eq, List.mem_flatMap] at h
      obtain ⟨c, hc, hx⟩ := h
      obtain ⟨hchild, helement⟩ := List.mem_filter.1 hc
      have hparent := hf.mem_children_iff.1 hchild
      have hcx : f.IsAbove c x := hf.isAbove_of_mem_elements hx
      -- what lies in between lies below the child that `x` lies below
      have hbetween {y : NodeId} (hyi : y ≠ i) (hiy : f.IsAbove i y) (hyx : f.IsAbove y x) :
          f.IsAbove c y := by
        obtain ⟨d, hd, hdy⟩ := (hf.eq_or_child hiy).resolve_left (Ne.symm hyi)
        rwa [hf.eq_of_isAbove hparent (hf.mem_children_iff.1 hd) hcx (hdy.trans hyx)]
      rcases List.mem_cons.1 hx with rfl | hx
      · refine ⟨helement, hne, habove, fun y hyi hyx hiy hyx' ↦ ?_⟩
        exact absurd (hf.isAbove_antisymm hyx' (hbetween hyi hiy hyx')) hyx
      · obtain ⟨hxelement, -, -, hinside⟩ := (ih c hchild).1 hx
        refine ⟨hxelement, hne, habove, fun y hyi hyx hiy hyx' ↦ ?_⟩
        by_cases hyc : y = c
        · rwa [hyc]
        · exact hinside y hyc hyx (hbetween hyi hiy hyx') hyx'
    · rintro ⟨hxelement, hne, habove, hinside⟩
      obtain ⟨c, hchild, hcx⟩ := (hf.eq_or_child habove).resolve_left (Ne.symm hne)
      have hparent := hf.mem_children_iff.1 hchild
      have hbelow (y : NodeId) (hcy : f.IsAbove c y) : y ≠ i := by
        rintro rfl
        exact hf.not_isAbove_parent hparent hcy
      have hic : f.IsAbove i c := IsAbove.of_parent hparent
      rw [hf.elements_eq, List.mem_flatMap]
      by_cases hxc : x = c
      · subst hxc
        exact ⟨x, List.mem_filter.2 ⟨hchild, hxelement⟩, List.mem_cons_self⟩
      · have helement : f.isElement c = true :=
          hinside c (hbelow c (IsAbove.refl c)) (Ne.symm hxc) hic hcx
        refine ⟨c, List.mem_filter.2 ⟨hchild, helement⟩, List.mem_cons_of_mem c ?_⟩
        refine (ih c hchild).2 ⟨hxelement, hxc, hcx, fun y hyc hyx hcy hyx' ↦ ?_⟩
        exact hinside y (hbelow y hcy) hyx (hic.trans hcy) hyx'

/-! ### In which order they are found -/

/-- Where a child stands: where its parent does, and which child of it. -/
theorem location_of_parent {p c : NodeId} (h : f.parent c = some p) :
    f.location c = f.location p ++ [f.place c] := by
  have hsome : (f.parent c).isSome = true := by rw [h, Option.isSome_some]
  rw [location, location, hf.lineage_of_parent h, List.filter_cons, if_pos hsome,
    List.reverse_cons, List.map_append, List.map_singleton]

/-- The way down to a node goes on from the way down to any node above it. -/
theorem exists_location_eq {a b : NodeId} (h : f.IsAbove a b) :
    ∃ ks, f.location b = f.location a ++ ks := by
  induction h with
  | refl => exact ⟨[], (List.append_nil _).symm⟩
  | tail _ hp ih =>
    obtain ⟨ks, hks⟩ := ih
    exact ⟨ks ++ [_], by rw [hf.location_of_parent hp, hks, List.append_assoc]⟩

/-- The way down to what lies below a child leads through the child's place. -/
theorem exists_location_of_child {p c x : NodeId} (hc : f.parent c = some p)
    (hx : f.IsAbove c x) : ∃ ks, f.location x = f.location p ++ f.place c :: ks := by
  obtain ⟨ks, hks⟩ := hf.exists_location_eq hx
  refine ⟨ks, ?_⟩
  rw [hks, hf.location_of_parent hc, List.append_assoc, List.singleton_append]

/-- A child that comes before another has the lower place. -/
theorem place_lt {p c d : NodeId} (h : [c, d].Sublist (f.children p)) : f.place c < f.place d := by
  have hplace {x : NodeId} (hx : x ∈ f.children p) : f.place x = (f.children p).idxOf x := by
    rw [place, hf.mem_children_iff.1 hx]
  rw [hplace (h.subset List.mem_cons_self),
    hplace (h.subset (List.mem_cons_of_mem c List.mem_cons_self))]
  obtain ⟨as, bs, hsplit, hc, hd⟩ := List.cons_sublist_iff.1 h
  rw [List.singleton_sublist] at hd
  have hnodup := hf.nodup_children p
  rw [hsplit, List.nodup_append] at hnodup
  have hdas : d ∉ as := fun hmem ↦ hnodup.2.2 d hmem d hd rfl
  rw [hsplit, List.idxOf_append, List.idxOf_append, if_pos hc, if_neg hdas]
  have hlt := List.idxOf_lt_length_of_mem hc
  omega

/-- The order of the document is the alphabetical order of locations. -/
theorem location_lt {x y : NodeId} (h : f.Precedes x y) : f.location x < f.location y := by
  rcases h with ⟨h, hne⟩ | ⟨hcd, hx, hy⟩
  · obtain ⟨c, hc, hcy⟩ := (hf.eq_or_child h).resolve_left hne
    obtain ⟨ks, hks⟩ := hf.exists_location_of_child (hf.mem_children_iff.1 hc) hcy
    have hlt : f.location x ++ [] < f.location x ++ f.place c :: ks :=
      List.append_left_lt (List.nil_lt_cons (f.place c) ks)
    rwa [List.append_nil, ← hks] at hlt
  · have hc := hcd.subset List.mem_cons_self
    have hd := hcd.subset (List.mem_cons_of_mem _ List.mem_cons_self)
    obtain ⟨ks, hks⟩ := hf.exists_location_of_child (hf.mem_children_iff.1 hc) hx
    obtain ⟨ls, hls⟩ := hf.exists_location_of_child (hf.mem_children_iff.1 hd) hy
    rw [hks, hls]
    exact List.append_left_lt (List.cons_lt_cons_iff.2 (Or.inl (hf.place_lt hcd)))

/-- No two nodes come before each other. -/
theorem not_precedes_of_precedes {x y : NodeId} (h : f.Precedes x y) : ¬ f.Precedes y x :=
  fun h' ↦ List.lt_asymm (hf.location_lt h) (hf.location_lt h')

/-- The elements are found in the order of the document. -/
theorem pairwise_precedes_elements (i : NodeId) : (f.elements i).Pairwise f.Precedes := by
  induction i using hf.below_induction with
  | h i ih =>
    rw [hf.elements_eq, List.pairwise_flatMap]
    constructor
    · intro c hc
      refine List.pairwise_cons.2 ⟨fun x hx ↦ ?_, ih c (List.mem_of_mem_filter hc)⟩
      have habove : f.IsAbove c x := hf.isAbove_of_mem_elements (List.mem_cons_of_mem c hx)
      exact .above habove (Ne.symm (hf.ne_of_mem_elements hx))
    · refine List.pairwise_iff_forall_sublist.2 fun {c d} hcd x hx y hy ↦ ?_
      exact .aside (hcd.trans List.filter_sublist) (hf.isAbove_of_mem_elements hx)
        (hf.isAbove_of_mem_elements hy)

/-- Of two elements below a node, the one that comes first in the document is found first. -/
theorem sublist_elements_iff {i x y : NodeId} :
    [x, y].Sublist (f.elements i) ↔
      x ∈ f.elements i ∧ y ∈ f.elements i ∧ f.Precedes x y := by
  have hpairwise : ∀ {c d : NodeId}, [c, d].Sublist (f.elements i) → f.Precedes c d :=
    List.pairwise_iff_forall_sublist.1 (hf.pairwise_precedes_elements i)
  constructor
  · intro h
    exact ⟨h.subset List.mem_cons_self, h.subset (List.mem_cons_of_mem x List.mem_cons_self),
      hpairwise h⟩
  · rintro ⟨hx, hy, hxy⟩
    obtain ⟨before, after, hsplit⟩ := List.append_of_mem hx
    rw [hsplit] at hpairwise hy ⊢
    rcases List.mem_append.1 hy with hy | hy
    · -- the other one found first would come before this one, too
      have hyx : [y, x].Sublist (before ++ x :: after) :=
        (List.singleton_sublist.2 hy).append (List.singleton_sublist.2 List.mem_cons_self)
      exact absurd (hpairwise hyx) (hf.not_precedes_of_precedes hxy)
    · rcases List.mem_cons.1 hy with rfl | hy
      · exact absurd hxy (hf.not_precedes_of_precedes hxy)
      · exact ((List.singleton_sublist.2 hy).cons_cons x).trans (List.sublist_append_right _ _)

end WellLinked

/-! ### The walks of a reachable forest -/

/-- **Climbing and descending agree.** In a reachable forest both walks end. The climb finds a node
exactly if the other one is that node or is reached from it through lists of children. The descent
finds each element once that is reached below the node through elements only; and it finds an
element before everything below it, and everything below a child before everything below a later
one. -/
theorem walks_agree (h : f.Reachable) :
    (∀ a b r, f.Climbs a (some b) r ↔ f.contains a (some b) = r) ∧
      (∀ a b, f.contains a (some b) = true ↔
        Relation.ReflTransGen (fun p c ↦ c ∈ f.children p) a b) ∧
      (∀ a es, f.Yields (f.children a) es ↔ f.elements a = es) ∧
      ∀ a, (f.elements a).Nodup ∧
        (∀ e, e ∈ f.elements a ↔ f.isElement e = true ∧ e ≠ a ∧ f.contains a (some e) = true ∧
          ∀ x, x ≠ a → x ≠ e → f.contains a (some x) = true → f.contains x (some e) = true →
            f.isElement x = true) ∧
        ∀ x y, [x, y].Sublist (f.elements a) ↔
          x ∈ f.elements a ∧ y ∈ f.elements a ∧ f.Precedes x y := by
  have hf := h.wellLinked
  refine ⟨fun a b r ↦ hf.climbs_iff, fun a b ↦ hf.contains_iff_children,
    fun a es ↦ hf.yields_iff, fun a ↦ ⟨hf.nodup_elements a, fun e ↦ ?_, fun x y ↦ ?_⟩⟩
  · simp only [hf.contains_iff]
    exact hf.mem_elements_iff
  · exact hf.sublist_elements_iff

/-- A document with an element in it, which holds a comment and another element; a third element
hangs below the comment. -/
def sampleThicket : List Call :=
  [.create (.ok (.document [])) none, .create (.ok (.element "a" .empty)) none,
    .create (.ok (.comment "m")) none, .create (.ok (.element "b" .empty)) none,
    .create (.ok (.element "c" .empty)) none, .append 0 (some 1), .append 1 (some 4),
    .insert 1 (some 2) (some 4), .append 2 (some 3)]

/-- The climb from the element below the comment finds the document, but the descent from the
document does not find that element. -/
theorem walks_agree_thicket :
    (Call.run .empty sampleThicket).Reachable ∧
      (Call.run .empty sampleThicket).Climbs 0 (some 3) true ∧
      Relation.ReflTransGen (fun p c ↦ c ∈ (Call.run .empty sampleThicket).children p) 0 3 ∧
      (Call.run .empty sampleThicket).Yields [1] [1, 4] ∧
      (Call.run .empty sampleThicket).isElement 3 = true ∧
      3 ∉ (Call.run .empty sampleThicket).elements 0 ∧
      (Call.run .empty sampleThicket).Precedes 1 4 := by
  have hreach : (Call.run .empty sampleThicket).Reachable := ⟨sampleThicket, by decide, rfl⟩
  obtain ⟨hclimb, hreached, hdescent, helements⟩ := walks_agree hreach
  obtain ⟨-, hmem, hsublist⟩ := helements 0
  have hlast : (Call.run .empty sampleThicket).Yields [4] (4 :: ([] ++ [])) :=
    .element rfl .nil .nil
  have hyields : (Call.run .empty sampleThicket).Yields [1] (1 :: ([4] ++ [])) :=
    .element rfl (.other rfl hlast) .nil
  have hfound : (Call.run .empty sampleThicket).elements 0 = [1, 4] := (hdescent 0 [1, 4]).1 hyields
  rw [hfound] at hmem hsublist ⊢
  refine ⟨hreach, (hclimb 0 3 true).2 (by decide), (hreached 0 3).1 (by decide), hyields,
    by decide, fun h3 ↦ ?_, ((hsublist 1 4).1 (List.Sublist.refl _)).2.2⟩
  have hcomment := ((hmem 3).1 h3).2.2.2 2 (by decide) (by decide) (by decide) (by decide)
  exact absurd hcomment (by decide)

end Forest

end TreePath
