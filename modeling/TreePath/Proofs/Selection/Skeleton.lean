import TreePath.Proofs.Selection.Plain

/-!
# What a selection depends on

A selection by a plain path of `k` steps looks at the element children of the start node, at theirs,
and so on, `k` levels deep, and of each at its name and attributes. Two start nodes that agree so
far (`Forest.AlikeTo`) need not agree in anything else: not in what they are themselves, nor in the
texts and comments between their elements, nor in anything deeper. From both, selections by the path
return what stands at the same places, in the same order (`Forest.skeleton_decides`). A place is
told by the numbers of the elements on the way, each among the element children of the one before
(`Forest.elementAt?`).

The argument is a simulation (`Forest.CarriesDown`): a relation that carries over from two nodes to
their element children, one by one, carries over to what selections from them return.
-/

namespace TreePath

/-- Equal attributes hold the same. -/
theorem Attributes.within_congr_right {a b : Attributes} (h : a.same b = true) (c : Attributes) :
    c.within a = c.within b := by
  have hget := Attributes.same_iff_get?.1 h
  rw [Bool.eq_iff_iff, Attributes.within_iff, Attributes.within_iff]
  simp only [hget]

namespace Forest

variable {f f' : Forest}

/-! ### Skeletons -/

/-- Two elements, one of each forest, have the same name and, in whatever order, the same
attributes. -/
def SameTag (f f' : Forest) (c c' : NodeId) : Prop :=
  ∃ name attributes attributes', f.content c = .element name attributes ∧
    f'.content c' = .element name attributes' ∧ attributes.same attributes' = true

/-- The element children of two nodes, one of each forest, have the same tags in the same order, and
so have theirs, down to so many levels. -/
def AlikeTo (f f' : Forest) : Nat → NodeId → NodeId → Prop
  | 0, _, _ => True
  | k + 1, i, i' =>
    List.Forall₂ (fun c c' ↦ SameTag f f' c c' ∧ AlikeTo f f' k c c') (f.elementChildren i)
      (f'.elementChildren i')

/-- The node that places among element children lead to. -/
def elementAt? (f : Forest) : NodeId → List Nat → Option NodeId
  | i, [] => some i
  | i, k :: ks => (f.elementChildren i)[k]?.bind fun c ↦ elementAt? f c ks

theorem elementAt?_append (i : NodeId) (ks ls : List Nat) :
    f.elementAt? i (ks ++ ls) = (f.elementAt? i ks).bind fun c ↦ f.elementAt? c ls := by
  induction ks generalizing i with
  | nil => rfl
  | cons k ks ih =>
    rw [List.cons_append, elementAt?, elementAt?]
    cases (f.elementChildren i)[k]? with
    | none => rfl
    | some c => exact ih c

/-- Elements with the same tag pass the same steps. -/
theorem SameTag.suits_eq {c c' : NodeId} (h : SameTag f f' c c') (s : Step) :
    (f.content c).suits s = (f'.content c').suits s := by
  obtain ⟨name, attributes, attributes', hc, hc', hsame⟩ := h
  have hhas : (f.content c).has = (f'.content c').has := by
    funext l
    rw [hc, hc']
    cases l with
    | attributes wanted => exact Attributes.within_congr_right hsame wanted
    | _ => rfl
  rw [Content.suits, Content.suits, hhas]

theorem SameTag.symm {c c' : NodeId} (h : SameTag f f' c c') : SameTag f' f c' c := by
  obtain ⟨name, attributes, attributes', hc, hc', hsame⟩ := h
  refine ⟨name, attributes', attributes, hc', hc, ?_⟩
  rwa [Attributes.same, Bool.and_comm]

theorem AlikeTo.symm {k : Nat} {i i' : NodeId} (h : AlikeTo f f' k i i') :
    AlikeTo f' f k i' i := by
  induction k generalizing i i' with
  | zero => trivial
  | succ k ih =>
    refine List.Forall₂.flip (List.Forall₂.imp (fun c c' hcc ↦ ?_) h)
    exact ⟨hcc.1.symm, ih hcc.2⟩

/-- What is alike to something has named elements below it. -/
theorem AlikeTo.namedTo {k : Nat} {i i' : NodeId} (h : AlikeTo f f' k i i') : f.NamedTo k i := by
  induction k generalizing i i' with
  | zero => trivial
  | succ k ih =>
    have hnamed : List.Forall₂
        (fun c _ ↦ ((f.content c).isNamed = true ∧ f.NamedTo k c) ∧ True) (f.elementChildren i)
        (f'.elementChildren i') := by
      refine List.Forall₂.imp (fun c c' hcc ↦ ?_) h
      obtain ⟨⟨name, attributes, attributes', hc, -⟩, hbelow⟩ := hcc
      exact ⟨⟨by rw [hc]; rfl, ih hbelow⟩, trivial⟩
    exact ((List.forall₂_and_left _ _).1 hnamed).1

/-! ### The simulation -/

/-- A relation between nodes of two forests, with the number of levels that are still to be looked
at, carries over to their element children, one by one and one level less deep, and related children
have the same tags. -/
def CarriesDown (f f' : Forest) (R : Nat → NodeId → NodeId → Prop) : Prop :=
  ∀ {k i i'}, R (k + 1) i i' →
    List.Forall₂ (fun c c' ↦ SameTag f f' c c' ∧ R k c c') (f.elementChildren i)
      (f'.elementChildren i')

namespace CarriesDown

variable {R : Nat → NodeId → NodeId → Prop} (hR : CarriesDown f f' R)

include hR

theorem alikeTo {k : Nat} {i i' : NodeId} (h : R k i i') : AlikeTo f f' k i i' := by
  induction k generalizing i i' with
  | zero => trivial
  | succ k ih => exact List.Forall₂.imp (fun c c' hcc ↦ ⟨hcc.1, ih hcc.2⟩) (hR h)

/-- What the same steps reach from related nodes is related. -/
theorem forall₂_reach (steps : List Step) {i i' : NodeId} (h : R steps.length i i') :
    List.Forall₂ (R 0) (f.reach f.answers steps i) (f'.reach f'.answers steps i') := by
  induction steps generalizing i i' with
  | nil => exact .cons h .nil
  | cons s rest ih =>
    have hpassing : List.Forall₂ (fun c c' ↦ SameTag f f' c c' ∧ R rest.length c c')
        (f.passing f.answers s i) (f'.passing f'.answers s i') := by
      refine List.rel_filter (fun c c' hcc ↦ ?_) (hR h)
      show (f.content c).suits s = true ↔ (f'.content c').suits s = true
      rw [hcc.1.suits_eq]
    exact List.rel_flatMap hpassing fun c c' hcc ↦ ih hcc.2

/-- So is what selections by a plain path return. -/
theorem selects {i i' : NodeId} {p : Path} (hp : p.Plain) (h : R p.length i i') :
    ∃ found found', f.Selects i p found ∧ f'.Selects i' p found' ∧
      List.Forall₂ (R 0) found found' := by
  have halike := hR.alikeTo h
  exact ⟨_, _, halike.namedTo.selects hp, halike.symm.namedTo.selects hp,
    hR.forall₂_reach p.steps h⟩

end CarriesDown

/-- What stands at the same places in two lists. -/
theorem forall₂_places {α β : Type} {R : α → β → Prop} {xs : List α} {ys : List β}
    (h : List.Forall₂ R xs ys) :
    List.Forall₂ (fun x y ↦ R x y ∧ ∃ k : Nat, xs[k]? = some x ∧ ys[k]? = some y) xs ys := by
  obtain ⟨hlength, hget⟩ := List.forall₂_iff_get.1 h
  refine List.forall₂_iff_get.2 ⟨hlength, fun k hx hy ↦ ⟨hget k hx hy, k, ?_, ?_⟩⟩
  · exact List.getElem?_eq_getElem hx
  · exact List.getElem?_eq_getElem hy

/-- **The skeleton near the start decides.** If the element children of two nodes, theirs, and so on
as deep as a plain path has steps, have the same names and attributes in the same order, selections
by the path from both return, whatever the engine, and what they return stands at the same places
below the start, in the same order. -/
theorem skeleton_decides {i i' : NodeId} {p : Path} (hp : p.Plain)
    (h : AlikeTo f f' p.length i i') :
    ∃ found found', f.Selects i p found ∧ f'.Selects i' p found' ∧
      List.Forall₂ (fun x x' ↦ ∃ ks, ks.length = p.length ∧ f.elementAt? i ks = some x ∧
        f'.elementAt? i' ks = some x') found found' := by
  -- the same places lead to two nodes, from which so many levels are still alike
  let R (k : Nat) (c c' : NodeId) : Prop := AlikeTo f f' k c c' ∧
    ∃ ks, ks.length + k = p.length ∧ f.elementAt? i ks = some c ∧ f'.elementAt? i' ks = some c'
  have hR : CarriesDown f f' R := by
    intro k c c' hcc
    obtain ⟨halike, ks, hlength, hc, hc'⟩ := hcc
    refine List.Forall₂.imp (fun d d' hdd ↦ ?_) (forall₂_places halike)
    obtain ⟨⟨htag, hbelow⟩, j, hj, hj'⟩ := hdd
    refine ⟨htag, hbelow, ks ++ [j], ?_, ?_, ?_⟩
    · rw [List.length_append, List.length_singleton]
      omega
    · rw [elementAt?_append, hc, Option.bind_some, elementAt?, hj]
      rfl
    · rw [elementAt?_append, hc', Option.bind_some, elementAt?, hj']
      rfl
  have hstart : R p.length i i' := ⟨h, [], Nat.zero_add _, rfl, rfl⟩
  obtain ⟨found, found', hfound, hfound', hrelated⟩ := hR.selects hp hstart
  refine ⟨found, found', hfound, hfound', List.Forall₂.imp (fun x x' hxx ↦ ?_) hrelated⟩
  obtain ⟨-, ks, hlength, hx, hx'⟩ := hxx
  exact ⟨ks, hlength, hx, hx'⟩

/-- A document with one element, which is empty. -/
def tersePage : Forest := Call.run .empty
  [.create (.ok (.document [])) none,
    .create (.ok (.element "a" (.ofPairs [("x", "1"), ("y", "2")]))) none, .append 0 (some 1)]

/-- An element with a text and the same element in it, which is not empty and whose attributes are
in another order. -/
def wordyPage : Forest := Call.run .empty
  [.create (.ok (.element "div" .empty)) none, .create (.ok (.text "t")) none,
    .create (.ok (.element "a" (.ofPairs [("y", "2"), ("x", "1")]))) none,
    .create (.ok (.element "b" .empty)) none, .append 0 (some 1), .append 0 (some 2),
    .append 2 (some 3)]

/-- Asks for the name and one of the attributes of the common element. -/
def pagePath : Path := ⟨.all [.name "a", .attributes (.ofPairs [("y", "2")])], []⟩

/-- In the terse page and in the wordy one, the path finds the first element child of the start. -/
theorem skeleton_decides_pages :
    pagePath.Plain ∧ AlikeTo tersePage wordyPage pagePath.length 0 0 ∧
      tersePage.Selects 0 pagePath [1] ∧ wordyPage.Selects 0 pagePath [2] ∧
      ∃ ks, tersePage.elementAt? 0 ks = some 1 ∧ wordyPage.elementAt? 0 ks = some 2 := by
  have hplain : pagePath.Plain := by
    refine List.forall_mem_singleton.2 (.all (List.forall_mem_cons.2 ⟨.name _, ?_⟩))
    exact List.forall_mem_singleton.2 (.attributes _)
  have htag : SameTag tersePage wordyPage 1 2 := ⟨"a", _, _, rfl, rfl, by decide⟩
  have hterse : tersePage.elementChildren 0 = [1] := by decide
  have hwordy : wordyPage.elementChildren 0 = [2] := by decide
  have halike : AlikeTo tersePage wordyPage pagePath.length 0 0 := by
    show List.Forall₂ _ (tersePage.elementChildren 0) (wordyPage.elementChildren 0)
    rw [hterse, hwordy]
    exact .cons ⟨htag, trivial⟩ .nil
  obtain ⟨found, found', h, h', hplaces⟩ := skeleton_decides hplain halike
  have hfound : found = [1] := h.unique (halike.namedTo.selects hplain)
  have hfound' : found' = [2] := h'.unique (halike.symm.namedTo.selects hplain)
  subst hfound hfound'
  obtain ⟨ks, -, hk, hk'⟩ := (List.forall₂_cons.1 hplaces).1
  exact ⟨hplain, halike, h, h', ks, hk, hk'⟩

end Forest

end TreePath
