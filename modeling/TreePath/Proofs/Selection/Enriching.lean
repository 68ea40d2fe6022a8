import TreePath.Forest.Access
import TreePath.Proofs.Selection.Plain

/-!
# Attributes under new names

Elements are given attributes under names that they did not have (`Assignment.New`). What a test
asks for is never that an attribute is missing, so an element that passed a plain step still passes
it, and others may pass it too (`Forest.Enriched.test`). What is reached by a plain path is then
reached from the same nodes as before, with something more between: in the same order. If no
attribute test of the path asks for one of the new names, no test is changed, and a selection is the
same computation as before.

Elements that newly pass a step bring in what is below them, and if that is a node of the element
kind without a name, its test is a fault. So a selection that returned may be ended by a fault once
the attributes are set (`not_selects_after_assignments`), unless all elements have names.
-/

namespace TreePath

open SelectM

/-! ### More attributes -/

section Enriched

variable {names : List String}

/-- Attributes have become more: nothing is added but under some new names. -/
def Attributes.Extended (names : List String) (a a' : Attributes) : Prop :=
  ∀ name, a'.get? name = a.get? name ∨ a.get? name = none ∧ name ∈ names

/-- A node has got attributes under some new names. -/
inductive Content.Enriched (names : List String) : Content → Content → Prop
  /-- It is what it was. -/
  | same (c : Content) : Enriched names c c
  /-- It is an element. -/
  | element (name : String) {a a' : Attributes} (h : a.Extended names a') :
    Enriched names (.element name a) (.element name a')

/-- Elements of a forest have got attributes under some new names. -/
structure Forest.Enriched (names : List String) (f f' : Forest) : Prop where
  /-- The nodes stand where they stood. -/
  children_eq : ∀ i, f.children i = f'.children i
  /-- Nothing but attributes was added to them. -/
  content : ∀ i, (f.content i).Enriched names (f'.content i)

/-- A step asks for an attribute of this name. -/
def Step.AsksFor (s : Step) (name : String) : Prop :=
  ∃ wanted, attributes wanted ∈ s.leaves ∧ wanted.get? name ≠ none

/-- A step of a path asks for an attribute of this name. -/
def Path.AsksFor (p : Path) (name : String) : Prop := ∃ s ∈ p.steps, s.AsksFor name

namespace Attributes.Extended

variable {a a' : Attributes}

theorem refl (a : Attributes) : a.Extended names a := fun _ ↦ Or.inl rfl

theorem put (h : a.Extended names a') {name : String} (hname : name ∈ names)
    (hnew : a.get? name = none) (value : String) : a.Extended names (a'.put name value) := by
  intro k
  by_cases hk : k = name
  · exact Or.inr ⟨hk ▸ hnew, hk ▸ hname⟩
  · rw [get?_put_of_ne _ _ hk]
    exact h k

theorem within_of_within (h : a.Extended names a') {wanted : Attributes}
    (hwithin : wanted.within a = true) : wanted.within a' = true := by
  rw [within_iff] at hwithin ⊢
  intro name value hget
  have hold := hwithin name value hget
  rcases h name with hsame | ⟨hnone, -⟩
  · rw [hsame, hold]
  · cases hnone.symm.trans hold

theorem within_eq (h : a.Extended names a') {wanted : Attributes}
    (hwanted : ∀ name ∈ names, wanted.get? name = none) : wanted.within a' = wanted.within a := by
  rw [Bool.eq_iff_iff, within_iff, within_iff]
  refine forall₂_congr fun name value ↦ imp_congr_right fun hget ↦ ?_
  rcases h name with hsame | ⟨-, hname⟩
  · rw [hsame]
  · cases (hwanted name hname).symm.trans hget

end Attributes.Extended

namespace Content

/-- What an element passed, it passes with more attributes. -/
theorem suits_of_extended {name : String} {a a' : Attributes} (h : a.Extended names a') {s : Step}
    (hs : (element name a).suits s = true) : (element name a').suits s = true := by
  rw [suits, List.all_eq_true] at hs ⊢
  intro l hl
  have hold := hs l hl
  cases l with
  | name wanted => exact hold
  | attributes wanted => exact h.within_of_within hold
  | _ => cases hold

/-- A step that asks for none of the new names makes no difference between them. -/
theorem suits_eq_of_extended {name : String} {a a' : Attributes} (h : a.Extended names a')
    {s : Step} (hs : ∀ k ∈ names, ¬ s.AsksFor k) :
    (element name a').suits s = (element name a).suits s := by
  have hleaf : ∀ l ∈ s.leaves, (element name a').has l = (element name a).has l := by
    intro l hl
    cases l with
    | attributes wanted =>
      exact h.within_eq fun k hk ↦ not_not.1 fun hne ↦ hs k hk ⟨wanted, hl, hne⟩
    | _ => rfl
  rw [suits, suits, Bool.eq_iff_iff, List.all_eq_true, List.all_eq_true]
  exact forall₂_congr fun l hl ↦ by rw [hleaf l hl]

end Content

namespace Content.Enriched

variable {c c' : Content}

theorem isElement_eq (h : c.Enriched names c') : c.isElement = c'.isElement := by
  cases h with
  | same c => rfl
  | element name _ => rfl

theorem isNamed_eq (h : c.Enriched names c') : c.isNamed = c'.isNamed := by
  cases h with
  | same c => rfl
  | element name _ => rfl

/-- An element is still one, of the same name. -/
theorem exists_eq_element {name : String} {a : Attributes}
    (h : (Content.element name a).Enriched names c') :
    ∃ a', c' = .element name a' ∧ a.Extended names a' := by
  cases h with
  | same => exact ⟨a, rfl, .refl a⟩
  | element _ hextended => exact ⟨_, rfl, hextended⟩

end Content.Enriched

namespace Forest.Enriched

variable {f f' : Forest} (h : f.Enriched names f')

include h

theorem isElement_eq (i : NodeId) : f.isElement i = f'.isElement i :=
  (h.content i).isElement_eq

theorem elementChildren_eq (i : NodeId) : f.elementChildren i = f'.elementChildren i := by
  rw [elementChildren, elementChildren, h.children_eq]
  exact List.filter_congr fun c _ ↦ h.isElement_eq c

theorem namedTo {k : Nat} {i : NodeId} (hnamed : f.NamedTo k i) : f'.NamedTo k i := by
  induction k generalizing i with
  | zero => trivial
  | succ k ih =>
    intro c hc
    rw [← h.elementChildren_eq] at hc
    rw [← (h.content c).isNamed_eq]
    exact ⟨(hnamed c hc).1, ih (hnamed c hc).2⟩

end Forest.Enriched

/-! ### Tests and new attributes -/

/-- What new attributes do to a test of a plain step: nothing, or the node is an element before and
after, which may pass now if it did not, but not the other way round. If the step asks for none of
the new names, it does not pass now either. -/
theorem Forest.Enriched.test (σ σ' : Setting) (h : σ.forest.Enriched names σ'.forest) {s : Step}
    (hs : s.Plain) (i : NodeId) :
    matchesStep σ i s = matchesStep σ' i s ∨
      ∃ b b', matchesStep σ i s = pure b ∧ matchesStep σ' i s = pure b' ∧
        (b = true → b' = true) ∧ ((∀ k ∈ names, ¬ s.AsksFor k) → b' = b) := by
  have hi := h.content i
  generalize hc : σ.forest.content i = c, hc' : σ'.forest.content i = c' at hi
  cases hi with
  | same c => exact Or.inl (matchesStep_eq_of_content hs (hc.trans hc'.symm))
  | element name hextended =>
    have hbefore := matchesStep_eq_pure hs hc
    have hafter := matchesStep_eq_pure hs hc'
    rw [hc] at hbefore
    rw [hc'] at hafter
    exact Or.inr ⟨_, _, hbefore, hafter, Content.suits_of_extended hextended,
      Content.suits_eq_of_extended hextended⟩

namespace Forest.Enriched

variable {f f' : Forest} (h : f.Enriched names f')

include h

/-- A test that was answered with yes still is. -/
theorem answers {s : Step} (hs : s.Plain) {i : NodeId} (hyes : f.still.answers ⟨i, s⟩ = true) :
    f'.still.answers ⟨i, s⟩ = true := by
  have htest := test f.still f'.still h hs i
  rw [Setting.answers, Setting.verdict, Test.run] at hyes ⊢
  rcases htest with hsame | ⟨b, b', hb, hb', himp, -⟩
  · rwa [← hsame]
  · rw [hb] at hyes
    rw [hb']
    exact himp hyes

/-- A test that is no fault was none before. -/
theorem complaint? {s : Step} (hs : s.Plain) {i : NodeId}
    (hnone : f'.still.complaint? ⟨i, s⟩ = none) : f.still.complaint? ⟨i, s⟩ = none := by
  have htest := test f.still f'.still h hs i
  rw [Setting.complaint?, Setting.verdict, Test.run] at hnone ⊢
  rcases htest with hsame | ⟨b, b', hb, -, -, -⟩
  · rwa [hsame]
  · rw [hb]
    rfl

/-- What was to be tested still is. -/
theorem due {steps : List Step} (hsteps : ∀ s ∈ steps, s.Plain) {i : NodeId} {t : Test}
    (ht : f.Due f.still.answers i steps t) : f'.Due f'.still.answers i steps t := by
  induction ht with
  | here hc helement =>
    rw [h.children_eq] at hc
    rw [h.isElement_eq] at helement
    exact .here hc helement
  | deeper hc helement hyes _ ih =>
    rw [List.forall_mem_cons] at hsteps
    rw [h.children_eq] at hc
    rw [h.isElement_eq] at helement
    exact .deeper hc helement (h.answers hsteps.1 hyes) (ih hsteps.2)

/-- **What is selected is selected with more attributes, too.** If the selection with them returns,
the one without them does, and finds some of the same elements in the same order. -/
theorem exists_selects {p : Path} (hp : p.Plain) {i : NodeId} {found' : List NodeId}
    (hfound' : f'.Selects i p found') :
    ∃ found, f.Selects i p found ∧ found.Sublist found' := by
  obtain ⟨w', hrun⟩ := hfound' .standard (fun _ ↦ 0) (fun _ _ ↦ pure false) default
  obtain ⟨hquiet, rfl⟩ := (outcome_select_eq_ok_iff_of_plain hp _).1 (outcome_of_ok hrun)
  refine ⟨f.reach f.still.answers p.steps i, fun e clock judge w ↦ ?_, ?_⟩
  · refine exists_ok_of_outcome
      ((outcome_select_eq_ok_iff_of_plain hp e).2 ⟨fun t ht ↦ ?_, rfl⟩)
    have hdue := mem_depthTests_iff.1 ht
    exact h.complaint? (hp _ hdue.step_mem) (hquiet t (mem_depthTests_iff.2 (h.due hp hdue)))
  · refine reach_sublist_reach h.elementChildren_eq (List.forall₂_same.2 fun s hs c ↦ ?_) i
    exact h.answers (hp s hs)

/-- Where no step asks for any of the new names, a selection is one computation. -/
theorem select_eq {p : Path} (hp : p.Plain) (hasks : ∀ k ∈ names, ¬ p.AsksFor k) (e : Engine)
    (clock : Nat → Rat) (judge : Judge) (i : NodeId) :
    e.select ⟨f, clock, judge⟩ i p = e.select ⟨f', clock, judge⟩ i p := by
  have hcandidates : ∀ s ∈ p.steps,
      candidates ⟨f, clock, judge⟩ s = candidates ⟨f', clock, judge⟩ s := by
    intro s hs
    refine candidates_eq_of_tests h.children_eq h.isElement_eq fun c ↦ ?_
    rcases test ⟨f, clock, judge⟩ ⟨f', clock, judge⟩ h (hp s hs) c with
      hsame | ⟨b, b', hb, hb', -, heq⟩
    · exact hsame
    · rw [hb, hb', heq fun k hk hs' ↦ hasks k hk ⟨s, hs, hs'⟩]
  exact e.select_eq_of_candidates i rfl (List.forall₂_same.2 hcandidates)

end Forest.Enriched

/-! ### Assignments -/

/-- An attribute to be set. -/
structure Assignment where
  /-- The node. -/
  node : NodeId
  /-- The name of the attribute. -/
  name : String
  /-- Its value. -/
  value : String

/-- The node is an element that has no attribute of this name. -/
def Assignment.New (f : Forest) (a : Assignment) : Prop :=
  ∃ name attributes, f.content a.node = .element name attributes ∧ attributes.get? a.name = none

namespace Forest

/-- Sets an attribute. -/
def assign (f : Forest) (a : Assignment) : Except NodeError Forest :=
  f.setAttribute a.node (.text a.name) (.text a.value)

/-- Sets attributes, one after the other. -/
def assignAll (f : Forest) (as : List Assignment) : Except NodeError Forest :=
  as.foldlM assign f

theorem content_withAttributes_self {f : Forest} {i : NodeId} {name : String}
    {attributes : Attributes} (hi : f.content i = .element name attributes) (a : Attributes) :
    (f.withAttributes i a).content i = .element name a := by
  have hlt : i < f.size := by
    by_contra hle
    rw [content, f.node_of_size_le (Nat.le_of_not_lt hle)] at hi
    cases hi
  have hnode : (f.node i).content = .element name attributes := hi
  rw [content, withAttributes, f.node_update_self _ hlt, hnode]

theorem content_withAttributes_of_ne (f : Forest) {i j : NodeId} (hj : j ≠ i) (a : Attributes) :
    (f.withAttributes i a).content j = f.content j := by
  rw [content, withAttributes, f.node_update_of_ne _ hj, content]

theorem children_withAttributes (f : Forest) (i j : NodeId) (a : Attributes) :
    (f.withAttributes i a).children j = f.children j := by
  refine f.children_update (fun n ↦ ?_) i j
  cases n.content with
  | element name _ => rfl
  | _ => rfl

namespace Enriched

variable {f f₁ : Forest}

theorem refl (f : Forest) : f.Enriched names f :=
  ⟨fun _ ↦ rfl, fun i ↦ .same (f.content i)⟩

/-- One more assignment of a new name can be made, and adds to what was added before. -/
theorem assign (h : f.Enriched names f₁) {a : Assignment} (hnew : a.New f)
    (hname : a.name ∈ names) :
    ∃ f₂, f₁.assign a = .ok f₂ ∧ f.Enriched names f₂ := by
  obtain ⟨name, attributes, hcontent, hnone⟩ := hnew
  have hi := h.content a.node
  rw [hcontent] at hi
  obtain ⟨attributes₁, hcontent₁, hextended⟩ := hi.exists_eq_element
  have hset : f₁.assign a = .ok (f₁.withAttributes a.node (attributes₁.put a.name a.value)) := by
    rw [Forest.assign, setAttribute, attributesFor, hcontent₁]
    rfl
  refine ⟨_, hset, fun i ↦ ?_, fun i ↦ ?_⟩
  · rw [children_withAttributes, h.children_eq]
  · by_cases hi : i = a.node
    · rw [hi, content_withAttributes_self hcontent₁, hcontent]
      exact .element name (hextended.put hname hnone a.value)
    · rw [content_withAttributes_of_ne f₁ hi]
      exact h.content i

/-- So can any number of them. -/
theorem assignAll (h : f.Enriched names f₁) {as : List Assignment} (hnew : ∀ a ∈ as, a.New f)
    (hnames : ∀ a ∈ as, a.name ∈ names) :
    ∃ f₂, f₁.assignAll as = .ok f₂ ∧ f.Enriched names f₂ := by
  induction as generalizing f₁ with
  | nil => exact ⟨f₁, rfl, h⟩
  | cons a as ih =>
    rw [List.forall_mem_cons] at hnew hnames
    obtain ⟨f₂, hassign, h₂⟩ := h.assign hnew.1 hnames.1
    obtain ⟨f₃, hassignAll, h₃⟩ := ih h₂ hnew.2 hnames.2
    refine ⟨f₃, ?_, h₃⟩
    rw [Forest.assignAll, List.foldlM_cons, hassign]
    exact hassignAll

end Enriched

end Forest

end Enriched

/-! ### Selections with new attributes -/

/-- **Attributes under new names lose nothing that was selected.** They can be set, and then, by a
path of tests for names and attributes: if the selection with them returns, the selection without
them does, and finds some of the same elements in the same order; both return if all elements have
names, as deep as the path goes; and if no attribute test of the path asks for one of the new names,
the two selections are one and the same computation, be it ended by a fault or not. -/
theorem selects_after_assignments {f : Forest} {as : List Assignment} (hnew : ∀ a ∈ as, a.New f) :
    ∃ f', f.assignAll as = .ok f' ∧ ∀ (i : NodeId) (p : Path), p.Plain →
      (∀ (e : Engine) (clock : Nat → Rat) (judge : Judge) (w w' : World) (found' : List NodeId),
        (e.select ⟨f', clock, judge⟩ i p).run w = .ok found' w' →
          f'.Selects i p found' ∧ ∃ found, f.Selects i p found ∧ found.Sublist found') ∧
      (f.NamedTo p.length i →
        ∃ found found', f.Selects i p found ∧ f'.Selects i p found' ∧ found.Sublist found') ∧
      ((∀ a ∈ as, ¬ p.AsksFor a.name) → ∀ (e : Engine) (clock : Nat → Rat) (judge : Judge),
        e.select ⟨f, clock, judge⟩ i p = e.select ⟨f', clock, judge⟩ i p) := by
  have hnames : ∀ a ∈ as, a.name ∈ as.map Assignment.name := fun a ha ↦ List.mem_map_of_mem ha
  obtain ⟨f', hassign, h⟩ := (Forest.Enriched.refl f).assignAll hnew hnames
  refine ⟨f', hassign, fun i p hp ↦ ⟨fun e clock judge w w' found' hrun ↦ ?_, fun hnamed ↦ ?_,
    fun hasks e clock judge ↦ ?_⟩⟩
  · have hfound' : f'.Selects i p found' := Forest.selects_of_outcome hp (outcome_of_ok hrun)
    exact ⟨hfound', h.exists_selects hp hfound'⟩
  · have hfound' := (h.namedTo hnamed).selects hp
    obtain ⟨found, hfound, hsublist⟩ := h.exists_selects hp hfound'
    exact ⟨found, _, hfound, hfound', hsublist⟩
  · exact h.select_eq hp (List.forall_mem_map.2 hasks) e clock judge i

/-- Makes two elements of one name, of which only the first has an attribute, each with a node below
it: an element below the first, and a node of the given content below the second. -/
def sampleMarked (last : Content) : Forest :=
  let contents : List Content := [.element "root" .empty, .element "a" (.ofPairs [("x", "1")]),
    .element "b" .empty, .element "a" .empty, last]
  Call.run .empty (contents.map (fun c ↦ .create (.ok c) none) ++
    [.append 0 (some 1), .append 1 (some 2), .append 0 (some 3), .append 3 (some 4)])

/-- Gives the attribute to the second element, too. -/
def sampleAssignment : Assignment := ⟨3, "x", "1"⟩

/-- Asks for an element with a name below one with the attribute. -/
def markedPath : Path :=
  ⟨.attributes (.ofPairs [("x", "1")]), [.all [.name "b", .all []]]⟩

/-- The path of the sample asks for names and attributes only. -/
theorem plain_markedPath : markedPath.Plain := by
  have hlast : (Step.all [.name "b", .all []]).Plain := by
    refine .all (List.forall_mem_cons.2 ⟨.name "b", List.forall_mem_singleton.2 ?_⟩)
    exact .all (List.forall_mem_nil _)
  exact List.forall_mem_cons.2 ⟨.attributes _, List.forall_mem_singleton.2 hlast⟩

/-- With one more attribute an element is found below the second of two, after the one below the
first. A path without that attribute finds the same. -/
theorem selects_after_assignments_marked :
    let f := sampleMarked (.element "b" .empty)
    sampleAssignment.New f ∧ f.NamedTo markedPath.length 0 ∧
      ∃ f', f.assignAll [sampleAssignment] = .ok f' ∧ f.Selects 0 markedPath [2] ∧
        f'.Selects 0 markedPath [2, 4] ∧
        Engine.standard.select f.still 0 ⟨.name "a", []⟩ =
          Engine.standard.select f'.still 0 ⟨.name "a", []⟩ := by
  intro f
  have hnew : sampleAssignment.New f := ⟨"a", .empty, by decide, by decide⟩
  have hnamed : f.NamedTo markedPath.length 0 :=
    Forest.namedTo_of_forall (Forest.isNamed_of_lt_size (by decide)) _ _
  have hname : (Path.mk (.name "a") []).Plain := List.forall_mem_singleton.2 (.name "a")
  have hasks : ¬ (Path.mk (.name "a") []).AsksFor sampleAssignment.name := by
    rintro ⟨s, hs, wanted, hmem, -⟩
    cases List.mem_singleton.1 hs
    cases List.mem_singleton.1 hmem
  have hset : f.assignAll [sampleAssignment] =
      .ok (f.withAttributes 3 (.ofPairs [("x", "1")])) := rfl
  have hbefore : outcome (Engine.standard.select f.still 0 markedPath) default = .ok [2] := rfl
  have hafter : outcome (Engine.standard.select
      (f.withAttributes 3 (.ofPairs [("x", "1")])).still 0 markedPath) default = .ok [2, 4] := rfl
  obtain ⟨w', hrun⟩ := exists_ok_of_outcome hafter
  obtain ⟨f', hassign, h⟩ := selects_after_assignments (List.forall_mem_singleton.2 hnew)
  obtain rfl := Except.ok.inj (hset.symm.trans hassign)
  obtain ⟨hreturn, -, -⟩ := h 0 markedPath plain_markedPath
  obtain ⟨-, -, hequal⟩ := h 0 ⟨.name "a", []⟩ hname
  exact ⟨hnew, hnamed, _, hset, Forest.selects_of_outcome plain_markedPath hbefore,
    (hreturn _ _ _ _ _ _ hrun).1, hequal (List.forall_mem_singleton.2 hasks) _ _ _⟩

/-- Below the second element there may be a node of the element kind without a name. Without the new
attribute it is not tested; with it, the test is a fault, and nothing is selected. -/
theorem not_selects_after_assignments :
    ¬ ∀ (f f' : Forest) (as : List Assignment) (i : NodeId) (p : Path) (found : List NodeId),
      (∀ a ∈ as, a.New f) → f.assignAll as = .ok f' → p.Plain → f.Selects i p found →
        ∃ found', f'.Selects i p found' ∧ found.Sublist found' := by
  intro hall
  have hnew : sampleAssignment.New (sampleMarked (.bare .element)) :=
    ⟨"a", .empty, by decide, by decide⟩
  have hset : (sampleMarked (.bare .element)).assignAll [sampleAssignment] =
      .ok ((sampleMarked (.bare .element)).withAttributes 3 (.ofPairs [("x", "1")])) := rfl
  have hbefore : outcome (Engine.standard.select (sampleMarked (.bare .element)).still 0 markedPath)
      default = .ok [2] := rfl
  have hafter : outcome (Engine.standard.select ((sampleMarked (.bare .element)).withAttributes 3
      (.ofPairs [("x", "1")])).still 0 markedPath) default =
        .error (.fault (.lacks "Node" "name")) := rfl
  obtain ⟨found', hfound', -⟩ := hall _ _ _ 0 markedPath [2] (List.forall_mem_singleton.2 hnew) hset
    plain_markedPath (Forest.selects_of_outcome plain_markedPath hbefore)
  obtain ⟨w', hrun⟩ := hfound' .standard (fun _ ↦ 0) (fun _ _ ↦ pure false) default
  cases hafter.symm.trans (outcome_of_ok hrun)

end TreePath
