import Mathlib.Data.List.Forall2
import TreePath.Proofs.Literal.Comparing
import TreePath.Proofs.Step.Grouping
import TreePath.Selection.Engine

/-!
# Equal steps are interchangeable

What is known of two equal steps is that they have the same members in the same order, the same
names and attributes, and the same functions by number. A test of a step on a node reads nothing
else, so equal steps are tested by one and the same computation (`matchesStep_congr`): whatever the
world is like before, they give the same answer or raise the same, after the same calls. The
attributes that a step asks for are looked up one after the other in the order in which they stand,
which may differ between equal steps; but all that comes of it is whether all of them were found.

A function is known by its number. That two functions with one number are one and the same, with one
name and one appearance, is a promise of whoever gives out the numbers
(`Step.SharesFunctions`).

The congruence goes up from steps to the candidates for a step, to both ways of selecting, and to
the selections of an engine (`Engine.select_congr`).
-/

namespace TreePath

/-! ### Functions by number -/

namespace Step

/-- No function of one step has the number of another function of the other step. -/
def SharesFunctions (a b : Step) : Prop :=
  ∀ p q, predicate p ∈ a.leaves → predicate q ∈ b.leaves → p.id = q.id → p = q

theorem mem_leavesOfAll {s : Step} {ms : List Step} :
    s ∈ leavesOfAll ms ↔ ∃ m ∈ ms, s ∈ m.leaves := by
  rw [leavesOfAll_eq_flatMap, List.mem_flatMap]

/-- The functions of conjunctions are those of their members. -/
theorem SharesFunctions.members {xs ys : List Step} (h : (all xs).SharesFunctions (all ys))
    {x y : Step} (hx : x ∈ xs) (hy : y ∈ ys) : x.SharesFunctions y := by
  intro p q hp hq hid
  exact h p q (mem_leavesOfAll.2 ⟨x, hx, hp⟩) (mem_leavesOfAll.2 ⟨y, hy, hq⟩) hid

/-- What holds of equal members holds of two equal lists of them place by place. -/
theorem forall₂_of_sameAll {R : Step → Step → Prop} {xs ys : List Step}
    (hR : ∀ x ∈ xs, ∀ y ∈ ys, x.same y = true → R x y) (h : sameAll xs ys = true) :
    List.Forall₂ R xs ys := by
  induction xs generalizing ys with
  | nil =>
    cases ys with
    | nil => exact List.Forall₂.nil
    | cons y ys => cases h
  | cons x xs ih =>
    cases ys with
    | nil => cases h
    | cons y ys =>
      rw [sameAll, Bool.and_eq_true] at h
      have hhead : R x y := hR x List.mem_cons_self y List.mem_cons_self h.1
      refine List.Forall₂.cons hhead (ih (fun z hz w hw ↦ ?_) h.2)
      exact hR z (List.mem_cons_of_mem x hz) w (List.mem_cons_of_mem y hw)

end Step

/-- Equal attributes are found together or not at all. -/
theorem Attributes.within_congr {a b : Attributes} (h : a.same b = true) (c : Attributes) :
    a.within c = b.within c := by
  have hget := Attributes.same_iff_get?.1 h
  rw [Bool.eq_iff_iff, Attributes.within_iff, Attributes.within_iff]
  simp only [hget]

/-! ### Tests -/

section Tests

variable {σ σ' : Setting}

theorem matchesAll_congr {i : NodeId} {xs ys : List Step}
    (h : List.Forall₂ (fun x y ↦ matchesStep σ i x = matchesStep σ' i y) xs ys) :
    matchesAll σ i xs = matchesAll σ' i ys := by
  induction h with
  | nil => rfl
  | cons hhead _ ih => rw [matchesAll, matchesAll, hhead, ih]

/-- **A test of equal steps is one computation.** -/
theorem matchesStep_congr (i : NodeId) {a b : Step} (hfun : a.SharesFunctions b)
    (h : a.same b = true) : matchesStep σ i a = matchesStep σ i b := by
  induction a using Step.induction generalizing b with
  | name s =>
    cases b with
    | name t =>
      obtain rfl : s = t := eq_of_beq h
      rfl
    | _ => cases h
  | attributes wanted =>
    cases b with
    | attributes wanted' =>
      rw [matchesStep, matchesStep]
      simp only [Attributes.within_congr h]
    | _ => cases h
  | predicate p =>
    cases b with
    | predicate q =>
      obtain rfl : p = q := hfun p q List.mem_cons_self List.mem_cons_self (eq_of_beq h)
      rfl
    | _ => cases h
  | all xs ih =>
    cases b with
    | all ys =>
      rw [matchesStep, matchesStep]
      refine matchesAll_congr (Step.forall₂_of_sameAll (fun x hx y hy hxy ↦ ?_) h)
      exact ih x hx (hfun.members hx hy) hxy
    | _ => cases h
  | unknown j =>
    cases b with
    | unknown k =>
      obtain rfl : j = k := eq_of_beq h
      rfl
    | _ => cases h

end Tests

/-! ### Selections -/

section Selections

variable {σ σ' : Setting}

theorem candidatesAmong_congr {s t : Step}
    (helement : ∀ i, σ.forest.isElement i = σ'.forest.isElement i)
    (h : ∀ i, matchesStep σ i s = matchesStep σ' i t) (nodes : List NodeId) :
    candidatesAmong σ s nodes = candidatesAmong σ' t nodes := by
  induction nodes with
  | nil => rfl
  | cons i rest ih => rw [candidatesAmong, candidatesAmong, helement, h, ih]

/-- The same tests on the same children find the same candidates at any node, be it in one forest or
in two. -/
theorem candidates_eq_of_tests {s t : Step}
    (hchildren : ∀ i, σ.forest.children i = σ'.forest.children i)
    (helement : ∀ i, σ.forest.isElement i = σ'.forest.isElement i)
    (h : ∀ i, matchesStep σ i s = matchesStep σ' i t) : candidates σ s = candidates σ' t := by
  funext i
  rw [candidates, candidates, hchildren]
  exact candidatesAmong_congr helement h _

theorem candidates_congr {s t : Step} (hfun : s.SharesFunctions t) (h : s.same t = true) :
    candidates σ s = candidates σ t :=
  candidates_eq_of_tests (fun _ ↦ rfl) (fun _ ↦ rfl) fun i ↦ matchesStep_congr i hfun h

section Ways

variable {ss ts : List Step}
  (h : List.Forall₂ (fun s t ↦ candidates σ s = candidates σ' t) ss ts)

include h

theorem descend_congr : descend σ ss = descend σ' ts := by
  induction h with
  | nil => rfl
  | cons hhead _ ih =>
    funext i
    rw [descend, descend, hhead, ih]

theorem levels_congr : levels σ ss = levels σ' ts := by
  induction h with
  | nil => rfl
  | cons hhead _ ih =>
    funext frontier
    rw [levels, levels, hhead, ih]

end Ways

/-- Where every step has the same candidates at any node, a search is one computation. -/
theorem Engine.find_eq_of_candidates (e : Engine) (i : NodeId) {p q : Path}
    (h : List.Forall₂ (fun s t ↦ candidates σ s = candidates σ' t) p.steps q.steps) :
    e.find σ i p = e.find σ' i q := by
  rw [Engine.find, Engine.find]
  cases e.strategy with
  | recursive => exact congrFun (descend_congr h) i
  | iterative => exact congrFun (levels_congr h) [i]

/-- So is a selection, its reports included. -/
theorem Engine.select_eq_of_candidates (e : Engine) (i : NodeId) {p q : Path}
    (hclock : σ.clock = σ'.clock)
    (h : List.Forall₂ (fun s t ↦ candidates σ s = candidates σ' t) p.steps q.steps) :
    e.select σ i p = e.select σ' i q := by
  have hlength : p.length = q.length := h.length_eq
  unfold Engine.select Engine.startTimer Engine.endTimer
  rw [e.find_eq_of_candidates i h, hlength, hclock]

/-- **A selection by equal paths is one computation**, its reports included. -/
theorem Engine.select_congr (e : Engine) (i : NodeId) {p q : Path}
    (hfun : (Step.all p.steps).SharesFunctions (.all q.steps)) (h : p.same q = true) :
    e.select σ i p = e.select σ i q := by
  refine e.select_eq_of_candidates i rfl (Step.forall₂_of_sameAll (fun s hs t ht hst ↦ ?_) h)
  exact candidates_congr (hfun.members hs ht) hst

end Selections

/-! ### Equality is sound -/

open Expression in
/-- **Equality of steps and paths is sound.** It is an equivalence relation, it is what comparing
steps and paths comes to, and equal ones have the same hash keys; so the size of a set of steps and
paths is the number of classes of equal ones among them. Where functions are known by their numbers,
equal steps are tested on a node by one computation, with the same answer, calls and failures; and
equal paths select by one computation. -/
theorem equality_sound :
    (Equivalence fun v w : Query ↦ (v == w) = true) ∧
      (∀ v w : Query, v.literal.equal w.literal = pure (v == w) ∧ (v != w) = !(v == w)) ∧
      (∀ v w : Query, (v == w) = true → v.hashKeys = w.hashKeys) ∧
      (∀ vars es vs s s', (evaluateAll vars es).run s = .ok (vs.map Query.literal) s' →
        (countDistinct vars es []).run s = .ok (Query.classes vs) s') ∧
      (∀ σ i (a b : Step), a.SharesFunctions b → a.same b = true →
        matchesStep σ i a = matchesStep σ i b) ∧
      ∀ σ i (p q : Path) (e : Engine), (Step.all p.steps).SharesFunctions (.all q.steps) →
        p.same q = true → e.select σ i p = e.select σ i q := by
  refine ⟨Query.equivalence_beq, fun v w ↦ ⟨Query.equal_literal v w, rfl⟩,
    fun v w h ↦ (Query.beq_iff v w).1 h, fun vars es vs s s' hes ↦ ?_,
    fun σ i a b hfun h ↦ matchesStep_congr i hfun h,
    fun σ i p q e hfun h ↦ e.select_congr i hfun h⟩
  have hnone : (([] : List Query).map Query.cell).Nodup := List.nodup_nil
  exact Query.run_countDistinct hes hnone

/-- A function without a name. -/
def sampleFunction : Predicate :=
  ⟨"cheap", none, "Anon", "<cheap>"⟩

/-- A conjunction of a test for these attributes, a test by a function, and a step of no known
kind. -/
def sampleConjunction (wanted : List (String × String)) : Step :=
  .all [.attributes (.ofPairs wanted), .all [.predicate sampleFunction], .unknown 4]

open Expression in
/-- Two conjunctions whose attributes stand in different orders are written differently, but they
are equal: a set of them and a third one has two elements, they are tested alike, and paths of them
select alike. -/
theorem equality_sound_sample :
    let a := sampleConjunction [("rate", "1"), ("type", "single")]
    let b := sampleConjunction [("type", "single"), ("rate", "1")]
    let vs : List Query := [.step a, .step b, .step (sampleConjunction [])]
    a.text ≠ b.text ∧ a.SharesFunctions b ∧ a.same b = true ∧
      (countDistinct [] (vs.map fun v ↦ constant v.literal) []).run default = .ok 2 default ∧
      (∀ σ i, matchesStep σ i a = matchesStep σ i b) ∧
      ∀ σ i (e : Engine), e.select σ i ⟨.name "room", [a]⟩ = e.select σ i ⟨.name "room", [b]⟩ := by
  intro a b vs
  have honly {wanted : List (String × String)} {p : Predicate}
      (h : .predicate p ∈ (Step.all [.name "room", sampleConjunction wanted]).leaves) :
      p = sampleFunction := by
    simpa [sampleConjunction, Step.leaves, Step.leavesOfAll] using h
  have hpaths : (Step.all [.name "room", a]).SharesFunctions (.all [.name "room", b]) :=
    fun p q hp hq _ ↦ (honly hp).trans (honly hq).symm
  have hfun : a.SharesFunctions b :=
    hpaths.members (List.mem_cons_of_mem _ List.mem_cons_self)
      (List.mem_cons_of_mem _ List.mem_cons_self)
  have hsame : a.same b = true := by decide +kernel
  obtain ⟨-, -, -, hset, htest, hselect⟩ := equality_sound
  refine ⟨by decide +kernel, hfun, hsame, ?_, fun σ i ↦ htest σ i a b hfun hsame,
    fun σ i e ↦ hselect σ i _ _ e hpaths (by decide +kernel)⟩
  have hclasses : Query.classes vs = 2 := by decide +kernel
  rw [← hclasses]
  exact hset [] (vs.map fun v ↦ constant v.literal) vs default default rfl

end TreePath
