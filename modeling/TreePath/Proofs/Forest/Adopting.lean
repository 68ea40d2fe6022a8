import TreePath.Proofs.Forest.Reachable

/-!
# Who adopts a node

A node in a document is in it either as the document itself or as a node that belongs to it
(`Forest.documentOf`). One might expect a node without an owner that is put below such a node to
belong to the same document from then on. An edit gives it less than that: what is handed over is
the owner of the new parent, of which a document has none as a rule, and it is handed over only to a
node that is put at the end (`owner_of_attached`). So the expectation is met exactly if the node
goes to the end and the new parent has the document for owner (`adopted_iff`); it fails before a
reference, and right below a document (`not_adopted`).

The two edits that put a node somewhere are taken as one kind of thing, an `Attachment` of a node to
a new parent before a reference or at the end. The condition can then be stated once, for every
attachment that succeeds. It is exact, and both ways in which it can fail occur: the refutation puts
a node before the child of an element, and right below the document.
-/

namespace TreePath

namespace Forest

variable {f : Forest}

/-- The document that a node is in: the node itself if it is one, else the one that it belongs
to. -/
def documentOf (f : Forest) (i : NodeId) : Option NodeId :=
  match f.content i with
  | .document _ => some i
  | _ => f.owner i

/-- An edit that puts a node below another. -/
inductive Attachment where
  /-- After the last child. -/
  | append
  /-- Before a child, or after the last if none is given. -/
  | insert (r : Option NodeId)

namespace Attachment

/-- The child that the node is put in front of; none if it goes to the end. -/
def reference : Attachment → Option NodeId
  | append => none
  | insert r => r

/-- The edit with its parent and its node. -/
def edit (a : Attachment) (p c : NodeId) : Edit NodeId :=
  match a with
  | append => appendChild p (some c)
  | insert r => insertBefore p (some c) r

/-- To append is to insert before nothing. -/
theorem edit_eq_insertBefore (a : Attachment) (p c : NodeId) :
    a.edit p c = insertBefore p (some c) a.reference := by
  cases a <;> rfl

end Attachment

/-! ### The owner that an edit leaves -/

namespace WellLinked

variable (hf : f.WellLinked) {p c x : NodeId} {f' : Forest}

include hf

/-- To append a node gives it the owner of its new parent, if it had none. -/
theorem owner_appendChild (hp : p < f.size) (hc : c < f.size)
    (hrun : (appendChild p (some c)).run f = .ok x f') :
    f'.owner c = (f.owner c).or (f.owner p) := by
  rw [hf.run_appendChild] at hrun
  cases hcp : f.contains c (some p) with
  | true => simp [hcp] at hrun
  | false =>
    obtain ⟨-, rfl⟩ : c = x ∧ (f.detached c).attachedLast p c = f' := by simpa [hcp] using hrun
    exact hf.owner_append hp hc

/-- To insert it before a reference leaves its owner alone. -/
theorem owner_insertBefore {r : NodeId} (hc : c < f.size)
    (hrun : (insertBefore p (some c) (some r)).run f = .ok x f') : f'.owner c = f.owner c := by
  rw [hf.run_insertBefore] at hrun
  by_cases hr : f.parent r = some p
  · by_cases hcr : c = r
    · -- the node stays where it is
      obtain ⟨-, rfl⟩ : c = x ∧ f = f' := by simpa [hr, hcr] using hrun
      rfl
    · cases hcp : f.contains c (some p) with
      | true => simp [hr, hcr, hcp] at hrun
      | false =>
        obtain ⟨-, rfl⟩ : c = x ∧ (f.detached c).attachedBefore p c r = f' := by
          simpa [hr, hcr, hcp] using hrun
        obtain ⟨-, -, -, -, howner⟩ := hf.attached_insert hc hr hcr
        exact howner
  · simp [hr] at hrun

end WellLinked

/-- A node that goes to the end gets the owner of its new parent unless it has one; before a
reference it keeps the owner it has, or has none. -/
theorem owner_of_attached (hf : f.WellLinked) {p c x : NodeId} {f' : Forest} (a : Attachment)
    (hp : p < f.size) (hc : c < f.size) (hrun : (a.edit p c).run f = .ok x f') :
    f'.owner c = if a.reference = none then (f.owner c).or (f.owner p) else f.owner c := by
  rw [a.edit_eq_insertBefore] at hrun
  cases hr : a.reference with
  | none =>
    rw [hr] at hrun
    rw [if_pos rfl]
    exact hf.owner_appendChild hp hc hrun
  | some r =>
    rw [hr] at hrun
    rw [if_neg nofun]
    exact hf.owner_insertBefore hc hrun

/-! ### When a node is adopted -/

/-- **When a node is adopted.** A node without an owner that is put below a node in a document
belongs to that document afterwards exactly if it was put at the end and its new parent belongs to
the document. Below a parent that is no document itself, to be put at the end is enough. -/
theorem adopted_iff (h : f.Reachable) {p c d x : NodeId} {f' : Forest} (a : Attachment)
    (hp : p < f.size) (hc : c < f.size) (howner : f.owner c = none)
    (hd : f.documentOf p = some d) (hrun : (a.edit p c).run f = .ok x f') :
    (f'.owner c = some d ↔ a.reference = none ∧ f.owner p = some d) ∧
      ((∀ errors, f.content p ≠ .document errors) →
        (f'.owner c = some d ↔ a.reference = none)) := by
  have hleft : f'.owner c = some d ↔ a.reference = none ∧ f.owner p = some d := by
    rw [owner_of_attached h.wellLinked a hp hc hrun, howner, Option.none_or]
    by_cases hr : a.reference = none
    · simp [hr]
    · simp [hr]
  refine ⟨hleft, fun hplain ↦ ?_⟩
  have hbelongs : f.owner p = some d := by
    rw [documentOf] at hd
    split at hd
    · next errors hcontent => exact absurd hcontent (hplain errors)
    · exact hd
  rw [hleft, and_iff_left hbelongs]

/-- A document with an element that has a child, and an element that belongs to nobody. -/
def looseCalls : List Call :=
  [.create (.ok (.document [])) none, .create (.ok (.element "a" .empty)) (some 0),
    .append 0 (some 1), .create (.ok (.element "b" .empty)) (some 0), .append 1 (some 2),
    .create (.ok (.element "loose" .empty)) none]

/-- The loose element is adopted when it is appended to the element in the document. -/
theorem adopted_sample :
    (Call.run .empty looseCalls).Reachable ∧
      (Call.run .empty looseCalls).owner 3 = none ∧
      (Call.run .empty looseCalls).documentOf 1 = some 0 ∧
      ∃ f', (Attachment.append.edit 1 3).run (Call.run .empty looseCalls) = .ok 3 f' ∧
        f'.owner 3 = some 0 := by
  have hreach : (Call.run .empty looseCalls).Reachable := ⟨looseCalls, by decide, rfl⟩
  have howner : (Call.run .empty looseCalls).owner 3 = none := by decide
  have hdocument : (Call.run .empty looseCalls).documentOf 1 = some 0 := by decide
  have hrun := hreach.wellLinked.run_appendChild 1 3
  rw [show (Call.run .empty looseCalls).contains 3 (some 1) = false by decide] at hrun
  refine ⟨hreach, howner, hdocument, _, hrun, ?_⟩
  exact (adopted_iff hreach .append (by decide) (by decide) howner hdocument hrun).1.2
    ⟨rfl, by decide⟩

/-- The loose element is not adopted before the child of the element in the document, and not right
below the document either, although each time it hangs in the document afterwards. -/
theorem not_adopted :
    (Call.run .empty looseCalls).Reachable ∧
      (Call.run .empty looseCalls).content 3 = .element "loose" .empty ∧
      (Call.run .empty looseCalls).owner 3 = none ∧
      ((Call.run .empty looseCalls).documentOf 1 = some 0 ∧
        ∃ f', ((Attachment.insert (some 2)).edit 1 3).run (Call.run .empty looseCalls) = .ok 3 f' ∧
          f'.parent 3 = some 1 ∧ f'.owner 3 ≠ some 0) ∧
      (Call.run .empty looseCalls).documentOf 0 = some 0 ∧
        ∃ f', (Attachment.append.edit 0 3).run (Call.run .empty looseCalls) = .ok 3 f' ∧
          f'.parent 3 = some 0 ∧ f'.owner 3 ≠ some 0 := by
  have hreach : (Call.run .empty looseCalls).Reachable := ⟨looseCalls, by decide, rfl⟩
  have hf := hreach.wellLinked
  have hinsert := hf.run_insertBefore 1 3 2
  have happend := hf.run_appendChild 0 3
  rw [show (Call.run .empty looseCalls).contains 3 (some 1) = false by decide,
    show (Call.run .empty looseCalls).parent 2 = some 1 by decide] at hinsert
  rw [show (Call.run .empty looseCalls).contains 3 (some 0) = false by decide] at happend
  refine ⟨hreach, by decide, by decide, ⟨by decide, _, hinsert, by decide, by decide⟩, by decide, _,
    happend, by decide, by decide⟩

end Forest

end TreePath
