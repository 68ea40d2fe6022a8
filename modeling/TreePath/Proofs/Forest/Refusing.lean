import TreePath.Proofs.Forest.Reachable

/-!
# Refused edits

In a forest whose links agree an edit fails for one of its own checks or not at all: appending for a
node that lies above its new parent, inserting for that or for a reference that is no child, and
removing for a node that is no child (`run_appendChild_eq_error_iff` and the two after it). All
checks come before the first link is changed, so a failed edit leaves the forest as it was.

That nothing fails later is where the agreement of the links is needed. A node that is taken out on
the way is listed by its parent, and a reference stands in the list in which it is looked up; so
`EditError.notListed` never arises, and `EditError.notAChild` only for a node that a caller wants
removed (`refused_iff`).

A call may be made with nothing where a node is due; then an edit fails in its own way, before any
of the other checks, and this is told apart by a constructor of its own. What is known of a failed
edit in either case is collected in `Refusal`. It is shown of each edit, and the theorem adds in
which cases the edit fails at all.
-/

namespace TreePath

namespace Forest

variable {f f' : Forest}

/-- An edit raises something. -/
def Fails (f : Forest) (x : Edit NodeId) : Prop := ∃ e f', x.run f = .error e f'

/-- What is known of an edit with a node, or with nothing in its place, that failed: the forest is
what it was before, a node is refused as a wrong value, and no look-up in a list of children was
what failed. -/
structure Refusal (f : Forest) (c : Option NodeId) (e : EditError) (f' : Forest) : Prop where
  /-- Every link of every node is what it was. -/
  unchanged : f' = f
  /-- A node is refused as a wrong value. -/
  kindName_eq : c ≠ none → e.kindName = "ValueError"
  /-- Every look-up in a list of children found what it was for. -/
  ne_notListed : e ≠ .notListed

/-! ### Nothing where a node is due -/

/-- To append nothing fails where the node would be asked what it contains. -/
theorem run_appendChild_none (p : NodeId) :
    (appendChild p none).run f = .error (.missing "contains") f := rfl

/-- To remove nothing fails where it would be asked for its parent. -/
theorem run_removeChild_none (p : NodeId) :
    (removeChild p none).run f = .error (.missing "parent_node") f := rfl

/-- To insert nothing fails with or without a reference. -/
theorem exists_run_insertBefore_none (p : NodeId) (r : Option NodeId) :
    ∃ e, (insertBefore p none r).run f = .error e f ∧ e ≠ .notListed ∧ e ≠ .notAChild := by
  cases r with
  | none => exact ⟨_, run_appendChild_none p, nofun, nofun⟩
  | some r =>
    refine ⟨_, WellLinked.run_insertBefore_none p r, ?_, ?_⟩
    · split <;> exact nofun
    · split <;> exact nofun

/-! ### What each edit refuses -/

namespace WellLinked

variable (hf : f.WellLinked) {p c r : NodeId} {e : EditError}

include hf

/-- A node is refused as a child only by what it contains. -/
theorem run_appendChild_eq_error_iff :
    (appendChild p (some c)).run f = .error e f' ↔
      f.IsAbove c p ∧ e = .appendedIntoItself ∧ f' = f := by
  rw [hf.run_appendChild, ← hf.contains_iff, eq_comm (a := e), eq_comm (a := f')]
  cases f.contains c (some p) with
  | true => simp
  | false => simp

/-- Before a reference it is refused as well if the reference stands elsewhere, and that is looked
at first. -/
theorem run_insertBefore_eq_error_iff :
    (insertBefore p (some c) (some r)).run f = .error e f' ↔
      (f.parent r ≠ some p ∧ e = .referenceElsewhere ∨
        f.parent r = some p ∧ c ≠ r ∧ f.IsAbove c p ∧ e = .insertedIntoItself) ∧ f' = f := by
  rw [hf.run_insertBefore, ← hf.contains_iff, eq_comm (a := e), eq_comm (a := e),
    eq_comm (a := f')]
  by_cases hr : f.parent r = some p
  · -- a node that is its own reference stays where it is, and nothing more is asked of it
    by_cases hcr : c = r
    · simp [hr, hcr]
    · cases f.contains c (some p) with
      | true => simp [hr, hcr]
      | false => simp [hr, hcr]
  · simp [hr]

/-- The removal of a node is refused by all but its parent. -/
theorem run_removeChild_eq_error_iff :
    (removeChild p (some c)).run f = .error e f' ↔
      f.parent c ≠ some p ∧ e = .notAChild ∧ f' = f := by
  rw [hf.run_removeChild, eq_comm (a := e), eq_comm (a := f')]
  by_cases hc : f.parent c = some p
  · simp [hc]
  · simp [hc]

/-! ### Edits that fail -/

/-- What is known of a failed attempt to append. -/
theorem refusal_append {c : Option NodeId} (h : (appendChild p c).run f = .error e f') :
    Refusal f c e f' ∧ e ≠ .notAChild := by
  cases c with
  | none =>
    cases h
    exact ⟨⟨rfl, fun hne ↦ absurd rfl hne, nofun⟩, nofun⟩
  | some c =>
    obtain ⟨-, rfl, rfl⟩ := hf.run_appendChild_eq_error_iff.1 h
    exact ⟨⟨rfl, fun _ ↦ rfl, nofun⟩, nofun⟩

/-- What is known of a failed attempt to insert. Without a reference that is an attempt to
append. -/
theorem refusal_insert {c r : Option NodeId} (h : (insertBefore p c r).run f = .error e f') :
    Refusal f c e f' ∧ e ≠ .notAChild := by
  cases r with
  | none => exact hf.refusal_append h
  | some r =>
    cases c with
    | none =>
      obtain ⟨e', hrun, hlisted, hchild⟩ := exists_run_insertBefore_none (f := f) p (some r)
      cases hrun.symm.trans h
      exact ⟨⟨rfl, fun hne ↦ absurd rfl hne, hlisted⟩, hchild⟩
    | some c =>
      obtain ⟨⟨-, rfl⟩ | ⟨-, -, -, rfl⟩, rfl⟩ := hf.run_insertBefore_eq_error_iff.1 h
      · exact ⟨⟨rfl, fun _ ↦ rfl, nofun⟩, nofun⟩
      · exact ⟨⟨rfl, fun _ ↦ rfl, nofun⟩, nofun⟩

/-- What is known of a failed attempt to remove. -/
theorem refusal_remove {c : Option NodeId} (h : (removeChild p c).run f = .error e f') :
    Refusal f c e f' := by
  cases c with
  | none =>
    cases h
    exact ⟨rfl, fun hne ↦ absurd rfl hne, nofun⟩
  | some c =>
    obtain ⟨-, rfl, rfl⟩ := hf.run_removeChild_eq_error_iff.1 h
    exact ⟨rfl, fun _ ↦ rfl, nofun⟩

end WellLinked

/-- **Which edits of a reachable forest fail, and how.** To append fails for a node that is its new
parent or lies above it; to insert before a reference fails if that is no child, or if the node is
not the reference itself and is its new parent or lies above it; to remove fails for what is no
child. Every edit with nothing in the place of a node fails. A failed edit changes nothing, a node
is refused as a wrong value, and neither the removal from a former parent nor a look-up in a list of
children is what failed. -/
theorem refused_iff (h : f.Reachable) (p : NodeId) :
    (∀ c, f.Fails (appendChild p (some c)) ↔ f.IsAbove c p) ∧
      (∀ c r, f.Fails (insertBefore p (some c) (some r)) ↔
        f.parent r ≠ some p ∨ c ≠ r ∧ f.IsAbove c p) ∧
      (∀ c, f.Fails (removeChild p (some c)) ↔ f.parent c ≠ some p) ∧
      (f.Fails (appendChild p none) ∧ (∀ r, f.Fails (insertBefore p none r)) ∧
        f.Fails (removeChild p none)) ∧
      (∀ c e f', (appendChild p c).run f = .error e f' → Refusal f c e f' ∧ e ≠ .notAChild) ∧
      (∀ c r e f', (insertBefore p c r).run f = .error e f' →
        Refusal f c e f' ∧ e ≠ .notAChild) ∧
      ∀ c e f', (removeChild p c).run f = .error e f' → Refusal f c e f' := by
  have hf := h.wellLinked
  refine ⟨fun c ↦ ⟨?_, fun habove ↦ ?_⟩, fun c r ↦ ⟨?_, fun hbad ↦ ?_⟩,
    fun c ↦ ⟨?_, fun hparent ↦ ?_⟩, ⟨?_, fun r ↦ ?_, ?_⟩, fun c e f' ↦ hf.refusal_append,
    fun c r e f' ↦ hf.refusal_insert, fun c e f' ↦ hf.refusal_remove⟩
  · rintro ⟨e, f', hrun⟩
    exact (hf.run_appendChild_eq_error_iff.1 hrun).1
  · exact ⟨_, _, hf.run_appendChild_eq_error_iff.2 ⟨habove, rfl, rfl⟩⟩
  · rintro ⟨e, f', hrun⟩
    obtain ⟨⟨hr, -⟩ | ⟨-, hne, habove, -⟩, -⟩ := hf.run_insertBefore_eq_error_iff.1 hrun
    · exact Or.inl hr
    · exact Or.inr ⟨hne, habove⟩
  · by_cases hr : f.parent r = some p
    · obtain ⟨hne, habove⟩ := hbad.resolve_left fun hne ↦ hne hr
      exact ⟨_, _, hf.run_insertBefore_eq_error_iff.2 ⟨Or.inr ⟨hr, hne, habove, rfl⟩, rfl⟩⟩
    · exact ⟨_, _, hf.run_insertBefore_eq_error_iff.2 ⟨Or.inl ⟨hr, rfl⟩, rfl⟩⟩
  · rintro ⟨e, f', hrun⟩
    exact (hf.run_removeChild_eq_error_iff.1 hrun).1
  · exact ⟨_, _, hf.run_removeChild_eq_error_iff.2 ⟨hparent, rfl, rfl⟩⟩
  · exact ⟨_, _, run_appendChild_none p⟩
  · obtain ⟨e, hrun, -, -⟩ := exists_run_insertBefore_none (f := f) p r
    exact ⟨e, f, hrun⟩
  · exact ⟨_, _, run_removeChild_none p⟩

/-- After the sample calls the document cannot be put below its first child, not even before a node
that is a child there, while the second child can; and the third is no child of the first. The
insertion that fails leaves everything as it is. -/
theorem refused_sample :
    (Call.run .empty sampleCalls).Reachable ∧
      (Call.run .empty sampleCalls).Fails (appendChild 1 (some 0)) ∧
      ¬ (Call.run .empty sampleCalls).Fails (appendChild 1 (some 2)) ∧
      (Call.run .empty sampleCalls).Fails (insertBefore 0 (some 0) (some 2)) ∧
      ¬ (Call.run .empty sampleCalls).Fails (insertBefore 0 (some 2) (some 2)) ∧
      (Call.run .empty sampleCalls).Fails (removeChild 1 (some 3)) ∧
      ∀ e f', (insertBefore 0 (some 0) (some 2)).run (Call.run .empty sampleCalls) = .error e f' →
        f' = Call.run .empty sampleCalls ∧ e.kindName = "ValueError" ∧ e ≠ .notListed := by
  have hreach : (Call.run .empty sampleCalls).Reachable := ⟨sampleCalls, by decide, rfl⟩
  have hf := hreach.wellLinked
  obtain ⟨happend, -, hremove, -⟩ := refused_iff hreach 1
  obtain ⟨-, hinsert, -, -, -, hrefused, -⟩ := refused_iff hreach 0
  refine ⟨hreach, (happend 0).2 (hf.contains_iff.1 (by decide)), fun hfails ↦ ?_,
    (hinsert 0 2).2 (Or.inr ⟨by decide, IsAbove.refl 0⟩), fun hfails ↦ ?_,
    (hremove 3).2 (by decide), fun e f' hrun ↦ ?_⟩
  · have habove := hf.contains_iff.2 ((happend 2).1 hfails)
    exact absurd habove (by decide)
  · rcases (hinsert 2 2).1 hfails with hr | ⟨hne, -⟩
    · exact hr (by decide)
    · exact hne rfl
  · obtain ⟨hrefusal, -⟩ := hrefused (some 0) (some 2) e f' hrun
    exact ⟨hrefusal.unchanged, hrefusal.kindName_eq (by simp), hrefusal.ne_notListed⟩

end Forest

end TreePath
