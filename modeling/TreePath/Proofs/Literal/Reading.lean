import TreePath.Literal.Operations

/-!
# Reading literals as steps

Reading a literal as a step may report something and may fail, but whether it does, and what it
comes to, is the same at all times (`steady_asStep`): only one-shot sequences would be used up, and
they are no steps. So a list or tuple of literals that reads as some steps once reads as these steps
whenever it is read, by itself (`Literal.Continues.run_asPath`) or after the steps of another path
(`Literal.Continues.run_plus`).

That a computation is steady is a statement on what comes out of it. What it reports is left out,
and so is the state, in which one-shot sequences are marked as used up. It could not be said of all
literals: the second reading of a one-shot sequence finds nothing. Literals that continue a path
have no such sequence at the top, since only lists and tuples continue one, and one that is inside
is refused as an item.
-/

namespace TreePath

namespace Build

variable {α β : Type}

/-- What comes out of the making of a literal. -/
def result (x : Build α) (s : BuildState) : Except LiteralError α :=
  match x.run s with
  | .ok a _ => .ok a
  | .error e _ => .error e

/-- What comes out is the same at all times. -/
def Steady (x : Build α) : Prop := ∀ s s', result x s = result x s'

/-- What a computation comes to, apart from the state that it leaves. -/
theorem result_eq_ok_iff {x : Build α} {a : α} {s : BuildState} :
    result x s = .ok a ↔ ∃ s', x.run s = .ok a s' := by
  rw [result]
  cases x.run s with
  | ok b s' =>
    constructor
    · intro h
      cases h
      exact ⟨s', rfl⟩
    · rintro ⟨_, heq⟩
      cases heq
      rfl
  | error e s' => simp

namespace Steady

theorem pure (a : α) : Steady (Pure.pure a : Build α) := fun _ _ ↦ rfl

theorem throw (e : LiteralError) : Steady (MonadExcept.throw e : Build α) := fun _ _ ↦ rfl

theorem report (n : Notice) : Steady (report n) := fun _ _ ↦ rfl

/-- Steady computations are steady one after the other. -/
theorem bind {x : Build α} {g : α → Build β} (hx : Steady x) (hg : ∀ a, Steady (g a)) :
    Steady (x >>= g) := by
  intro s s'
  have h := hx s s'
  rw [result, result] at h
  rw [result, result, EStateM.run_bind, EStateM.run_bind]
  cases hs : x.run s with
  | ok a t =>
    cases hs' : x.run s' with
    | ok a' t' =>
      rw [hs, hs'] at h
      cases h
      exact hg a t t'
    | error e t' =>
      rw [hs, hs'] at h
      cases h
  | error e t =>
    cases hs' : x.run s' with
    | ok a' t' =>
      rw [hs, hs'] at h
      cases h
    | error e' t' =>
      rw [hs, hs'] at h
      cases h
      rfl

theorem shown (v : Literal) : Steady (Build.shown v) := by
  rw [Build.shown]
  cases v.writingFault? with
  | some e => exact throw e
  | none => exact pure v.written

end Steady

end Build

open Build

/-! ### Steps -/

/-- Whether a literal names a name does not change. -/
theorem steady_nameTest (v : Literal) : Build.Steady (nameTest v) := by
  unfold nameTest
  split
  · split
    · exact (Steady.shown _).bind fun shown ↦ .throw (.badName shown)
    · exact .pure _
  · exact (Steady.shown _).bind fun shown ↦ .throw (.badName shown)

/-- Nor do the attributes that it names. -/
theorem steady_wantedAttributes (entries : List (Literal × Literal)) (wanted : Attributes) :
    Build.Steady (wantedAttributes entries wanted) := by
  fun_induction wantedAttributes entries wanted with
  | case1 wanted => exact .pure wanted
  | case2 k v rest wanted ih => exact ih
  | case3 k v rest wanted _ =>
    exact (Steady.shown k).bind fun key ↦ (Steady.shown v).bind fun value ↦
      .throw (.badEntry key value)

/-- Nor what its members come to together. -/
theorem steady_conjunction (members : List Step) : Build.Steady (conjunction members) := by
  rw [conjunction]
  split
  · exact (Steady.report _).bind fun _ ↦ .pure _
  · exact .pure _

mutual

/-- A literal reads as the same step at all times, or is refused for the same reason. -/
theorem steady_asStep : (v : Literal) → Build.Steady (asStep v)
  | .step s => by
    rw [asStep]
    exact .pure s
  | .text s => by
    rw [asStep]
    exact steady_nameTest _
  | .mapping entries => by
    rw [asStep]
    exact (steady_wantedAttributes entries .empty).bind fun wanted ↦ .pure (Step.attributes wanted)
  | .list items => by
    rw [asStep]
    exact (steady_asSteps items).bind steady_conjunction
  | .tuple items => by
    rw [asStep]
    exact (steady_asSteps items).bind steady_conjunction
  | .function p => by
    rw [asStep]
    exact .pure (Step.predicate p)
  | .none | .bool _ | .int _ | .float _ | .iterator _ | .path .. | .other .. => by
    simp only [asStep]
    exact (Steady.shown _).bind fun shown ↦ .throw (.notAStep _ shown)

/-- Literals read as the same steps at all times. -/
theorem steady_asSteps : (items : List Literal) → Build.Steady (asSteps items)
  | [] => by
    rw [asSteps]
    exact .pure []
  | v :: rest => by
    rw [asSteps]
    exact (steady_asStep v).bind fun s ↦ (steady_asSteps rest).bind fun ss ↦ .pure (s :: ss)

end

/-! ### Paths -/

/-- A path can be continued with a literal: with another path, or with a list or a tuple of literals
that read as steps. -/
inductive Literal.Continues : Literal → Path → Prop
  /-- A path stands for itself. -/
  | path (id : Nat) (q : Path) : Continues (.path id (some q)) q
  /-- A list stands for the steps that its items read as. -/
  | list {items : List Literal} {q : Path} {s s' : BuildState}
    (h : (asSteps items).run s = .ok q.steps s') : Continues (.list items) q
  /-- So does a tuple. -/
  | tuple {items : List Literal} {q : Path} {s s' : BuildState}
    (h : (asSteps items).run s = .ok q.steps s') : Continues (.tuple items) q

/-- What reads as steps once reads as these steps whenever it is read. -/
theorem exists_run_asSteps {items : List Literal} {ss : List Step} {s s' : BuildState}
    (h : (asSteps items).run s = .ok ss s') (t : BuildState) :
    ∃ t', (asSteps items).run t = .ok ss t' :=
  result_eq_ok_iff.1 ((steady_asSteps items t s).trans (result_eq_ok_iff.2 ⟨s', h⟩))

/-- Literals that read as the steps of a path read as the path. -/
theorem run_pathOf {items : List Literal} {q : Path} {s s' : BuildState}
    (h : (asSteps items).run s = .ok q.steps s') : (pathOf items).run s = .ok q s' := by
  cases items with
  | nil =>
    rw [asSteps] at h
    cases h
  | cons v rest =>
    rw [asSteps, EStateM.run_bind] at h
    rw [pathOf, EStateM.run_bind]
    cases hv : (asStep v).run s with
    | error e t =>
      rw [hv] at h
      cases h
    | ok head t =>
      rw [hv] at h
      cases hrest : (asSteps rest).run t with
      | error e t' => simp [hrest, -bind_pure_comp] at h
      | ok ss t' =>
        obtain ⟨hsteps, rfl⟩ : head :: ss = q.steps ∧ t' = s' := by
          simpa [hrest, -bind_pure_comp] using h
        obtain ⟨rfl, rfl⟩ := List.cons.inj hsteps
        simp [hrest, -bind_pure_comp]

namespace Literal.Continues

variable {v : Literal} {q : Path} (h : v.Continues q)

include h

/-- A literal that a path can be continued with reads as a path at all times. -/
theorem run_asPath (t : BuildState) : ∃ t', (asPath v).run t = .ok q t' := by
  cases h with
  | path id q => exact ⟨t, rfl⟩
  | list h =>
    obtain ⟨t', ht'⟩ := exists_run_asSteps h t
    exact ⟨t', run_pathOf ht'⟩
  | tuple h =>
    obtain ⟨t', ht'⟩ := exists_run_asSteps h t
    exact ⟨t', run_pathOf ht'⟩

/-- A path that is continued with a literal is one path after the other. -/
theorem run_plus (id : Nat) (p : Path) (t : BuildState) :
    ∃ id' t', (plus (.path id (some p)) v).run t = .ok (.path id' (some (p ++ q))) t' := by
  have hread {items : List Literal} {s s' : BuildState}
      (h : (asSteps items).run s = .ok q.steps s') :
      ∃ id' t', (do
          return .path (← freshId) (some ⟨p.head, p.rest ++ (← asSteps items)⟩) : Build Literal).run
        t = .ok (.path id' (some (p ++ q))) t' := by
    have hfresh : freshId.run t = .ok t.fresh { t with fresh := t.fresh + 1 } := rfl
    obtain ⟨t', ht'⟩ := exists_run_asSteps h { t with fresh := t.fresh + 1 }
    refine ⟨t.fresh, t', ?_⟩
    simp [hfresh, ht', -bind_pure_comp]
    rfl
  cases h with
  | path id q => exact ⟨t.fresh, { t with fresh := t.fresh + 1 }, rfl⟩
  | list h => exact hread h
  | tuple h => exact hread h

end Literal.Continues

end TreePath
