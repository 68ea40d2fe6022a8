import Mathlib.Data.Finset.Dedup
import Mathlib.Data.Finset.Card
import TreePath.Literal.Expression
import TreePath.Proofs.Step.Equality

/-!
# Comparing steps and paths

What a caller can ask of elements is a step or a path (`Query`), and callers compare queries and put
them into sets. Equality of queries is sameness of a normal form, the hash keys (`Query.beq_iff`),
so it is an equivalence relation, and it is what the comparison of literals comes to
(`Query.equal_literal`). A set takes two queries for one element if their hash keys agree and they
are equal; the first follows from the second (`Query.sameElement_literal`). Hence the size of a set
is the number of classes of equal queries in it, whatever makes them and in whatever order they come
(`Query.run_countDistinct`).

Equality of functions is sameness of objects, which a number stands for here. Whatever follows needs
no more of it than that it is decidable and an equivalence, and this is inherited by queries from
their hash keys. Nothing is proved by induction on steps in this module. The induction was made
where hash keys were compared (`TreePath.Proofs.Step.Equality`).
-/

namespace TreePath

/-- A step, or a path with its number. -/
inductive Query where
  /-- A step. -/
  | step (s : Step)
  /-- A path. -/
  | path (id : Nat) (p : Path)

namespace Query

/-- A query as a literal. -/
def literal : Query → Literal
  | step s => .step s
  | path id p => .path id (some p)

/-- What the hash of a query is made of: whether it is a path, and the hash keys of its steps. -/
def hashKeys : Query → Bool × List Step.HashKey
  | step s => (false, [s.hashKey])
  | path _ p => (true, Step.hashKeys p.steps)

/-- Steps are compared with steps, and paths with paths. -/
instance : BEq Query where
  beq
    | step s, step t => s.same t
    | path _ p, path _ q => p.same q
    | _, _ => false

/-- Queries are equal exactly if their hash keys are the same. -/
theorem beq_iff (v w : Query) : (v == w) = true ↔ v.hashKeys = w.hashKeys := by
  cases v with
  | step s =>
    cases w with
    | step t =>
      show s.same t = true ↔ (false, [s.hashKey]) = (false, [t.hashKey])
      rw [Step.same_iff, Prod.mk.injEq, List.cons.injEq]
      simp
    | path j q => exact ⟨nofun, nofun⟩
  | path i p =>
    cases w with
    | step t => exact ⟨nofun, nofun⟩
    | path j q =>
      show p.same q = true ↔ (true, Step.hashKeys p.steps) = (true, Step.hashKeys q.steps)
      rw [Path.same_iff, Prod.mk.injEq, and_iff_right rfl]

/-- Equality of queries is reflexive, symmetric and transitive. -/
theorem equivalence_beq : Equivalence fun v w : Query ↦ (v == w) = true where
  refl v := (beq_iff v v).2 rfl
  symm h := (beq_iff _ _).2 ((beq_iff _ _).1 h).symm
  trans h h' := (beq_iff _ _).2 (((beq_iff _ _).1 h).trans ((beq_iff _ _).1 h'))

/-! ### As literals -/

/-- To compare queries as literals is to compare them. -/
theorem same?_literal (v w : Query) : Literal.same? v.literal w.literal = some (v == w) := by
  cases v <;> cases w <;> rfl

/-- Comparing two queries always has an answer. -/
theorem equal_literal (v w : Query) : v.literal.equal w.literal = pure (v == w) := by
  rw [Literal.equal, same?_literal]

/-- A set takes equal queries, and no others, for one element. -/
theorem sameElement_literal (v w : Query) : v.literal.sameElement w.literal = (v == w) := by
  -- equal queries agree in their hash keys, so looking at these first makes no difference
  have hkeys {b c : Bool} (h : c = true → b = true) : (b && c) = c := by
    cases c with
    | false => rw [Bool.and_false]
    | true => rw [h rfl, Bool.and_true]
  cases v with
  | step s =>
    cases w with
    | step t =>
      refine hkeys fun h ↦ ?_
      rw [(Step.same_iff s t).1 h, Step.HashKey.same_self]
    | path j q => rfl
  | path i p =>
    cases w with
    | step t => rfl
    | path j q =>
      refine hkeys fun h ↦ ?_
      rw [(Path.same_iff p q).1 h, Step.HashKey.sameAll_self]

/-- Every query can be hashed. -/
theorem keyFault?_literal (v : Query) : v.literal.keyFault? = none := by
  cases v <;> rfl

/-! ### Classes of equal queries -/

/-- Equality of queries. -/
instance setoid : Setoid Query := ⟨fun v w ↦ (v == w) = true, equivalence_beq⟩

instance (v w : Query) : Decidable (v ≈ w) := inferInstanceAs (Decidable ((v == w) = true))

/-- The queries that are equal to a query. -/
def cell (v : Query) : Quotient setoid := Quotient.mk setoid v

/-- Queries go to the same cell of a set exactly if they are equal. -/
theorem cell_eq_iff {v w : Query} : v.cell = w.cell ↔ (v == w) = true :=
  Quotient.eq (r := setoid)

/-- How many different queries there are among some. -/
def classes (vs : List Query) : Nat :=
  (vs.map cell).toFinset.card

/-- Queries that come in another order have as many classes. -/
theorem classes_perm {vs ws : List Query} (h : vs.Perm ws) : classes vs = classes ws := by
  rw [classes, classes, List.toFinset_eq_of_perm _ _ (h.map cell)]

/-- A query whose equals are there already makes no new class. -/
theorem classes_cons_of_mem {v : Query} {vs : List Query} (h : v.cell ∈ vs.map cell) :
    classes (v :: vs) = classes vs := by
  rw [classes, List.map_cons, List.toFinset_cons, Finset.insert_eq_of_mem (List.mem_toFinset.2 h)]
  rfl

open Expression in
/-- Queries made one after the other are the first of them, and the rest made after it. -/
theorem exists_of_evaluateAll_cons {vars : Variables} {e : Expression} {es : List Expression}
    {vs : List Query} {s s' : BuildState}
    (h : (evaluateAll vars (e :: es)).run s = .ok (vs.map literal) s') :
    ∃ v rest t, vs = v :: rest ∧ (evaluate vars e).run s = .ok v.literal t ∧
      (evaluateAll vars es).run t = .ok (rest.map literal) s' := by
  rw [evaluateAll, EStateM.run_bind] at h
  cases he : (evaluate vars e).run s with
  | error err t =>
    rw [he] at h
    cases h
  | ok x t =>
    rw [he] at h
    simp only [EStateM.run_bind] at h
    cases hes : (evaluateAll vars es).run t with
    | error err t' =>
      rw [hes] at h
      cases h
    | ok xs t' =>
      rw [hes] at h
      obtain ⟨hcons, rfl⟩ : x :: xs = vs.map literal ∧ t' = s' := by simpa using h
      obtain ⟨v, rest, rfl, rfl, rfl⟩ := List.map_eq_cons_iff.1 hcons.symm
      exact ⟨v, rest, t, rfl, rfl, hes⟩

open Expression in
/-- The size of a set that some queries are in already, no two of them equal, when further ones are
put into it. -/
theorem run_countDistinct {vars : Variables} {es : List Expression} {vs present : List Query}
    {s s' : BuildState} (hes : (evaluateAll vars es).run s = .ok (vs.map literal) s')
    (hpresent : (present.map cell).Nodup) :
    (countDistinct vars es (present.map literal)).run s = .ok (classes (present ++ vs)) s' := by
  induction es generalizing vs present s with
  | nil =>
    obtain ⟨hnil, rfl⟩ : [] = vs.map literal ∧ s = s' := by simpa [evaluateAll] using hes
    obtain rfl : vs = [] := List.map_eq_nil_iff.1 hnil.symm
    rw [countDistinct, List.append_nil, classes, List.toFinset_card_of_nodup hpresent]
    simp
  | cons e es ih =>
    obtain ⟨v, rest, t, rfl, he, hrest⟩ := exists_of_evaluateAll_cons hes
    -- whether the first query is put in depends on whether its cell is there already
    have hpresence : ((present.map literal).any fun w ↦ w.sameElement v.literal) = true ↔
        v.cell ∈ present.map cell := by
      simp only [List.any_eq_true, List.mem_map, exists_exists_and_eq_and, sameElement_literal,
        cell_eq_iff]
    rw [countDistinct, EStateM.run_bind, he]
    simp only [keyFault?_literal]
    by_cases hmem : v.cell ∈ present.map cell
    · rw [if_pos (hpresence.2 hmem), ih hrest hpresent]
      have hmem' : v.cell ∈ (present ++ rest).map cell := by
        rw [List.map_append]
        exact List.mem_append_left _ hmem
      rw [classes_perm List.perm_middle, classes_cons_of_mem hmem']
    · have hcons : ((v :: present).map cell).Nodup := List.nodup_cons.2 ⟨hmem, hpresent⟩
      rw [if_neg fun h ↦ hmem (hpresence.1 h), classes_perm List.perm_middle]
      exact ih hrest hcons

end Query

end TreePath
