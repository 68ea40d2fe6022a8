import TreePath.Proofs.Forest.Lineage

/-!
# Rows of siblings

`Forest.Row before cs after` says that the sibling links of the nodes in `cs` lead from one to the
next, out to `before` on the left and to `after` on the right. A row can be cut anywhere
(`row_append`), and changing one outer link of a row changes the end it belongs to and nothing else
(`Row.change_before`, `Row.change_after`). So an edit that takes a node out of a list of children,
or puts one in, is a matter of the two pieces on either side of it.

That the links of a forest agree is the same as that the children of every node stand in a row
without outer links, apart from what is said of parents (`WellLinked.row`, `wellLinked_of_row`).

The links are kept on every node, to the left and to the right, and agree with a list that is kept
on the parent. To speak of the links of a node by its place in that list means to compare places
before and after an edit, which differ by one from some place on. Rows avoid this. A row is defined
along the list, so that an induction on the list meets the two links of one node at a time, and what
an edit does to a list of children, it does by cutting it in two.

Only the node at an end can tell that a row was continued or cut off there. That the list has no
duplicates matters for that reason: were a node in it twice, then its link would have to be changed
at two places at once.
-/

namespace TreePath

namespace Forest

variable {f f' : Forest}

/-- The sibling links of these nodes lead from one to the next, and from the ends to `before` and
`after`. -/
def Row (f : Forest) : Option NodeId → List NodeId → Option NodeId → Prop
  | _, [], _ => True
  | before, c :: cs, after =>
    f.previous c = before ∧ f.next c = cs.head?.or after ∧ f.Row (some c) cs after

/-- A row of siblings can be cut anywhere; the two ends then look at each other. -/
theorem row_append {before after : Option NodeId} {as bs : List NodeId} :
    f.Row before (as ++ bs) after ↔
      f.Row before as (bs.head?.or after) ∧ f.Row (as.getLast?.or before) bs after := by
  induction as generalizing before with
  | nil => simp [Row]
  | cons a as ih =>
    have hhead : (as ++ bs).head?.or after = as.head?.or (bs.head?.or after) := by
      cases as <;> simp
    have hlast : (a :: as).getLast?.or before = as.getLast?.or (some a) := by
      cases as <;> simp [List.getLast?_cons]
    rw [List.cons_append, Row, Row, ih, hhead, hlast, and_assoc, and_assoc]

/-- A row is made of the sibling links of its nodes alone. -/
theorem Row.congr {before after : Option NodeId} {cs : List NodeId} (h : f.Row before cs after)
    (hprevious : ∀ c ∈ cs, f'.previous c = f.previous c) (hnext : ∀ c ∈ cs, f'.next c = f.next c) :
    f'.Row before cs after := by
  induction cs generalizing before with
  | nil => trivial
  | cons c cs ih =>
    obtain ⟨hp, hn, hrest⟩ := h
    refine ⟨?_, ?_, ih hrest ?_ ?_⟩
    · rw [hprevious c List.mem_cons_self, hp]
    · rw [hnext c List.mem_cons_self, hn]
    · exact fun d hd ↦ hprevious d (List.mem_cons_of_mem _ hd)
    · exact fun d hd ↦ hnext d (List.mem_cons_of_mem _ hd)

/-- A row with another link at its left end. -/
theorem Row.change_before {before before' after : Option NodeId} {cs : List NodeId}
    (h : f.Row before cs after) (hnodup : cs.Nodup)
    (hprevious : ∀ c ∈ cs, f'.previous c = if cs.head? = some c then before' else f.previous c)
    (hnext : ∀ c ∈ cs, f'.next c = f.next c) : f'.Row before' cs after := by
  cases cs with
  | nil => trivial
  | cons c cs =>
    obtain ⟨-, hn, hrest⟩ := h
    refine ⟨?_, ?_, hrest.congr ?_ ?_⟩
    · simpa using hprevious c List.mem_cons_self
    · rw [hnext c List.mem_cons_self, hn]
    · intro d hd
      have hne : c ≠ d := fun heq ↦ (List.nodup_cons.1 hnodup).1 (heq ▸ hd)
      simpa [hne] using hprevious d (List.mem_cons_of_mem _ hd)
    · exact fun d hd ↦ hnext d (List.mem_cons_of_mem _ hd)

/-- A row with another link at its right end. -/
theorem Row.change_after {before after after' : Option NodeId} {cs : List NodeId}
    (h : f.Row before cs after) (hnodup : cs.Nodup)
    (hprevious : ∀ c ∈ cs, f'.previous c = f.previous c)
    (hnext : ∀ c ∈ cs, f'.next c = if cs.getLast? = some c then after' else f.next c) :
    f'.Row before cs after' := by
  induction cs generalizing before with
  | nil => trivial
  | cons c cs ih =>
    obtain ⟨hp, hn, hrest⟩ := h
    obtain ⟨hc, hcs⟩ := List.nodup_cons.1 hnodup
    have hnextc := hnext c List.mem_cons_self
    refine ⟨?_, ?_, ih hrest hcs (fun d hd ↦ hprevious d (List.mem_cons_of_mem _ hd)) ?_⟩
    · rw [hprevious c List.mem_cons_self, hp]
    · -- the link changes only if the row ends here
      cases cs with
      | nil => simpa using hnextc
      | cons d ds =>
        have hlast : (c :: d :: ds).getLast? ≠ some c := by
          intro heq
          rw [List.getLast?_cons_cons] at heq
          exact hc (List.mem_of_getLast? heq)
        rw [hnextc, if_neg hlast, hn]
        rfl
    · intro d hd
      have hlast : (c :: cs).getLast? = cs.getLast? := by
        cases cs with
        | nil => cases hd
        | cons => exact List.getLast?_cons_cons
      rw [← hlast]
      exact hnext d (List.mem_cons_of_mem _ hd)

/-! ### Rows by places -/

/-- A row is known if each sibling has the right neighbours. -/
theorem row_of_getElem? {before after : Option NodeId} {cs : List NodeId}
    (hprevious : ∀ {i c : Nat}, cs[i]? = some c →
      f.previous c = if i = 0 then before else cs[i - 1]?)
    (hnext : ∀ {i c : Nat}, cs[i]? = some c → f.next c = cs[i + 1]?.or after) :
    f.Row before cs after := by
  induction cs generalizing before with
  | nil => trivial
  | cons c cs ih =>
    refine ⟨hprevious (i := 0) rfl, ?_, ih ?_ ?_⟩
    · simpa [List.head?_eq_getElem?] using hnext (i := 0) rfl
    · intro i d hd
      have := hprevious (i := i + 1) (by simpa using hd)
      cases i <;> simpa using this
    · intro i d hd
      simpa using hnext (i := i + 1) (by simpa using hd)

/-- The neighbour before a sibling in a row. -/
theorem Row.previous_eq {before after : Option NodeId} {cs : List NodeId}
    (h : f.Row before cs after) {i c : Nat} (hc : cs[i]? = some c) :
    f.previous c = if i = 0 then before else cs[i - 1]? := by
  induction cs generalizing before i with
  | nil => simp at hc
  | cons d cs ih =>
    obtain ⟨hp, -, hrest⟩ := h
    cases i with
    | zero =>
      obtain rfl : d = c := by simpa using hc
      simpa using hp
    | succ i =>
      rw [ih hrest (by simpa using hc)]
      cases i <;> simp

/-- The neighbour after it. -/
theorem Row.next_eq {before after : Option NodeId} {cs : List NodeId}
    (h : f.Row before cs after) {i c : Nat} (hc : cs[i]? = some c) :
    f.next c = cs[i + 1]?.or after := by
  induction cs generalizing before i with
  | nil => simp at hc
  | cons d cs ih =>
    obtain ⟨-, hn, hrest⟩ := h
    cases i with
    | zero =>
      obtain rfl : d = c := by simpa using hc
      simpa [List.head?_eq_getElem?] using hn
    | succ i => simpa using ih hrest (by simpa using hc)

/-! ### Rows and the agreement of links -/

namespace WellLinked

/-- The children of a node stand in a row. -/
theorem row (hf : f.WellLinked) (p : NodeId) : f.Row none (f.children p) none :=
  row_of_getElem? hf.previous_eq fun h ↦ by rw [hf.next_eq h, Option.or_none]

/-- The siblings of a node are its neighbours among the children of its parent. -/
theorem siblings_eq (hf : f.WellLinked) {p c : NodeId} {as bs : List NodeId}
    (h : f.children p = as ++ c :: bs) :
    f.previous c = as.getLast? ∧ f.next c = bs.head? := by
  have hrow := hf.row p
  rw [h, row_append] at hrow
  obtain ⟨-, hp, hn, -⟩ := hrow
  exact ⟨by rw [hp, Option.or_none], by rw [hn, Option.or_none]⟩

/-- A node without parent is a child of nobody. -/
theorem not_mem_children (hf : f.WellLinked) {c : NodeId} (hc : f.parent c = none) (p : NodeId) :
    c ∉ f.children p := by
  intro hmem
  rw [hf.mem_children_iff, hc] at hmem
  cases hmem

/-- Nobody is a child of two nodes. -/
theorem parent_unique (hf : f.WellLinked) {p q c : NodeId} (hp : c ∈ f.children p)
    (hq : c ∈ f.children q) : p = q :=
  Option.some.inj ((hf.mem_children_iff.1 hp).symm.trans (hf.mem_children_iff.1 hq))

end WellLinked

/-- Links agree when the children of every node stand in a row of distinct nodes of the forest that
have it for parent, nodes without parent have no siblings, and there are heights. -/
theorem wellLinked_of_row (hlt : ∀ {p c : NodeId}, c ∈ f.children p → c < f.size)
    (hmem : ∀ {p c : NodeId}, c ∈ f.children p ↔ f.parent c = some p)
    (hnodup : ∀ p : NodeId, (f.children p).Nodup)
    (hrow : ∀ p : NodeId, f.Row none (f.children p) none)
    (hnone : ∀ {c : NodeId}, f.parent c = none → f.previous c = none ∧ f.next c = none)
    (hacyclic : ∃ height : NodeId → Nat,
      ∀ {p c : NodeId}, f.parent c = some p → height c < height p) : f.WellLinked where
  child_lt_size := hlt
  mem_children_iff := hmem
  nodup_children := hnodup
  previous_eq := (hrow _).previous_eq
  next_eq h := by rw [(hrow _).next_eq h, Option.or_none]
  previous_eq_none h := (hnone h).1
  next_eq_none h := (hnone h).2
  acyclic := hacyclic

end Forest

end TreePath
