import TreePath.Config.Basic

/-!
# Keys are independent cells

A configuration is one tree, but to its callers each key is a cell of its own: what is assigned to a
key is found there, and keys that do not lie on one another's way have nothing to do with each other
(`Key.Apart`). Three walks have to agree for this on what a key means. Assigning goes through a
value that is no section by putting a section in its place, where looking up and removing give up;
so the first look at a part that is missing, and the look at one that is no section, have to come to
the same. They do, since both come to an empty section (`Section.ofValue`), in which nothing is
found and nothing removed (`follow?_cons`, `cut?_cons`).

With these two equations every statement about two chains of names is an induction on them side by
side, up to the name where they part.

The theorem has no condition on the keys. A key is cut at its dots and nowhere else, so that the
empty key and keys with empty parts are keys like any other. Of two keys one may extend the other,
and then they are not apart: what is assigned to the longer is seen through the shorter as part of a
section, and to assign to the shorter is to decide what is at the longer as well.
-/

namespace TreePath

/-! ### The parts of a key -/

namespace Key

/-- The names that a key consists of. -/
def parts (k : Key) : List String :=
  k.first :: k.more

/-- Neither key lies on the way to the other: no list of parts begins with the other one. -/
def Apart (k k' : Key) : Prop :=
  ¬ k.parts <+: k'.parts ∧ ¬ k'.parts <+: k.parts

instance (k k' : Key) : Decidable (k.Apart k') :=
  inferInstanceAs (Decidable (_ ∧ _))

/-- The parts of a key are what stands between the dots of its text. -/
theorem parts_ofText (s : String) : (ofText s).parts = Text.split '.' s := by
  rw [ofText]
  rcases hs : Text.split '.' s with - | ⟨part, parts⟩
  · exact absurd hs (Text.split_ne_nil '.' s)
  · rfl

/-- A text with a dot in it spells the key that goes on, from the part before it, with the one
after it. -/
theorem ofText_append (s t : String) :
    ofText (s ++ "." ++ t) = ⟨(ofText s).first, (ofText s).more ++ (ofText t).parts⟩ := by
  have hparts : (ofText (s ++ "." ++ t)).parts = (ofText s).parts ++ (ofText t).parts := by
    rw [parts_ofText, parts_ofText, parts_ofText]
    exact Text.split_append '.' s t
  have hfirst : (ofText (s ++ "." ++ t)).first = (ofText s).first := List.head_eq_of_cons_eq hparts
  have hmore : (ofText (s ++ "." ++ t)).more = (ofText s).more ++ (ofText t).parts :=
    List.tail_eq_of_cons_eq hparts
  rw [← hfirst, ← hmore]

end Key

namespace Section

/-! ### One name at a time -/

/-- Nothing is found in an empty section. -/
theorem follow?_nil (name : String) (more : List String) :
    follow? [] name more = none := by
  cases more <;> rfl

/-- Nothing is removed from an empty section. -/
theorem cut?_nil (name : String) (more : List String) : cut? [] name more = none := by
  cases more <;> rfl

/-- What is found beyond a name is what is found in the section there, if that is one. -/
theorem follow?_cons (s : Section) (name next : String) (rest : List String) :
    s.follow? name (next :: rest) = (ofValue (Entries.get? s name)).follow? next rest := by
  rw [follow?]
  split
  · next members hmembers => rw [hmembers, ofValue]
  · next hother =>
    rw [ofValue, follow?_nil]
    exact hother

/-- What is removed beyond a name is what is removed from the section there, if that is one. -/
theorem cut?_cons (s : Section) (name next : String) (rest : List String) :
    s.cut? name (next :: rest) =
      ((ofValue (Entries.get? s name)).cut? next rest).map fun left ↦
        Entries.put s name (.object left) := by
  rw [cut?]
  split
  · next members hmembers => rw [hmembers, ofValue]
  · next hother =>
    rw [ofValue, cut?_nil, Option.map_none]
    exact hother

/-- What a chain of names leads to depends on the value at the first of them only. -/
theorem follow?_congr {s s' : Section} {name : String}
    (h : Entries.get? s name = Entries.get? s' name) (more : List String) :
    s.follow? name more = s'.follow? name more := by
  cases more with
  | nil => exact h
  | cons next rest => rw [follow?_cons, follow?_cons, h]

/-- A chain of names that goes on leads to what it leads to in the section at its first end. -/
theorem follow?_append (s : Section) (name : String) (more : List String) (next : String)
    (rest : List String) :
    s.follow? name (more ++ next :: rest) =
      (ofValue (s.follow? name more)).follow? next rest := by
  induction more generalizing s name with
  | nil => exact follow?_cons s name next rest
  | cons middle more ih => rw [List.cons_append, follow?_cons, follow?_cons, ih]

/-! ### Two chains of names -/

/-- Of two values assigned at the end of one chain, the second stays. -/
theorem assign_assign_self (s : Section) (name : String) (more : List String)
    (value other : Json) :
    (s.assign name more value).assign name more other = s.assign name more other := by
  induction more generalizing s name with
  | nil => exact Entries.put_put_self s name value other
  | cons next rest ih =>
    rw [assign, assign, assign, Entries.get?_put_self, Entries.put_put_self]
    -- what the second assignment finds below the name is the section that the first left there
    have hinner := ih (ofValue (Entries.get? s name)) next
    exact congrArg (fun inner ↦ Entries.put s name (.object inner)) hinner

/-- Chains of which neither begins with the other part at some name. There both have another one, or
they have the same name and part later. -/
theorem parts_later {name name' : String} {more more' : List String}
    (h : ¬ name :: more <+: name' :: more') (h' : ¬ name' :: more' <+: name :: more) :
    name' ≠ name ∨ name' = name ∧ ∃ next rest next' rest', more = next :: rest ∧
      more' = next' :: rest' ∧ ¬ next :: rest <+: next' :: rest' ∧
      ¬ next' :: rest' <+: next :: rest := by
  by_cases heq : name' = name
  · subst heq
    rw [List.cons_prefix_cons] at h h'
    have hmore : ¬ more <+: more' := fun hprefix ↦ h ⟨rfl, hprefix⟩
    have hmore' : ¬ more' <+: more := fun hprefix ↦ h' ⟨rfl, hprefix⟩
    rcases more with - | ⟨next, rest⟩
    · exact absurd List.nil_prefix hmore
    · rcases more' with - | ⟨next', rest'⟩
      · exact absurd List.nil_prefix hmore'
      · exact Or.inr ⟨rfl, next, rest, next', rest', rfl, rfl, hmore, hmore'⟩
  · exact Or.inl heq

/-- An assignment changes nothing at the end of a chain that parts from its own. -/
theorem follow?_assign_of_apart (s : Section) {name name' : String} {more more' : List String}
    (value : Json) (h : ¬ name :: more <+: name' :: more')
    (h' : ¬ name' :: more' <+: name :: more) :
    (s.assign name more value).follow? name' more' = s.follow? name' more' := by
  induction more generalizing s name name' more' with
  | nil =>
    obtain hne | ⟨-, next, rest, -, -, hnil, -⟩ := parts_later h h'
    · exact follow?_congr (Entries.get?_put_of_ne s value hne) more'
    · cases hnil
  | cons next rest ih =>
    rw [assign]
    -- the chains part at this name, or go on together in the section that is put back there
    obtain hne | ⟨rfl, _, _, next', rest', ⟨⟩, rfl, hrest, hrest'⟩ := parts_later h h'
    · exact follow?_congr (Entries.get?_put_of_ne s _ hne) more'
    · rw [follow?_cons, follow?_cons, Entries.get?_put_self]
      exact ih (ofValue (Entries.get? s name')) hrest hrest'

/-- There is something to remove at the end of a chain exactly if there is something to find. -/
theorem isSome_cut? (s : Section) (name : String) (more : List String) :
    (s.cut? name more).isSome = (s.follow? name more).isSome := by
  induction more generalizing s name with
  | nil =>
    rw [cut?, follow?, ← Entries.has]
    cases Entries.has s name <;> rfl
  | cons next rest ih => rw [cut?_cons, follow?_cons, Option.isSome_map, ih]

/-- What was removed is not found any more. -/
theorem follow?_of_cut?_self {s left : Section} {name : String} {more : List String}
    (h : s.cut? name more = some left) : left.follow? name more = none := by
  induction more generalizing s left name with
  | nil =>
    rw [cut?] at h
    split at h
    · cases h
      exact Entries.get?_drop_self s name
    · cases h
  | cons next rest ih =>
    rw [cut?_cons, Option.map_eq_some_iff] at h
    obtain ⟨inner, hinner, rfl⟩ := h
    rw [follow?_cons, Entries.get?_put_self]
    exact ih hinner

/-- A removal changes nothing at the end of a chain that parts from its own. -/
theorem follow?_of_cut?_of_apart {s left : Section} {name name' : String}
    {more more' : List String} (hcut : s.cut? name more = some left)
    (h : ¬ name :: more <+: name' :: more') (h' : ¬ name' :: more' <+: name :: more) :
    left.follow? name' more' = s.follow? name' more' := by
  induction more generalizing s left name name' more' with
  | nil =>
    obtain hne | ⟨-, next, rest, -, -, hnil, -⟩ := parts_later h h'
    · rw [cut?] at hcut
      split at hcut
      · cases hcut
        exact follow?_congr (Entries.get?_drop_of_ne s hne) more'
      · cases hcut
    · cases hnil
  | cons next rest ih =>
    rw [cut?_cons, Option.map_eq_some_iff] at hcut
    obtain ⟨inner, hinner, rfl⟩ := hcut
    obtain hne | ⟨rfl, _, _, next', rest', ⟨⟩, rfl, hrest, hrest'⟩ := parts_later h h'
    · exact follow?_congr (Entries.get?_put_of_ne s _ hne) more'
    · rw [follow?_cons, follow?_cons, Entries.get?_put_self]
      exact ih hinner hrest hrest'

end Section

/-! ### Configurations -/

namespace Config

/-- What a removal comes to: if the key is present, what its section has left without it, and else
everything there was. -/
theorem remove_cases (c : Config) (k : String) :
    (∃ left, c.values.drop? (.ofText k) = some left ∧ (c.get? k).isSome = true ∧
        c.remove k = (true, { c with values := left })) ∨
      (c.get? k).isSome = false ∧ c.remove k = (false, c) := by
  have hiff : (c.values.drop? (.ofText k)).isSome = (c.get? k).isSome :=
    Section.isSome_cut? c.values _ _
  rw [remove, remove?]
  rcases hdrop : c.values.drop? (.ofText k) with - | left
  · rw [hdrop] at hiff
    exact Or.inr ⟨hiff.symm, rfl⟩
  · rw [hdrop] at hiff
    exact Or.inl ⟨left, rfl, hiff.symm, rfl⟩

/-- **The keys of a configuration are independent cells.** What is assigned to a key is found there;
keys of which neither lies on the way to the other do not disturb each other, whether one is
assigned or removed; a key that goes on from an assigned one finds what it finds in the value by
itself; the last of several assignments to a key is as good as alone. A removal tells whether the
key was present, nothing is found there afterwards, and if it was not present nothing has changed.
-/
theorem keys_are_cells (c : Config) (k : String) :
    (∀ v d, (c.set k v).get k d = v) ∧
      (∀ k', (Key.ofText k).Apart (.ofText k') → ∀ d,
        (∀ v, (c.set k v).get k' d = c.get k' d) ∧ (c.remove k).2.get k' d = c.get k' d) ∧
      (∀ v x d, (c.set k v).get (k ++ "." ++ x) d =
        Config.get { c with values := Section.ofValue (some v) } x d) ∧
      (∀ v₁ v₂, (c.set k v₁).set k v₂ = c.set k v₂) ∧
      (c.remove k).1 = (c.get? k).isSome ∧
      ((c.remove k).1 = true → ∀ d, (c.remove k).2.get k d = d) ∧
      ((c.remove k).1 = false → (c.remove k).2 = c) := by
  have hself (v : Json) : (c.set k v).get? k = some v := Section.get?_put_self ..
  refine ⟨fun v d ↦ ?_, fun k' hapart d ↦ ⟨fun v ↦ ?_, ?_⟩, fun v x d ↦ ?_, fun v₁ v₂ ↦ ?_, ?_⟩
  · rw [get, hself, Option.getD_some]
  · have hother : (c.set k v).get? k' = c.get? k' :=
      Section.follow?_assign_of_apart c.values v hapart.1 hapart.2
    rw [get, hother, get]
  · obtain ⟨left, hdrop, -, hremove⟩ | ⟨-, hremove⟩ := c.remove_cases k
    · have hother : get? { c with values := left } k' = c.get? k' :=
        Section.follow?_of_cut?_of_apart hdrop hapart.1 hapart.2
      rw [hremove, get, hother, get]
    · rw [hremove]
  · have hbeyond : (c.set k v).get? (k ++ "." ++ x) =
        get? { c with values := Section.ofValue (some v) } x := by
      rw [get?, Section.get?, Key.ofText_append, Key.parts, Section.follow?_append]
      exact congrArg (fun found ↦ (Section.ofValue found).get? (.ofText x)) (hself v)
    rw [get, hbeyond, get]
  · exact congrArg (fun values ↦ { c with values }) (Section.assign_assign_self c.values _ _ v₁ v₂)
  · obtain ⟨left, hdrop, hpresent, hremove⟩ | ⟨habsent, hremove⟩ := c.remove_cases k
    · have hnone : get? { c with values := left } k = none := Section.follow?_of_cut?_self hdrop
      rw [hremove]
      refine ⟨hpresent.symm, fun _ d ↦ ?_, nofun⟩
      rw [get, hnone, Option.getD_none]
    · rw [hremove]
      exact ⟨habsent.symm, nofun, fun _ ↦ rfl⟩

/-- A configuration with a number, a section and nothing at all for values. -/
def sampleCells : Config :=
  ⟨"cells.json", [("depth", .int 2), ("engine", .object [("", .bool true)]), ("file", .null)]⟩

/-- In the sample, a value can be assigned below the number, which hides it; a neighbour of that
value is not found before or after. The nothing is present, and can be removed. -/
theorem cells_sample :
    (Key.ofText "depth.limit").Apart (.ofText "depth.least") ∧
      (∀ d, (sampleCells.set "depth.limit" .null).get "depth.limit" d = .null) ∧
      (∀ d, (sampleCells.set "depth.limit" .null).get "depth.least" d = d) ∧
      (sampleCells.remove "file").1 = true ∧
      (∀ d, (sampleCells.remove "file").2.get "file" d = d) ∧
      (sampleCells.remove "engine.").1 = true ∧
      (sampleCells.remove "depth.").1 = false ∧ (sampleCells.remove "depth.").2 = sampleCells := by
  have hapart : (Key.ofText "depth.limit").Apart (.ofText "depth.least") := by decide +kernel
  obtain ⟨hself, hother, -⟩ := keys_are_cells sampleCells "depth.limit"
  obtain ⟨-, -, -, -, -, hremoved, -⟩ := keys_are_cells sampleCells "file"
  obtain ⟨-, -, -, -, -, -, hleft⟩ := keys_are_cells sampleCells "depth."
  have hfile : (sampleCells.remove "file").1 = true := by decide +kernel
  have hdepth : (sampleCells.remove "depth.").1 = false := by decide +kernel
  refine ⟨hapart, hself .null, fun d ↦ ?_, hfile, hremoved hfile, by decide +kernel, hdepth,
    hleft hdepth⟩
  exact ((hother "depth.least" hapart d).1 .null).trans rfl

end Config

end TreePath
