import Mathlib.Logic.Basic
import TreePath.Proofs.Config.Proper

/-!
# Laying one section over another

Layering is a recursion down two sections at once, which may part at any level: a name may be in one
of them only, and its values may be two objects, or one, or none. At a single name it is simple
(`get?_merge`, `keys_merge`): the upper section decides whether anything of it is there, the lower
one only what it is laid over. Everything else is an induction on the upper section by these two.

Two sections count as equal if they are mappings with equal values, whatever the order of their
members (`Json.Alike`). A section laid over another is equal to what it was before exactly if no
section on the way, at any depth, lacks a name of the section below it (`alike_merge_iff`). After
that there is nothing left to be added: to lay a section over another twice is to lay it once, to
the order of the members (`merge_merge_self`).
-/

namespace TreePath

namespace Section

variable {base s : Section}

/-! ### One value over another -/

/-- A section laid over a section is the two of them merged. -/
theorem layered_object (inner members : Section) :
    layered (some (.object inner)) (.object members) = .object (merge inner members) := by
  rw [layered]

/-- A value takes the place of what is there: not both of them are objects. -/
def Replaces (b : Option Json) (v : Json) : Prop :=
  ∀ inner members : Section, b = some (.object inner) → v ≠ .object members

/-- What replaces a value comes in its place unchanged. -/
theorem layered_of_replaces {b : Option Json} {v : Json} (h : Replaces b v) : layered b v = v := by
  cases v with
  | object members =>
    rw [layered]
    exact fun inner hb ↦ h inner members hb rfl
  | _ => rw [layered]; nofun

/-- There is no third case: a value replaces what was there unless both are sections. -/
theorem replaces_or_objects (b : Option Json) (v : Json) :
    Replaces b v ∨ ∃ inner members : Section, b = some (.object inner) ∧ v = .object members := by
  by_cases h : ∃ inner members : Section, b = some (.object inner) ∧ v = .object members
  · exact .inr h
  · exact .inl fun inner members hb hv ↦ h ⟨inner, members, hb, hv⟩

/-! ### One name at a time -/

/-- The entries of a section are laid over one after the other. -/
theorem merge_cons (base : Section) (name : String) (v : Json) (rest : Section) :
    merge base ((name, v) :: rest) =
      merge (Entries.put base name (layered (Entries.get? base name) v)) rest := by
  rw [merge]

/-- What is found at a name: the value of the upper section laid over that of the lower one, or the
value of the lower one if the upper has none. -/
theorem get?_merge (hs : (Entries.keys s).Nodup) (name : String) :
    Entries.get? (merge base s) name =
      match Entries.get? s name with
      | some v => some (layered (Entries.get? base name) v)
      | none => Entries.get? base name := by
  induction s generalizing base with
  | nil => rfl
  | cons e rest ih =>
    obtain ⟨first, v⟩ := e
    obtain ⟨hfirst, hrest⟩ := List.nodup_cons.1 hs
    rw [merge_cons, ih hrest, Entries.get?_cons]
    by_cases hname : first = name
    · subst hname
      rw [if_pos rfl, Entries.get?_eq_none_iff.2 hfirst, Entries.get?_put_self]
    · rw [if_neg hname, Entries.get?_put_of_ne _ _ (Ne.symm hname)]

/-- A name that the upper section has is looked up in both. -/
theorem get?_merge_of_eq_some (base : Section) (hs : (Entries.keys s).Nodup) {name : String}
    {v : Json} (h : Entries.get? s name = some v) :
    Entries.get? (merge base s) name = some (layered (Entries.get? base name) v) := by
  rw [get?_merge hs, h]

/-- A name that it lacks is looked up in the lower one. -/
theorem get?_merge_of_eq_none (base : Section) (hs : (Entries.keys s).Nodup) {name : String}
    (h : Entries.get? s name = none) :
    Entries.get? (merge base s) name = Entries.get? base name := by
  rw [get?_merge hs, h]

/-- The names of the lower section come first, then the new ones of the upper. -/
theorem keys_merge (hs : (Entries.keys s).Nodup) :
    Entries.keys (merge base s) =
      Entries.keys base ++ (Entries.keys s).filter fun name ↦ name ∉ Entries.keys base := by
  induction s generalizing base with
  | nil => exact (List.append_nil _).symm
  | cons e rest ih =>
    obtain ⟨first, v⟩ := e
    obtain ⟨hfirst, hrest⟩ := List.nodup_cons.1 hs
    rw [merge_cons, ih hrest, Entries.keys_put, Entries.keys_cons]
    by_cases hmem : first ∈ Entries.keys base
    · rw [if_pos hmem, List.filter_cons_of_neg (by simpa using hmem)]
    · rw [if_neg hmem, List.filter_cons_of_pos (by simpa using hmem), List.append_assoc]
      -- the name that is added does not come again
      have hrest' : (Entries.keys rest).filter (fun name ↦ name ∉ Entries.keys base ++ [first]) =
          (Entries.keys rest).filter fun name ↦ name ∉ Entries.keys base := by
        refine List.filter_congr fun name hname ↦ ?_
        have hne : name ≠ first := fun heq ↦ hfirst (heq ▸ hname)
        simp [hne]
      rw [hrest']
      rfl

/-- The names are those of both sections. -/
theorem mem_keys_merge (hs : (Entries.keys s).Nodup) {name : String} :
    name ∈ Entries.keys (merge base s) ↔ name ∈ Entries.keys base ∨ name ∈ Entries.keys s := by
  rw [keys_merge hs, List.mem_append, List.mem_filter]
  by_cases h : name ∈ Entries.keys base <;> simp [h]

/-- Merging makes no name twice. -/
theorem nodup_keys_merge (hbase : (Entries.keys base).Nodup) (s : Section) :
    (Entries.keys (merge base s)).Nodup := by
  induction s generalizing base with
  | nil => exact hbase
  | cons e rest ih =>
    rw [merge_cons]
    exact ih (Entries.nodup_keys_put hbase e.1 _)

/-- A member of the merged section is one of the lower section, or the value of a member of the
upper one laid over what is below it. -/
theorem of_mem_merge (hbase : (Entries.keys base).Nodup) (hs : (Entries.keys s).Nodup)
    {e : String × Json} (he : e ∈ merge base s) :
    e ∈ base ∨ ∃ v, Entries.get? s e.1 = some v ∧ e.2 = layered (Entries.get? base e.1) v := by
  obtain ⟨name, w⟩ := e
  have hget := (Entries.get?_eq_some_iff (nodup_keys_merge hbase s)).2 he
  cases hv : Entries.get? s name with
  | some v =>
    rw [get?_merge_of_eq_some _ hs hv] at hget
    exact .inr ⟨v, rfl, (Option.some.inj hget).symm⟩
  | none =>
    rw [get?_merge_of_eq_none _ hs hv] at hget
    exact .inl (Entries.mem_of_get?_eq_some hget)

/-! ### All levels at once -/

/-- What holds wherever a value takes the place of another, and holds of two objects if it holds of
their values name by name, holds of every value over another. -/
theorem values_induction {P : Option Json → Json → Prop}
    (replaced : ∀ b v, v.Proper → Replaces b v → P b v)
    (objects : ∀ inner members : Section, inner.Proper → members.Proper →
      (∀ name v, Entries.get? members name = some v → P (Entries.get? inner name) v) →
      P (some (.object inner)) (.object members))
    {v : Json} (hv : v.Proper) (b : Option Json) (hb : ∀ w, b = some w → w.Proper) : P b v := by
  -- the induction is on what makes the upper value proper, which offers all members of an object;
  -- that the whole is proper is still needed in each case
  have hwhole := hv
  induction hv generalizing b with
  | plain h =>
    rcases replaces_or_objects b _ with hreplaces | ⟨inner, members, -, hobject⟩
    · exact replaced b _ hwhole hreplaces
    · rw [hobject] at h
      cases h
  | array h =>
    rcases replaces_or_objects b _ with hreplaces | ⟨inner, members, -, hobject⟩
    · exact replaced b _ hwhole hreplaces
    · cases hobject
  | object hkeys h ih =>
    rcases replaces_or_objects b _ with hreplaces | ⟨inner, members, rfl, hobject⟩
    · exact replaced b _ hwhole hreplaces
    · obtain rfl := Json.object.inj hobject.symm
      have hinner : Section.Proper inner := hb _ rfl
      refine objects inner members hinner hwhole fun name v hv ↦ ?_
      have hmem : (name, v) ∈ members := Entries.mem_of_get?_eq_some hv
      exact ih _ hmem _ (fun w hw ↦ hinner.of_get? hw) (h _ hmem)

/-- What is proved of layered values so needs of the first kind only that they are unchanged. -/
theorem layered_induction {P : Option Json → Json → Prop}
    (replaced : ∀ b v, v.Proper → layered b v = v → P b v)
    (objects : ∀ inner members : Section, inner.Proper → members.Proper →
      (∀ name v, Entries.get? members name = some v → P (Entries.get? inner name) v) →
      P (some (.object inner)) (.object members))
    {v : Json} (hv : v.Proper) (b : Option Json) (hb : ∀ w, b = some w → w.Proper) : P b v :=
  values_induction (fun b v hv h ↦ replaced b v hv (layered_of_replaces h)) objects hv b hb

/-- A value laid over another is proper if both are. -/
theorem proper_layered {v : Json} (hv : v.Proper) (b : Option Json)
    (hb : ∀ w, b = some w → w.Proper) : (layered b v).Proper := by
  refine layered_induction (P := fun b v ↦ (layered b v).Proper) ?_ ?_ hv b hb
  · intro b v hv heq
    rw [heq]
    exact hv
  · intro inner members hinner hmembers ih
    rw [layered_object]
    refine proper_iff.2 ⟨nodup_keys_merge hinner.nodup_keys members, fun e he ↦ ?_⟩
    obtain hbelow | ⟨v, hv, heq⟩ := of_mem_merge hinner.nodup_keys hmembers.nodup_keys he
    · exact (proper_iff.1 hinner).2 e hbelow
    · rw [heq]
      exact ih e.1 v hv

/-- So is a section merged with another. -/
theorem Proper.merge (hbase : base.Proper) (hs : s.Proper) : (Section.merge base s).Proper := by
  have h := proper_layered hs (some (.object base)) fun w hw ↦ Option.some.inj hw ▸ hbase
  rwa [layered_object] at h

/-! ### Laying over twice -/

/-- To lay names over names that include them adds none. -/
theorem keys_merge_of_subset (hs : (Entries.keys s).Nodup)
    (h : ∀ name ∈ Entries.keys s, name ∈ Entries.keys base) :
    Entries.keys (Section.merge base s) = Entries.keys base := by
  have hnone : (Entries.keys s).filter (fun name ↦ name ∉ Entries.keys base) = [] :=
    List.filter_eq_nil_iff.2 fun name hname ↦ by simpa using h name hname
  rw [keys_merge hs, hnone, List.append_nil]

/-- A value laid over itself stays as it is. -/
theorem layered_self {v : Json} (hv : v.Proper) : layered (some v) v = v := by
  refine layered_induction (P := fun b v ↦ b = some v → layered b v = v) ?_ ?_ hv (some v)
    (fun w hw ↦ Option.some.inj hw ▸ hv) rfl
  · intro b v _ heq _
    exact heq
  · intro members members' hmembers _ ih heq
    obtain rfl : members = members' := by simpa using heq
    have hkeys := keys_merge_of_subset hmembers.nodup_keys fun _ hname ↦ hname
    rw [layered_object]
    refine congrArg Json.object (Entries.eq_of_keys_eq (hkeys ▸ hmembers.nodup_keys) hkeys ?_)
    intro name
    cases hv : Entries.get? members name with
    | none => rw [get?_merge_of_eq_none _ hmembers.nodup_keys hv, hv]
    | some v => rw [get?_merge_of_eq_some _ hmembers.nodup_keys hv, ih name v hv hv]

/-- To lay a value over another twice is to lay it over once. -/
theorem layered_layered {v : Json} (hv : v.Proper) (b : Option Json)
    (hb : ∀ w, b = some w → w.Proper) : layered b (layered b v) = layered b v := by
  refine layered_induction (P := fun b v ↦ layered b (layered b v) = layered b v) ?_ ?_ hv b hb
  · intro b v _ heq
    rw [heq, heq]
  · intro inner members hinner hmembers ih
    have hmerge := hinner.merge hmembers
    have hkeys : Entries.keys (Section.merge inner (Section.merge inner members)) =
        Entries.keys (Section.merge inner members) := by
      rw [keys_merge hmerge.nodup_keys, keys_merge hmembers.nodup_keys, List.filter_append,
        List.filter_filter]
      simp
    rw [layered_object, layered_object]
    refine congrArg Json.object (Entries.eq_of_keys_eq (hkeys ▸ hmerge.nodup_keys) hkeys ?_)
    intro name
    cases hv : Entries.get? members name with
    | some v =>
      have hget := get?_merge_of_eq_some inner hmembers.nodup_keys hv
      rw [get?_merge_of_eq_some _ hmerge.nodup_keys hget, hget, ih name v hv]
    | none =>
      have hget := get?_merge_of_eq_none inner hmembers.nodup_keys hv
      cases hw : Entries.get? inner name with
      | none =>
        rw [hw] at hget
        rw [get?_merge_of_eq_none _ hmerge.nodup_keys hget, hw, hget]
      | some w =>
        rw [hw] at hget
        rw [get?_merge_of_eq_some _ hmerge.nodup_keys hget, hw, hget,
          layered_self (hinner.of_get? hw)]

/-- **Layering settles at once.** To lay a section over another twice is to lay it over once. -/
theorem merge_merge_self (hbase : base.Proper) (hs : s.Proper) :
    Section.merge base (Section.merge base s) = Section.merge base s := by
  have h := layered_layered hs (some (.object base)) fun w hw ↦ Option.some.inj hw ▸ hbase
  rw [layered_object, layered_object] at h
  exact Json.object.inj h

end Section

/-! ### Equal as mappings -/

/-- Values that are equal if the order of the members of an object does not count, at any depth. -/
inductive Json.Alike : Json → Json → Prop
  /-- Values that are the same. -/
  | same (v : Json) : Alike v v
  /-- Arrays of the same length with equal items. -/
  | array {vs ws : List Json} (hlength : vs.length = ws.length)
      (h : ∀ (i : Nat) (v w : Json), vs[i]? = some v → ws[i]? = some w → Alike v w) :
      Alike (array vs) (array ws)
  /-- Objects with the same names and equal values. -/
  | object {vs ws : List (String × Json)}
      (hkeys : ∀ name, name ∈ Entries.keys vs ↔ name ∈ Entries.keys ws)
      (h : ∀ name v w, Entries.get? vs name = some v → Entries.get? ws name = some w → Alike v w) :
      Alike (object vs) (object ws)

namespace Section

variable {base s : Section}

/-- Equal as mappings. -/
def Alike (s s' : Section) : Prop :=
  (Json.object s).Alike (.object s')

/-- To be alike is said of the entries, whatever order they stand in. -/
theorem alike_iff {s s' : Section} :
    s.Alike s' ↔ (∀ name, name ∈ Entries.keys s ↔ name ∈ Entries.keys s') ∧
      ∀ name v w, Entries.get? s name = some v → Entries.get? s' name = some w → v.Alike w := by
  constructor
  · intro h
    cases h with
    | same => exact ⟨fun _ ↦ Iff.rfl, fun name v w hv hw ↦ by
        obtain rfl : v = w := Option.some.inj (hv.symm.trans hw)
        exact .same v⟩
    | object hkeys h => exact ⟨hkeys, h⟩
  · rintro ⟨hkeys, h⟩
    exact .object hkeys h

/-- The section at the end of a chain of names, if all values on the way are sections. -/
def at? : Section → List String → Option Section
  | s, [] => some s
  | s, name :: rest =>
    match Entries.get? s name with
    | some (.object members) => at? members rest
    | _ => none

/-- Wherever the same chain of names leads to a section in both, the upper section has all names of
the lower one. -/
def Keeps (base s : Section) : Prop :=
  ∀ names inner members, base.at? names = some inner → s.at? names = some members →
    ∀ name ∈ Entries.keys inner, name ∈ Entries.keys members

/-- A longer key leads on from the section at its first part. -/
theorem at?_cons_of_get? {name : String} {members : Section}
    (h : Entries.get? s name = some (.object members)) (rest : List String) :
    s.at? (name :: rest) = members.at? rest := by
  rw [at?, h]

/-- A section that keeps another has all of its names. -/
theorem Keeps.subset (h : Keeps base s) {name : String} (hname : name ∈ Entries.keys base) :
    name ∈ Entries.keys s :=
  h [] base s rfl rfl name hname

/-- It keeps the sections in the other one, too. -/
theorem Keeps.below (h : Keeps base s) {name : String} {inner members : Section}
    (hinner : Entries.get? base name = some (.object inner))
    (hmembers : Entries.get? s name = some (.object members)) : Keeps inner members := by
  intro names inner' members' hinner' hmembers'
  refine h (name :: names) inner' members' ?_ ?_
  · rw [at?_cons_of_get? hinner, hinner']
  · rw [at?_cons_of_get? hmembers, hmembers']

/-- A section that keeps all names of the section below it stays equal when it is laid over that. -/
theorem alike_layered {v : Json} (hv : v.Proper) (b : Option Json)
    (hb : ∀ w, b = some w → w.Proper)
    (h : ∀ inner members, b = some (.object inner) → v = .object members → Keeps inner members) :
    (layered b v).Alike v := by
  refine layered_induction (P := fun b v ↦
    (∀ inner members, b = some (.object inner) → v = .object members → Keeps inner members) →
      (layered b v).Alike v) ?_ ?_ hv b hb h
  · intro b v _ heq _
    rw [heq]
    exact .same v
  · intro inner members _ hmembers ih h
    have hkeeps := h inner members rfl rfl
    rw [layered_object]
    refine alike_iff.2 ⟨fun name ↦ ?_, fun name v w hv hw ↦ ?_⟩
    · rw [mem_keys_merge hmembers.nodup_keys]
      exact ⟨fun hname ↦ hname.elim hkeeps.subset id, .inr⟩
    · rw [get?_merge_of_eq_some _ hmembers.nodup_keys hw] at hv
      obtain rfl := Option.some.inj hv
      refine ih name w hw fun inner' members' hinner' hmembers' ↦ ?_
      exact hkeeps.below hinner' (hmembers' ▸ hw)

/-- A section that is equal to what it becomes on another keeps all names of that. -/
theorem keeps_of_alike (hs : s.Proper) (h : (Section.merge base s).Alike s) : Keeps base s := by
  intro names
  induction names generalizing base s with
  | nil =>
    intro inner members hinner hmembers name hname
    obtain rfl := Option.some.inj hinner
    obtain rfl := Option.some.inj hmembers
    exact ((alike_iff.1 h).1 name).1 ((mem_keys_merge hs.nodup_keys).2 (.inl hname))
  | cons first rest ih =>
    intro inner members hinner hmembers
    rw [at?] at hinner hmembers
    split at hinner
    · next inner' hinner' =>
      split at hmembers
      · next members' hmembers' =>
        have hmerge := get?_merge_of_eq_some base hs.nodup_keys hmembers'
        rw [hinner', layered_object] at hmerge
        have hbelow := (alike_iff.1 h).2 first _ _ hmerge hmembers'
        exact ih (hs.of_get? hmembers') hbelow inner members hinner hmembers
      · cases hmembers
    · cases hinner

/-- **When layering changes nothing.** A section laid over another is equal to what it was exactly
if it keeps all names of the other, at every depth. -/
theorem alike_merge_iff (hbase : base.Proper) (hs : s.Proper) :
    (Section.merge base s).Alike s ↔ Keeps base s := by
  refine ⟨keeps_of_alike hs, fun h ↦ ?_⟩
  have halike := alike_layered hs (some (.object base)) (fun w hw ↦ Option.some.inj hw ▸ hbase)
    fun inner members hinner hmembers ↦ by
      cases hinner
      cases hmembers
      exact h
  rwa [layered_object] at halike

end Section

end TreePath
