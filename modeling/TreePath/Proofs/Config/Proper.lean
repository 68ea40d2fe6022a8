import TreePath.Config.Key
import TreePath.Json.Reader
import TreePath.Proofs.Entries

/-!
# Proper values

The type of JSON values has room for what no JSON text expresses: values of other classes, and
objects in which a name occurs twice. A value without them, at any depth, is proper (`Json.Proper`).
A derivation of that follows the value down, so an induction on it is the induction on values in
which all members of an object are at hand at once, each under its own name.

What is read from a text is proper (`proper_of_read`), and so is what is made of proper sections by
assigning proper values and by removing.

That a value is proper matters in two ways. Members are found by their names, and of two members
with one name only the first is found, so that a statement on everything that is found would not be
one on everything that is there. And a value of another class can neither be written nor read back.
Callers may assign such values; what becomes of them is the subject of
`TreePath.Proofs.Config.FailedSaving`, and where a saved configuration is read back, the values that
are assigned are taken to be proper.

The reader is followed by its fuel, with one hypothesis for values, items and members each, since
the three call each other (`ReadsProper`).
-/

namespace TreePath

namespace Json

/-- Whether a value is null, a truth value, a number or a text. -/
def isPlain : Json → Bool
  | null | bool _ | int _ | float _ | string _ => true
  | array _ | object _ | foreign _ => false

/-- A value that JSON expresses: no part of it is of another class, and no object in it has two
members of one name. -/
inductive Proper : Json → Prop
  /-- A value without parts. -/
  | plain {v : Json} (h : v.isPlain = true) : Proper v
  /-- An array of proper values. -/
  | array {items : List Json} (h : ∀ v ∈ items, Proper v) : Proper (array items)
  /-- An object of proper values under different names. -/
  | object {members : List (String × Json)} (hkeys : (Entries.keys members).Nodup)
      (h : ∀ e ∈ members, Proper e.2) : Proper (object members)

end Json

namespace Section

/-- A section whose members are those of a proper object. -/
def Proper (s : Section) : Prop :=
  (Json.object s).Proper

variable {s : Section}

/-- A section is proper if its names are distinct and its values are proper. -/
theorem proper_iff : s.Proper ↔ (Entries.keys s).Nodup ∧ ∀ e ∈ s, e.2.Proper := by
  constructor
  · intro h
    cases h with
    | plain h => cases h
    | object hkeys h => exact ⟨hkeys, h⟩
  · rintro ⟨hkeys, h⟩
    exact .object hkeys h

theorem proper_nil : Section.Proper [] :=
  proper_iff.2 ⟨List.nodup_nil, nofun⟩

theorem Proper.nodup_keys (h : s.Proper) : (Entries.keys s).Nodup :=
  (proper_iff.1 h).1

/-- What is found in a proper section is proper. -/
theorem Proper.of_get? (h : s.Proper) {name : String} {v : Json}
    (hv : Entries.get? s name = some v) : v.Proper :=
  (proper_iff.1 h).2 (name, v) (Entries.mem_of_get?_eq_some hv)

/-- Since the names are distinct, it is enough to look at what is found. -/
theorem proper_of_get? (hkeys : (Entries.keys s).Nodup)
    (h : ∀ name v, Entries.get? s name = some v → v.Proper) : s.Proper := by
  refine proper_iff.2 ⟨hkeys, ?_⟩
  rintro ⟨name, v⟩ hmem
  exact h name v ((Entries.get?_eq_some_iff hkeys).2 hmem)

/-- An entry that is put in the place of another, or at the end, repeats no name. -/
theorem Proper.put (h : s.Proper) (name : String) {v : Json} (hv : v.Proper) :
    Section.Proper (Entries.put s name v) := by
  refine proper_of_get? (Entries.nodup_keys_put h.nodup_keys name v) fun name' v' hget ↦ ?_
  by_cases hname : name' = name
  · rw [hname, Entries.get?_put_self] at hget
    exact Option.some.inj hget ▸ hv
  · rw [Entries.get?_put_of_ne s v hname] at hget
    exact h.of_get? hget

theorem Proper.drop (h : s.Proper) (name : String) : Section.Proper (Entries.drop s name) := by
  obtain ⟨hkeys, hvalues⟩ := proper_iff.1 h
  refine proper_iff.2 ⟨Entries.nodup_keys_drop hkeys name, fun e he ↦ ?_⟩
  exact hvalues e ((Entries.drop_sublist s name).subset he)

/-- The section that a value is taken for is proper: the value itself, or an empty one. -/
theorem Proper.ofValue (h : s.Proper) (name : String) :
    (Section.ofValue (Entries.get? s name)).Proper := by
  cases hv : Entries.get? s name with
  | none => exact proper_nil
  | some v =>
    cases v with
    | object members => exact h.of_get? hv
    | _ => exact proper_nil

/-- Nor does an assignment in a section below, which may be made for it. -/
theorem Proper.assign (h : s.Proper) (name : String) (more : List String) {v : Json}
    (hv : v.Proper) : (s.assign name more v).Proper := by
  induction more generalizing s name with
  | nil => exact h.put name hv
  | cons next rest ih => exact h.put name (ih (h.ofValue name) next)

/-- A removal in a section below leaves proper sections. -/
theorem Proper.cut? (h : s.Proper) {name : String} {more : List String} {left : Section}
    (hcut : s.cut? name more = some left) : left.Proper := by
  induction more generalizing s name left with
  | nil =>
    rw [Section.cut?] at hcut
    split at hcut
    · exact Option.some.inj hcut ▸ h.drop name
    · cases hcut
  | cons next rest ih =>
    rw [Section.cut?] at hcut
    split at hcut
    · next members hmembers =>
      obtain ⟨inner, hinner, rfl⟩ := Option.map_eq_some_iff.1 hcut
      exact h.put name (ih (h.of_get? hmembers) hinner)
    · cases hcut

end Section

namespace Json

/-! ### What is read -/

/-- A number is neither an array nor an object. -/
theorem isPlain_of_magnitude {negative : Bool} {s rest : List Char} {v : Json}
    (h : magnitude negative s = .ok (v, rest)) : v.isPlain = true := by
  rw [magnitude] at h
  grind [isPlain]

/-- Nor is any of the words. -/
theorem isPlain_of_mem_words {w : String × Json} (h : w ∈ words) : w.2.isPlain = true := by
  simp only [words, List.mem_cons, List.not_mem_nil, or_false] at h
  rcases h with rfl | rfl | rfl | rfl | rfl | rfl <;> rfl

/-- So what is read without a bracket is plain. -/
theorem isPlain_of_readPlain {s rest : List Char} {v : Json}
    (h : readPlain s = .ok (v, rest)) : v.isPlain = true := by
  rw [readPlain.eq_def] at h
  split at h
  · next r hr =>
    obtain ⟨w, hw, hword⟩ := List.exists_of_findSome?_eq_some hr
    obtain ⟨rest', -, rfl⟩ := Option.map_eq_some_iff.1 hword
    obtain ⟨rfl, rfl⟩ : w.2 = v ∧ rest' = rest := by simpa using h
    exact isPlain_of_mem_words hw
  · split at h <;> exact isPlain_of_magnitude h

/-- What a function made of a result was made of some result. -/
theorem exists_of_map_eq_ok {ε α β : Type} {f : α → β} {x : Except ε α} {b : β}
    (h : x.map f = .ok b) : ∃ a, x = .ok a ∧ f a = b := by
  cases x with
  | error e => cases h
  | ok a => exact ⟨a, rfl, Except.ok.inj h⟩

/-- What the readers that may go a number of levels deep read is proper: a value, a row of items,
and members that are added to a proper section. -/
structure ReadsProper (fuel : Nat) : Prop where
  /-- A value is. -/
  value {s rest : List Char} {v : Json} (h : readValue fuel s = .ok (v, rest)) : v.Proper
  /-- The items of an array are. -/
  items {s rest : List Char} {vs : List Json} (h : readItems fuel s = .ok (vs, rest)) :
    ∀ v ∈ vs, v.Proper
  /-- The members of an object are. -/
  members {s rest : List Char} {read members : Section} (hread : read.Proper)
    (h : readMembers fuel s read = .ok (members, rest)) : members.Proper

namespace ReadsProper

variable {fuel : Nat} (ih : ReadsProper fuel)

include ih

/-- The reader of values, one level deeper. -/
theorem value_succ {s rest : List Char} {v : Json}
    (h : readValue (fuel + 1) s = .ok (v, rest)) : v.Proper := by
  rw [readValue.eq_def] at h
  simp only at h
  split at h
  · split at h <;> cases h
    exact .plain rfl
  · split at h
    · cases h
      exact .array nofun
    · obtain ⟨r, hr, hv⟩ := exists_of_map_eq_ok h
      cases hv
      exact .array (ih.items hr)
  · split at h
    · cases h
      exact Section.proper_nil
    · obtain ⟨r, hr, hv⟩ := exists_of_map_eq_ok h
      cases hv
      exact ih.members Section.proper_nil hr
  · exact .plain (isPlain_of_readPlain h)

/-- The reader of items, one level deeper. -/
theorem items_succ {s rest : List Char} {vs : List Json}
    (h : readItems (fuel + 1) s = .ok (vs, rest)) : ∀ v ∈ vs, v.Proper := by
  rw [readItems.eq_def] at h
  simp only at h
  split at h
  · cases h
  · next v rest' hv =>
    have hproper := ih.value hv
    split at h
    · cases h
      exact List.forall_mem_singleton.2 hproper
    · obtain ⟨r, hr, hitems⟩ := exists_of_map_eq_ok h
      cases hitems
      exact List.forall_mem_cons.2 ⟨hproper, ih.items hr⟩
    · cases h

/-- The reader of members, one level deeper. It puts them into what it has read, so that a name that
comes twice stands once. -/
theorem members_succ {s rest : List Char} {read members : Section} (hread : read.Proper)
    (h : readMembers (fuel + 1) s read = .ok (members, rest)) : members.Proper := by
  rw [readMembers.eq_def] at h
  simp only at h
  split at h
  · split at h
    · cases h
    · next key rest' hkey =>
      split at h
      · split at h
        · cases h
        · next v rest' hv =>
          have hput := hread.put (String.ofList key) (ih.value hv)
          split at h
          · cases h
            exact hput
          · exact ih.members hput h
          · cases h
      · cases h
  · cases h

end ReadsProper

/-- All readers give proper values, however deep they go. -/
theorem readsProper (fuel : Nat) : ReadsProper fuel := by
  induction fuel with
  | zero =>
    refine ⟨fun h ↦ ?_, fun h ↦ ?_, fun _ h ↦ ?_⟩
    · simp [readValue] at h
    · simp [readItems] at h
    · simp [readMembers] at h
  | succ fuel ih => exact ⟨ih.value_succ, ih.items_succ, ih.members_succ⟩

/-- What a text stands for is proper. -/
theorem proper_of_read {s : String} {v : Json} (h : read s = .ok v) : v.Proper := by
  rw [read] at h
  split at h
  · next v' rest hv =>
    split at h
    · cases h
      exact (readsProper _).value hv
    · cases h
  · cases h

end Json

end TreePath
