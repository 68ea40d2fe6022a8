import TreePath.Entries

/-!
# Attributes

The attributes of an element, and those an attribute test asks for: text by name, in order of first
assignment, each name once. The last is part of the type. Two collections are `same` if they hold
the same values at the same names, in whatever order.

Since no name occurs twice, the entries can be compared as a set of pairs: each collection is
contained in the other (`within`). The order matters in one place only, for what is written down;
`sorted` forgets it, and is what hashing goes by.
-/

namespace TreePath

/-- Text values by distinct names, in order. -/
structure Attributes where
  /-- The names and values, in order of first assignment. -/
  entries : Entries String
  /-- No name occurs twice. -/
  nodup_keys : entries.keys.Nodup
deriving DecidableEq

namespace Attributes

/-- No attributes. -/
def empty : Attributes := ⟨[], List.nodup_nil⟩

instance : Inhabited Attributes := ⟨empty⟩

/-- The value at a name. -/
def get? (a : Attributes) (name : String) : Option String :=
  a.entries.get? name

/-- Whether a name has a value. -/
def has (a : Attributes) (name : String) : Bool :=
  a.entries.has name

/-- Assigns a name; a name that has a value keeps its place. -/
def put (a : Attributes) (name value : String) : Attributes :=
  ⟨a.entries.put name value, Entries.nodup_keys_put a.nodup_keys name value⟩

/-- Removes a name, if it is there. -/
def drop (a : Attributes) (name : String) : Attributes :=
  ⟨a.entries.drop name, Entries.nodup_keys_drop a.nodup_keys name⟩

/-- Whether there are none. -/
def isEmpty (a : Attributes) : Bool :=
  a.entries.isEmpty

/-- The attributes that a list of assignments, made in order, leaves behind. -/
def ofPairs (pairs : List (String × String)) : Attributes :=
  pairs.foldl (fun a p ↦ a.put p.1 p.2) empty

/-- Whether every attribute here has the same value there. -/
def within (a b : Attributes) : Bool :=
  a.entries.all fun e ↦ b.get? e.1 == some e.2

/-- The same values at the same names, in whatever order. -/
def same (a b : Attributes) : Bool :=
  a.within b && b.within a

/-- The entries in ascending order of their names: one list for all collections that are `same`. -/
def sorted (a : Attributes) : Entries String :=
  a.entries.mergeSort fun x y ↦ decide (x.1 ≤ y.1)

/-- Attributes are their entries: that the names are distinct is no further datum. -/
theorem ext_entries {a b : Attributes} (h : a.entries = b.entries) : a = b := by
  cases a
  cases b
  congr

/-- What was assigned to a name is found there. -/
@[simp] theorem get?_put_self (a : Attributes) (name value : String) :
    (a.put name value).get? name = some value :=
  Entries.get?_put_self ..

/-- An assignment leaves the values of other names as they are. -/
theorem get?_put_of_ne (a : Attributes) {name other : String} (value : String) (h : other ≠ name) :
    (a.put name value).get? other = a.get? other :=
  Entries.get?_put_of_ne _ _ h

/-- Assignments of names that differ from each other, and from those there are, are put after
those. -/
theorem entries_foldl_put (pairs : List (String × String)) (a : Attributes)
    (h : (a.entries.keys ++ Entries.keys pairs).Nodup) :
    (pairs.foldl (fun a p ↦ a.put p.1 p.2) a).entries = a.entries ++ pairs := by
  induction pairs generalizing a with
  | nil => exact (List.append_nil _).symm
  | cons e rest ih =>
    obtain ⟨name, value⟩ := e
    have hnew : name ∉ a.entries.keys := by
      intro hmem
      exact (List.nodup_append.1 h).2.2 name hmem name List.mem_cons_self rfl
    have hput : (a.put name value).entries = a.entries ++ [(name, value)] :=
      Entries.put_of_not_mem_keys a.entries value hnew
    have hkeys : (a.put name value).entries.keys = a.entries.keys ++ [name] := by
      rw [hput, Entries.keys, List.map_append]
      rfl
    rw [List.foldl_cons, ih, hput, List.append_assoc, List.singleton_append]
    rw [hkeys, List.append_assoc]
    exact h

/-- Assignments of different names are kept as they are. -/
theorem entries_ofPairs {pairs : List (String × String)} (h : (Entries.keys pairs).Nodup) :
    (ofPairs pairs).entries = pairs :=
  entries_foldl_put pairs empty h

end Attributes

end TreePath
