import TreePath.Json.Value
import TreePath.Literal.Error
import TreePath.Text.Split

/-!
# Keys of a configuration

A key names a value in a tree of sections: its parts, which a dot separates in writing, are names of
sections, the last one the name of the value. Every text is a key, since parts may be empty.

A section is the ordered members of an object. `Section.get?`, `put` and `drop?` follow a key down
the sections; a part whose value is no object leads nowhere, and assigning through it puts a new
section in its place. `get?_put_self` says that what was assigned is found.

A key with one part is followed in the section itself, a longer one in the section at its first
part. What is found, assigned and removed is given by one function each along the parts (`follow?`,
`assign`, `cut?`), with the name in front and the parts after it as two arguments, so that there is
no case without a name. `merge` lays one section over another and is what loading does.
-/

namespace TreePath

/-- The names that lead to a value; there is at least one. -/
structure Key where
  /-- The first name. -/
  first : String
  /-- The names after it. -/
  more : List String
deriving DecidableEq, Repr

/-- The key that a text spells. -/
def Key.ofText (s : String) : Key :=
  match Text.split '.' s with
  | [] => ⟨s, []⟩
  | part :: parts => ⟨part, parts⟩

/-- The text of a key that is given as a literal: only a text can be split. -/
def Key.given (key : Literal) : Except LiteralError String :=
  match key with
  | .text s => .ok s
  | v => .error (.missing v.typeName "split")

/-- A section of a configuration. -/
abbrev Section := Entries Json

namespace Section

/-- The section that a value is, if it is one; an empty section otherwise. -/
def ofValue : Option Json → Section
  | some (.object members) => members
  | _ => []

/-- The value at the end of a chain of names. -/
def follow? : Section → String → List String → Option Json
  | s, name, [] => Entries.get? s name
  | s, name, next :: rest =>
    match Entries.get? s name with
    | some (.object members) => follow? members next rest
    | _ => none

/-- Assigns a value at the end of a chain of names. -/
def assign : Section → String → List String → Json → Section
  | s, name, [], value => Entries.put s name value
  | s, name, next :: rest, value =>
    Entries.put s name (.object (assign (ofValue (Entries.get? s name)) next rest value))

/-- What is left without the value at the end of a chain of names, if there is one. -/
def cut? : Section → String → List String → Option Section
  | s, name, [] => if Entries.has s name then some (Entries.drop s name) else none
  | s, name, next :: rest =>
    match Entries.get? s name with
    | some (.object members) =>
      (cut? members next rest).map fun left ↦ Entries.put s name (.object left)
    | _ => none

/-- The value at a key. -/
def get? (s : Section) (k : Key) : Option Json :=
  s.follow? k.first k.more

/-- Assigns a value at a key. -/
def put (s : Section) (k : Key) (value : Json) : Section :=
  s.assign k.first k.more value

/-- What is left without the value at a key, if there is one. -/
def drop? (s : Section) (k : Key) : Option Section :=
  s.cut? k.first k.more

/-- What was assigned under a name and the parts after it is found under them. -/
theorem follow?_assign_self (s : Section) (name : String) (more : List String) (value : Json) :
    (s.assign name more value).follow? name more = some value := by
  induction more generalizing s name with
  | nil => simp [assign, follow?]
  | cons next rest ih => simp [assign, follow?, ih]

/-- What was assigned to a key is found there, however many sections had to be made for it. -/
@[simp] theorem get?_put_self (s : Section) (k : Key) (value : Json) :
    (s.put k value).get? k = some value :=
  follow?_assign_self s k.first k.more value

/-! ### Laying one section over another -/

mutual

/-- A value laid over what is there: an object over an object is laid over it member by member,
anything else takes its place. -/
def layered (base : Option Json) : Json → Json
  | .object members =>
    match base with
    | some (.object inner) => .object (merge inner members)
    | _ => .object members
  | value => value

/-- A section laid over another. -/
def merge (base : Section) : List (String × Json) → Section
  | [] => base
  | (name, value) :: rest =>
    merge (Entries.put base name (layered (Entries.get? base name) value)) rest

end

end Section

end TreePath
