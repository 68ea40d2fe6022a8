import TreePath.Entries

/-!
# JSON values

The values of configuration files. Whole numbers and floating-point numbers are kept apart, objects
keep the order of their members, and a last constructor stands for a value of the program that no
JSON text can express: it can be held and passed on like any other, and is found out when it is
written.

A boolean is no number here, in contrast to literals (`TreePath.Literal.Basic`), where it counts as
one. What counts as true is needed for settings that ask for something by being there. Two members
of an object may have the same name as far as this type goes; readers and sections see to it that
they do not.
-/

namespace TreePath

/-- A JSON value. -/
inductive Json where
  /-- The null value. -/
  | null
  /-- A truth value. -/
  | bool (b : Bool)
  /-- A whole number. -/
  | int (i : Int)
  /-- A floating-point number, the special ones included. -/
  | float (x : Float)
  /-- A text. -/
  | string (s : String)
  /-- An array. -/
  | array (items : List Json)
  /-- An object, its members in order of first insertion. -/
  | object (members : List (String × Json))
  /-- A value of another class, which JSON cannot express. -/
  | foreign (typeName : String)

namespace Json

instance : Inhabited Json := ⟨null⟩

/-- The members of an object. -/
def members? : Json → Option (Entries Json)
  | object members => some members
  | _ => none

/-- Whether a value counts as true: everything but null, false, zero and what is empty. -/
def truthy : Json → Bool
  | null => false
  | bool b => b
  | int i => i != 0
  | float x => x != 0.0
  | string s => !s.isEmpty
  | array items => !items.isEmpty
  | object members => !members.isEmpty
  | foreign _ => true

end Json

end TreePath
