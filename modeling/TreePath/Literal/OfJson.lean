import TreePath.Json.Value
import TreePath.Literal.Basic

/-!
# Literals from JSON

A JSON value handed over as a literal. Whatever JSON cannot express is still a value of some class.

Settings are given as JSON values and checked as literals are, in the same words. An object becomes
a mapping with texts for keys; there are no tuples, functions or paths among such literals.

A value of another class becomes a literal that only tells its class, which is all that is ever said
of it in a complaint.
-/

namespace TreePath.Literal

mutual

/-- The literal that a JSON value is. -/
def ofJson : Json → Literal
  | .null => .none
  | .bool b => .bool b
  | .int i => .int i
  | .float x => .float x
  | .string s => .text s
  | .array items => .list (ofItems items)
  | .object members => .mapping (ofMembers members)
  | .foreign typeName => .other typeName ("<" ++ typeName ++ ">")

/-- The literals that several values are. -/
def ofItems : List Json → List Literal
  | [] => []
  | v :: rest => ofJson v :: ofItems rest

/-- The entries that the members of an object are. -/
def ofMembers : List (String × Json) → List (Literal × Literal)
  | [] => []
  | (k, v) :: rest => (.text k, ofJson v) :: ofMembers rest

end

end TreePath.Literal
