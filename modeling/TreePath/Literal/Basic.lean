import TreePath.Decimal.Shortest
import TreePath.Path

/-!
# Literals

A literal is whatever a caller hands over where a step or a path is due: a text for a name, a
mapping for attributes, a function for a predicate, a list or tuple for a group — or something that
cannot be read as a step at all, which is then named in the complaint. So a literal is the one
dynamic value of this library, with a written form, the name of its class, and the equality that
mappings and sets of such values go by.

Three kinds of literal have an identity besides their content. One-shot sequences are used up by the
first reader, so a literal holds only the number of one; a path holds its number and what is left of
it, since the steps of a path can be taken away (`TreePath.Literal.Operations`); a step of no known
kind is told apart from others by its number alone.

The equality of literals is not decidable equality of their data: one, one point zero and true are
equal, and so are mappings with the same entries in any order. It need not be reflexive either, for
a number that is not a number equals nothing. Mappings and sets look at whether something can be a
key before they compare it.
-/

namespace TreePath

/-- A value that a caller hands over. -/
inductive Literal where
  /-- Nothing. -/
  | none
  /-- A truth value. -/
  | bool (b : Bool)
  /-- A whole number. -/
  | int (i : Int)
  /-- A binary floating-point number. -/
  | float (x : Float)
  /-- A text. -/
  | text (s : String)
  /-- A list. -/
  | list (items : List Literal)
  /-- A tuple. -/
  | tuple (items : List Literal)
  /-- A mapping, in order of first insertion. -/
  | mapping (entries : List (Literal × Literal))
  /-- A sequence that can be read once. -/
  | iterator (id : Nat)
  /-- A function of an element. -/
  | function (p : Predicate)
  /-- A step. -/
  | step (s : Step)
  /-- A path, or what is left when its steps were taken away. -/
  | path (id : Nat) (held : Option Path)
  /-- A value of another class, of which only the written form is known. -/
  | other (typeName shown : String)

namespace Literal

instance : Inhabited Literal := ⟨none⟩

/-! ### In messages -/

/-- The name of a literal's class. -/
def typeName : Literal → String
  | none => "NoneType"
  | bool _ => "bool"
  | int _ => "int"
  | float _ => "float"
  | text _ => "str"
  | list _ => "list"
  | tuple _ => "tuple"
  | mapping _ => "dict"
  | iterator _ => "list_iterator"
  | function p => p.className
  | step s => s.className
  | path .. => "Path"
  | other typeName _ => typeName

/-- Numbers are written positionally from `0.0001` up to sixteen digits before the point. -/
def numberLayout : Decimal.Layout where
  least := -4
  limit := 16
  infinity := "inf"
  nan := "nan"

mutual

/-- The written form of a literal, as characters. A tuple of one item keeps a comma. -/
def chars : Literal → List Char
  | none => "None".toList
  | bool b => (if b then "True" else "False").toList
  | int i => (toString i).toList
  | float x => (numberLayout.writeFloat x).toList
  | text s => Text.quote s.toList
  | list items => '[' :: (listed (charsOfAll items) ++ [']'])
  | tuple items =>
    '(' :: (listed (charsOfAll items) ++ (if items.length == 1 then [',', ')'] else [')']))
  | mapping entries => '\x7b' :: (listed (charsOfEntries entries) ++ ['\x7d'])
  | iterator _ => "<list_iterator>".toList
  | function p => p.text.toList
  | step s => s.chars
  | path _ (some p) => p.chars
  | path _ .none => "Path()".toList
  | other _ shown => shown.toList

/-- The written forms of several literals. -/
def charsOfAll : List Literal → List (List Char)
  | [] => []
  | v :: rest => chars v :: charsOfAll rest

/-- The written forms of the entries of a mapping. -/
def charsOfEntries : List (Literal × Literal) → List (List Char)
  | [] => []
  | (k, v) :: rest => (chars k ++ ':' :: ' ' :: chars v) :: charsOfEntries rest

end

/-- The written form of a literal. -/
def written (v : Literal) : String :=
  String.ofList v.chars

/-- Whether a literal counts as true. -/
def truthy : Literal → Bool
  | none => false
  | bool b => b
  | int i => i != 0
  | float x => x != 0.0
  | text s => !s.isEmpty
  | list items => !items.isEmpty
  | tuple items => !items.isEmpty
  | mapping entries => !entries.isEmpty
  | _ => true

/-! ### Equality -/

/-- The number that a literal stands for, if it is one; truth values count as zero and one. -/
def number? : Literal → Option Decimal.Binary
  | bool b => some (.finite false b.toNat 0)
  | int i => some (.finite (i < 0) i.natAbs 0)
  | float x => some (Decimal.Binary.ofFloat x)
  | _ => .none

/-- Whether two numbers are equal; a value that is not a number equals nothing. -/
def sameNumber (a b : Decimal.Binary) : Bool :=
  match a, b with
  | .infinite x, .infinite y => x == y
  | _, _ =>
    match a.toRat?, b.toRat? with
    | some x, some y => x == y
    | _, _ => false

mutual

/-- Whether two literals are equal: numbers by value, sequences item by item and only with their
like, mappings by what they hold in whatever order, functions and one-shot sequences by identity. -/
def same : Literal → Literal → Bool
  | none, none => true
  | text a, text b => a == b
  | list xs, list ys => sameAll xs ys
  | tuple xs, tuple ys => sameAll xs ys
  | mapping xs, mapping ys => xs.length == ys.length && sameEntries xs ys
  | iterator i, iterator j => i == j
  | function p, function q => p.id == q.id
  | step s, step t => s.same t
  | path _ (some p), path _ (some q) => p.same q
  | other c s, other d t => c == d && s == t
  | a, b =>
    match a.number?, b.number? with
    | some x, some y => sameNumber x y
    | _, _ => false

/-- Whether two lists of literals are equal item by item. -/
def sameAll : List Literal → List Literal → Bool
  | [], [] => true
  | x :: xs, y :: ys => same x y && sameAll xs ys
  | _, _ => false

/-- Whether every entry here has an equal entry there. -/
def sameEntries : List (Literal × Literal) → List (Literal × Literal) → Bool
  | [], _ => true
  | (k, v) :: rest, others =>
    others.any (fun e ↦ same k e.1 && same v e.2) && sameEntries rest others

end

mutual

/-- The class of the first part of a literal that cannot be a key, if there is one. -/
def unhashable? : Literal → Option String
  | list _ => some "list"
  | mapping _ => some "dict"
  | tuple items => unhashableAmong? items
  | _ => .none

/-- The class of the first part of several literals that cannot be a key. -/
def unhashableAmong? : List Literal → Option String
  | [] => .none
  | v :: rest => (unhashable? v).or (unhashableAmong? rest)

end

/-- Assigns a key of a mapping: in place if an equal key is present, else at the end. -/
def putEntry : List (Literal × Literal) → Literal → Literal → List (Literal × Literal)
  | [], key, value => [(key, value)]
  | (k, v) :: rest, key, value =>
    if k.same key then (k, value) :: rest else (k, v) :: putEntry rest key value

end Literal

end TreePath
