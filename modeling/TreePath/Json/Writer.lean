import TreePath.Decimal.Shortest
import TreePath.Decimal.Whole
import TreePath.Json.Value
import TreePath.Text.CodePoint
import TreePath.Text.Quoted

/-!
# Writing JSON

A value is written from left to right, in ASCII alone. The text written so far is the state of the
computation, so when a value comes up that cannot be written, what was written before it stands. Two
kinds of value are like that: those that JSON does not have, and whole numbers with too many digits.

The bracket or comma that stands before an item is its lead. Numbers, texts and words are written in
one piece with their lead; arrays and objects, and what JSON does not have, come after it. So an
item that is a number with too many digits leaves neither itself nor its comma behind, a set leaves
the comma.

There are two layouts: on one line, with a blank after each comma and colon; and with every item on
a line of its own, indented by its depth.
-/

namespace TreePath.Json

/-! ### Leaves -/

/-- A code unit as an escape. -/
def escapeUnit (n : Nat) : List Char :=
  '\\' :: 'u' :: Text.hexDigits 4 n

/-- A code point inside a string. Whatever is not a printable ASCII character is escaped, by a
letter or by its code units. -/
def escape (n : Nat) : List Char :=
  if n = '"'.toNat then ['\\', '"']
  else if n = '\\'.toNat then ['\\', '\\']
  else if n = '\n'.toNat then ['\\', 'n']
  else if n = '\r'.toNat then ['\\', 'r']
  else if n = '\t'.toNat then ['\\', 't']
  else if n = '\x0c'.toNat then ['\\', 'f']
  else if n = '\x08'.toNat then ['\\', 'b']
  else if 0x20 ≤ n ∧ n ≤ 0x7e then [Char.ofNat n]
  else if n < 0x10000 then escapeUnit n
  else escapeUnit (0xd800 + (n - 0x10000) / 0x400) ++ escapeUnit (0xdc00 + (n - 0x10000) % 0x400)

/-- A string with its marks. -/
def stringText (s : String) : String :=
  String.ofList ('"' :: ((Text.points s.toList).flatMap escape ++ ['"']))

/-- Numbers are written positionally from `0.0001` up to sixteen digits before the point. -/
def numberLayout : Decimal.Layout where
  least := -4
  limit := 16
  infinity := "Infinity"
  nan := "NaN"

/-! ### Layouts -/

/-- Where line ends and blanks go. -/
structure Layout where
  /-- How many blanks each level is indented by, if items have lines of their own. -/
  indent : Option Nat
deriving Repr

/-- Everything on one line. -/
def Layout.oneLine : Layout := ⟨none⟩

/-- A line for each item, four blanks a level. -/
def Layout.indented : Layout := ⟨some 4⟩

/-- What starts a line at a level, the end of the line before included. -/
def Layout.lineStart (l : Layout) (level : Nat) : String :=
  match l.indent with
  | none => ""
  | some n => "\n" ++ String.ofList (List.replicate (n * level) ' ')

/-- What stands between two items. -/
def Layout.separator (l : Layout) (level : Nat) : String :=
  match l.indent with
  | none => ", "
  | some _ => "," ++ l.lineStart level

/-! ### Values -/

/-- Why a value cannot be written. -/
inductive Unwritable where
  /-- JSON has no values of this class. -/
  | foreign (typeName : String)
  /-- A whole number has too many digits. -/
  | tooLong
deriving DecidableEq, Repr

namespace Unwritable

/-- The class under which a complaint is raised. -/
def kindName : Unwritable → String
  | foreign _ => "TypeError"
  | tooLong => "ValueError"

/-- The wording of a complaint. -/
def message : Unwritable → String
  | foreign typeName => "Object of type " ++ typeName ++ " is not JSON serializable"
  | tooLong => Decimal.limitComplaint ""

end Unwritable

/-- A computation that writes, and has written its state so far. -/
abbrev Writing := EStateM Unwritable String

/-- Writes a text. -/
def emit (s : String) : Writing Unit :=
  modify fun written ↦ written ++ s

mutual

/-- Writes a value, whose items stand at a level, and the lead before it. -/
def write (l : Layout) (level : Nat) (lead : String) : Json → Writing Unit
  | null => emit (lead ++ "null")
  | bool b => emit (lead ++ if b then "true" else "false")
  -- a number that cannot be written takes its lead with it
  | int i => if Decimal.isTooLong i then throw .tooLong else emit (lead ++ toString i)
  | float x => emit (lead ++ numberLayout.writeFloat x)
  | string s => emit (lead ++ stringText s)
  | array items => do
    emit lead
    if items.isEmpty then
      emit "[]"
    else
      writeItems l level ("[" ++ l.lineStart level) items
      emit (l.lineStart (level - 1) ++ "]")
  | object members => do
    emit lead
    if members.isEmpty then
      emit "\x7b\x7d"
    else
      writeMembers l level ("\x7b" ++ l.lineStart level) members
      emit (l.lineStart (level - 1) ++ "\x7d")
  | foreign typeName => do
    emit lead
    throw (.foreign typeName)

/-- Writes the items of an array, the first after a lead. -/
def writeItems (l : Layout) (level : Nat) (lead : String) : List Json → Writing Unit
  | [] => return
  | v :: rest => do
    write l (level + 1) lead v
    writeItems l level (l.separator level) rest

/-- Writes the members of an object, the first after a lead. The name of a member is written before
its value is looked at. -/
def writeMembers (l : Layout) (level : Nat) (lead : String) :
    List (String × Json) → Writing Unit
  | [] => return
  | (k, v) :: rest => do
    emit (lead ++ stringText k ++ ": ")
    write l (level + 1) "" v
    writeMembers l level (l.separator level) rest

end

/-- What is written of a value, and the complaint if that is not all of it. -/
def text (l : Layout) (v : Json) : String × Option Unwritable :=
  match write l 1 "" v "" with
  | .ok _ written => (written, none)
  | .error e written => (written, some e)

/-- A value on one line; what cannot be written is cut off. -/
def line (v : Json) : String :=
  (text .oneLine v).1

end TreePath.Json
