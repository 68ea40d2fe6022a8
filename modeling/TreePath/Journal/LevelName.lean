import TreePath.Journal.Record
import TreePath.Literal.Error

/-!
# Levels by name and number

Callers name levels by literals. A text names a level in any case of its letters; a text that names
none stands for a level of the caller's choice; a literal that is no text is refused. Where a level
is given by its number, a literal that is no whole number is refused.

Only texts can name a level, so a setting that holds the number of a level is refused as a name. A
truth value counts as a number where numbers are asked for, as it does everywhere.
-/

namespace TreePath.Level

/-- A character in upper case, as far as the names of levels need it: the ASCII letters, and the
dotless letter that has an ASCII letter for its upper case. -/
def upperChar (c : Char) : Char :=
  if 'a' ≤ c && c ≤ 'z' then Char.ofNat (c.toNat - 32)
  else if c == 'ı' then 'I'
  else c

/-- The level that a text names. -/
def ofName? (s : String) : Option Level :=
  let upper := String.ofList (s.toList.map upperChar)
  (named.find? fun e ↦ e.1 == upper).map Prod.snd

/-- The level that a literal names, or else another. -/
def ofLiteral (otherwise : Level) : Literal → Except LiteralError Level
  | .text s => .ok ((ofName? s).getD otherwise)
  | v => .error (.missing v.typeName "upper")

/-- The level whose number a literal is. A truth value counts as a number. -/
def ofNumber : Literal → Except LiteralError Level
  | .int i => .ok ⟨i⟩
  | .bool b => .ok ⟨if b then 1 else 0⟩
  | _ => .error .levelNotWhole

end TreePath.Level
