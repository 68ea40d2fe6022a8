import TreePath.Text.CodePoint
import TreePath.Text.Printable

/-!
# Quoted text

The quoted form of a text: an opening mark, the code points with the special ones escaped, and the
mark again. The mark is the single quote, unless the text holds a single quote and no double quote.

Everything is defined on lists of characters, where the form can be read back one code point at a
time; `quoted` is the same on strings.

Whether a code point is shown as itself is asked of the table of printable characters
(`TreePath.Text.Printable`). Those that are not are written with two, four or eight digits, the
fewest that are enough.
-/

namespace TreePath.Text

/-! ### Hexadecimal digits -/

/-- The hexadecimal digit of a number below sixteen, in lower case. -/
def hexDigit (n : Nat) : Char :=
  if n < 10 then Char.ofNat (48 + n) else Char.ofNat (87 + n)

/-- The last `width` hexadecimal digits of a number, leading zeros included. -/
def hexDigits : Nat → Nat → List Char
  | 0, _ => []
  | width + 1, n => hexDigits width (n / 16) ++ [hexDigit (n % 16)]

/-- The leading zeros make up the width. -/
@[simp] theorem length_hexDigits (width n : Nat) : (hexDigits width n).length = width := by
  induction width generalizing n with
  | zero => rfl
  | succ width ih => simp [hexDigits, ih]

/-! ### Escapes -/

/-- The mark that a text is quoted with. -/
def quoteMark (s : List Char) : Char :=
  if s.contains '\'' && !s.contains '"' then '"' else '\''

/-- A code point inside quotes: the mark and the backslash are escaped, line feed, carriage return
and tab have letters, and any other code point that is not printable is written by its number, with
two, four or eight digits. -/
def escape (mark : Char) (n : Nat) : List Char :=
  if n = mark.toNat ∨ n = '\\'.toNat then ['\\', Char.ofNat n]
  else if n = '\n'.toNat then ['\\', 'n']
  else if n = '\r'.toNat then ['\\', 'r']
  else if n = '\t'.toNat then ['\\', 't']
  else if n < 0x110000 ∧ isPrintable (Char.ofNat n) then [Char.ofNat n]
  else if n < 0x100 then '\\' :: 'x' :: hexDigits 2 n
  else if n < 0x10000 then '\\' :: 'u' :: hexDigits 4 n
  else '\\' :: 'U' :: hexDigits 8 n

/-- The quoted form, as characters. -/
def quote (s : List Char) : List Char :=
  let mark := quoteMark s
  mark :: ((points s).flatMap (escape mark) ++ [mark])

/-- The quoted form of a string. -/
def quoted (s : String) : String :=
  String.ofList (quote s.toList)

end TreePath.Text
