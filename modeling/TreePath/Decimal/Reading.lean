import TreePath.Decimal.Binary
import TreePath.Text.Blank

/-!
# Reading numbers from text

Two readers. `scan?` takes a decimal apart into sign, digits and exponent without limits on its
size; `toFloat` gives the binary number nearest to such a decimal. `number?` is the generous reader
for numbers that stand in attribute values: blanks around them, a sign, single underscores between
digits, the decimal digits of every script, and the names of the infinities and of the value that
is not a number.

The nearest binary number is the core library's (`Float.ofScientific`). Exponents so large or so
small that the result is infinite or zero in any case are decided before that, to keep numbers
small.
-/

namespace TreePath.Decimal

/-! ### Digits of every script -/

/-- The zeros of the scripts that write decimal digits; nine digits follow each. -/
def zeros : List Nat := [
  0x30, 0x660, 0x6f0, 0x7c0, 0x966, 0x9e6, 0xa66, 0xae6, 0xb66, 0xbe6, 0xc66, 0xce6, 0xd66, 0xde6,
  0xe50, 0xed0, 0xf20, 0x1040, 0x1090, 0x17e0, 0x1810, 0x1946, 0x19d0, 0x1a80, 0x1a90, 0x1b50,
  0x1bb0, 0x1c40, 0x1c50, 0xa620, 0xa8d0, 0xa900, 0xa9d0, 0xa9f0, 0xaa50, 0xabf0, 0xff10, 0x104a0,
  0x10d30, 0x11066, 0x110f0, 0x11136, 0x111d0, 0x112f0, 0x11450, 0x114d0, 0x11650, 0x116c0, 0x11730,
  0x118e0, 0x11950, 0x11c50, 0x11d50, 0x11da0, 0x16a60, 0x16ac0, 0x16b50, 0x1d7ce, 0x1d7d8,
  0x1d7e2, 0x1d7ec, 0x1d7f6, 0x1e140, 0x1e2f0, 0x1e950, 0x1fbf0]

/-- The value of a decimal digit of any script. -/
def digitValue? (c : Char) : Option Nat :=
  let n := c.toNat
  (zeros.find? fun z ↦ z ≤ n && n ≤ z + 9).map (n - ·)

/-! ### Decimals -/

/-- A decimal `± digits · 10 ^ exponent`. -/
structure Scanned where
  /-- Whether a minus sign stood in front. -/
  negative : Bool
  /-- All digits, before and after the point. -/
  digits : Nat
  /-- The power of ten of the last digit. -/
  exponent : Int
deriving DecidableEq, Repr

/-- The binary number nearest to a decimal. Exponents beyond every finite number are cut short
first, so that no power of ten larger than needed is computed. -/
def Scanned.toFloat (d : Scanned) : Float :=
  let lead := d.exponent + (Nat.log2 (d.digits + 1) : Int) / 3
  let size : Float :=
    if d.digits == 0 then 0.0
    else if 1500 < lead + 1 && 1500 < d.exponent then 1.0 / 0.0
    else if lead < -1500 then 0.0
    else Float.ofScientific d.digits (d.exponent < 0) d.exponent.natAbs
  if d.negative then -size else size

/-- Reads digits, where a single underscore may stand between two of them: the number read so far,
how many digits it has, and what is left. -/
def takeDigits : List Char → Nat → Nat → Nat × Nat × List Char
  | [], value, count => (value, count, [])
  | c :: rest, value, count =>
    match digitValue? c with
    | some d => takeDigits rest (value * 10 + d) (count + 1)
    | none =>
      if c == '_' && count != 0 then
        match rest with
        | d :: rest' =>
          match digitValue? d with
          | some v => takeDigits rest' (value * 10 + v) (count + 1)
          | none => (value, count, c :: rest)
        | [] => (value, count, c :: rest)
      else (value, count, c :: rest)

/-- Reads an optional exponent that ends the text. -/
def exponent? : List Char → Option Int
  | [] => some 0
  | c :: rest =>
    if c == 'e' || c == 'E' then
      let (negative, body) := match rest with
        | '-' :: r => (true, r)
        | '+' :: r => (false, r)
        | r => (false, r)
      match takeDigits body 0 0 with
      | (value, count, []) =>
        if count == 0 then none else some (if negative then -(value : Int) else value)
      | _ => none
    else none

/-- Reads digits with an optional point and exponent, to the end of the text. -/
def unsigned? (s : List Char) : Option (Nat × Int) :=
  match takeDigits s 0 0 with
  | (whole, wholeCount, '.' :: rest) =>
    match takeDigits rest whole 0 with
    | (all, fractionCount, rest') =>
      if wholeCount + fractionCount == 0 then none
      else (exponent? rest').map fun e ↦ (all, e - fractionCount)
  | (whole, wholeCount, rest) =>
    if wholeCount == 0 then none else (exponent? rest).map fun e ↦ (whole, e)

/-- The lower-case form of an ASCII letter. -/
def lowerAscii (s : List Char) : String :=
  String.ofList (s.map Char.toLower)

/-- A number written in a text of its own, with anything blank around it. -/
def number? (s : String) : Option Float :=
  let body := Text.stripPadding s.toList
  let (negative, rest) := match body with
    | '-' :: r => (true, r)
    | '+' :: r => (false, r)
    | r => (false, r)
  let name := lowerAscii rest
  let signed (x : Float) : Float := if negative then -x else x
  if name == "inf" || name == "infinity" then some (signed (1.0 / 0.0))
  else if name == "nan" then some (0.0 / 0.0)
  else (unsigned? rest).map fun (digits, exponent) ↦
    Scanned.toFloat ⟨negative, digits, exponent⟩

end TreePath.Decimal
