import TreePath.Decimal.Fixed
import TreePath.Decimal.Whole

/-!
# Fractions with and without an exponent

Three ways of writing a non-negative fraction: with a fixed number of places, with one digit before
the point and an exponent, and in the shorter of the two forms with a given number of significant
digits. The exact value decides each digit, half-way cases go to the even neighbour
(`TreePath.Decimal.roundDiv`).

The sign is not part of these texts, since it is shown even before a zero and before what is no
number; it is put in front by who asks for the text (`TreePath.Literal.Directive`).
-/

namespace TreePath.Decimal

/-- The power of ten of the first digit of a fraction; zero for zero. -/
def leadingPower (num den : Nat) : Int :=
  if num == 0 then 0
  else
    let high : Int := (digitCount num : Int) - digitCount den
    if den * power 10 high ≤ num * power 10 (-high) then high else high - 1

/-- A fraction rounded to one digit before the point and some after it: all digits as one number,
and the power of ten of the first. -/
def significant (places num den : Nat) : Nat × Int :=
  let e := leadingPower num den
  let shift := (places : Int) - e
  let digits := roundDiv (num * power 10 shift) (den * power 10 (-shift))
  if digits == power 10 (places + 1) then (power 10 places, e + 1) else (digits, e)

/-- A text without zeros at its end, and without a point at the end of what is left. -/
def dropZeros (s : List Char) : List Char :=
  if s.contains '.' then
    let short := s.reverse.dropWhile (· == '0')
    ((if short.head? == some '.' then short.drop 1 else short).reverse)
  else s

/-- A fraction with some places; the point is kept without any if that is asked for. -/
def fixedText (keepPoint : Bool) (places num den : Nat) : List Char :=
  (fixed places num den).toList ++ (if keepPoint && places == 0 then ['.'] else [])

/-- Digits with a point after the first. -/
def pointed (keepPoint : Bool) (digits : List Char) : List Char :=
  match digits with
  | [] => []
  | [c] => if keepPoint then [c, '.'] else [c]
  | c :: rest => c :: '.' :: rest

/-- An exponent: its mark, its sign, and at least two digits. -/
def scientificExponent (e : Int) : List Char :=
  let digits := (toString e.natAbs).toList
  'e' :: (if e < 0 then '-' else '+') :: (List.replicate (2 - digits.length) '0' ++ digits)

/-- A fraction with one digit before the point, some after it, and an exponent. -/
def scientificText (keepPoint : Bool) (places num den : Nat) : List Char :=
  let (digits, e) := significant places num den
  let shown := (toString digits).toList
  pointed keepPoint (shown ++ List.replicate (places + 1 - shown.length) '0') ++
    scientificExponent e

/-- A fraction with so many significant digits. The exponent is written if the first digit stands
further right than the fourth place, or left of all digits; zeros at the end are dropped unless they
are asked for. -/
def generalText (keepZeros : Bool) (digits num den : Nat) : List Char :=
  let digits := max 1 digits
  let trimmed (s : List Char) : List Char := if keepZeros then s else dropZeros s
  let e := (significant (digits - 1) num den).2
  if e < -4 || (digits : Int) ≤ e then
    let (n, e) := significant (digits - 1) num den
    let shown := (toString n).toList
    trimmed (pointed keepZeros (shown ++ List.replicate (digits - shown.length) '0')) ++
      scientificExponent e
  else trimmed (fixedText keepZeros ((digits : Int) - 1 - e).toNat num den)

end TreePath.Decimal
