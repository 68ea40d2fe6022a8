import TreePath.Decimal.Binary

/-!
# A fixed number of places

`fixed places num den` writes a non-negative fraction with a given number of decimal places. The
exact value decides; a value half-way between two neighbours goes to the even one.

Digits are made by division with a power of ten, and padded with zeros between the point and the
first digit that is not zero. The number of places is any; no place means no point.
-/

namespace TreePath.Decimal

/-- The quotient rounded to the nearest whole number, half-way cases to the even neighbour. -/
def roundDiv (num den : Nat) : Nat :=
  let q := num / den
  let twice := 2 * (num % den)
  if twice < den then q
  else if den < twice then q + 1
  else if q % 2 == 0 then q else q + 1

/-- A non-negative fraction with the given number of places. -/
def fixed (places num den : Nat) : String :=
  let scaled := roundDiv (num * power 10 places) den
  let digits := toString (scaled % power 10 places)
  let padded := String.ofList (List.replicate (places - digits.length) '0') ++ digits
  toString (scaled / power 10 places) ++ (if places == 0 then "" else "." ++ padded)

/-- A fraction of either sign with the given number of places. -/
def fixedRat (places : Nat) (r : Rat) : String :=
  (if r.num < 0 then "-" else "") ++ fixed places r.num.natAbs r.den

/-- A binary number with the given number of places; the sign shows also before a zero. -/
def fixedFloat (places : Nat) (x : Float) : String :=
  match Binary.ofFloat x with
  | .nan => "nan"
  | .infinite negative => if negative then "-inf" else "inf"
  | .finite negative mantissa exponent =>
    let f := Binary.fraction mantissa exponent
    (if negative then "-" else "") ++ fixed places f.1 f.2

end TreePath.Decimal
