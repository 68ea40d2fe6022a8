/-!
# Binary floating-point numbers as exact fractions

A finite number of double precision is `± mantissa · 2 ^ exponent`. `Binary.ofBits` reads the three
parts off the 64 bits, and everything else in this folder is arithmetic on natural numbers that
starts from them: printing never goes through the machine's own conversion.

A power with a negative exponent is one (`power`), so that a fraction with both signs of exponent
can be written as a quotient of two products without a distinction of cases. Nothing is rounded
here.
-/

namespace TreePath.Decimal

/-- A power whose exponent counts as zero if it is negative. -/
def power (base : Nat) (exponent : Int) : Nat :=
  Nat.pow base exponent.toNat

/-- What a 64-bit pattern stands for. -/
inductive Binary where
  /-- Not a number. -/
  | nan
  /-- An infinity, negative if the flag is set. -/
  | infinite (negative : Bool)
  /-- `± mantissa · 2 ^ exponent`; zero keeps its sign. -/
  | finite (negative : Bool) (mantissa : Nat) (exponent : Int)
deriving DecidableEq, Repr

namespace Binary

/-- The parts of a bit pattern: one bit of sign, eleven of exponent, fifty-two of fraction. The
numbers whose exponent bits are all zero have no implicit leading bit. -/
def ofBits (bits : UInt64) : Binary :=
  let n : Nat := bits.toNat
  let negative := n / power 2 63 == 1
  let exponent : Nat := n / power 2 52 % power 2 11
  let fraction : Nat := n % power 2 52
  if exponent == 2047 then
    if fraction == 0 then infinite negative else nan
  else if exponent == 0 then finite negative fraction (-1074)
  else finite negative (power 2 52 + fraction) ((exponent : Int) - 1075)

/-- The parts of a number. -/
def ofFloat (x : Float) : Binary :=
  ofBits x.toBits

/-- The magnitude as a fraction of natural numbers. -/
def fraction (mantissa : Nat) (exponent : Int) : Nat × Nat :=
  (mantissa * power 2 exponent, power 2 (-exponent))

/-- The exact value of a finite number. -/
def toRat? : Binary → Option Rat
  | nan => none
  | infinite _ => none
  | finite negative mantissa exponent =>
    let f := fraction mantissa exponent
    some (mkRat (if negative then -f.1 else f.1) f.2)

end Binary

/-- Whether a number is smaller than another; nothing is smaller than, or larger than, what is not
a number. -/
def Binary.lt : Binary → Binary → Bool
  | .nan, _ => false
  | _, .nan => false
  | .infinite a, .infinite b => a && !b
  | .infinite a, .finite .. => a
  | .finite .., .infinite b => !b
  | a@(.finite ..), b@(.finite ..) =>
    match a.toRat?, b.toRat? with
    | some x, some y => decide (x < y)
    | _, _ => false

end TreePath.Decimal
