import TreePath.Decimal.Binary

/-!
# The fewest digits that read back

`shortest` finds, among all decimals that round to a given binary number, one with the fewest
digits, and among those the one nearest to the number. For one digit, then two, and so on up to
seventeen, it tests the number's two neighbours on the decimal grid of that many digits; the first
grid with a neighbour inside the interval of reals that round to the number decides. If a point of
a grid lies in that interval then so does one of the two neighbours, so no shorter decimal is
missed.

`Layout` says how digits and an exponent are written: positional notation or an exponent, and where
the one ends and the other starts.
-/

namespace TreePath.Decimal

/-! ### The interval of a binary number -/

/-- The reals that round to `mantissa · 2 ^ exponent`, in quarters of its last place: from `low` to
`high`, the ends included exactly when the mantissa is even. Below a power of two the neighbour is
only half as far away, except at the smallest exponent. -/
structure Interval where
  /-- The lower end. -/
  low : Nat
  /-- The upper end. -/
  high : Nat
  /-- Whether the ends round to the number as well. -/
  closed : Bool

/-- The interval of a number. -/
def Interval.of (mantissa : Nat) (exponent : Int) : Interval where
  low := if mantissa == power 2 52 && exponent != -1074 then 4 * mantissa - 1 else 4 * mantissa - 2
  high := 4 * mantissa + 2
  closed := mantissa % 2 == 0

/-! ### The search -/

/-- A decimal `digits · 10 ^ exponent`. -/
structure Digits where
  /-- The digits, read as a number. -/
  digits : Nat
  /-- The power of ten of the last digit. -/
  exponent : Int
deriving DecidableEq, Repr

/-- Whether a fraction lies in an interval, both in the same unit: compares `num / den` with the
ends. -/
def Interval.contains (i : Interval) (num den : Nat) : Bool :=
  if i.closed then i.low * den ≤ num && num ≤ i.high * den
  else i.low * den < num && num < i.high * den

/-- The largest exponent `e` with `10 ^ e ≤ num / den`, searched downwards from `start`. -/
def leadingExponent (num den : Nat) : Nat → Int → Int
  | 0, e => e
  | fuel + 1, e =>
    if den * power 10 e ≤ num * power 10 (-e) then e else leadingExponent num den fuel (e - 1)

/-- The value of `d · 10 ^ e` in quarters of the unit `2 ^ exponent`, as a fraction. -/
def inQuarters (exponent : Int) (d : Nat) (e : Int) : Nat × Nat :=
  (4 * d * power 10 e * power 2 (-exponent), power 10 (-e) * power 2 exponent)

/-- The better of a number's two neighbours on the grid of multiples of `10 ^ e`, if one of them
lies in the interval: the nearer one, and on a tie the one whose last digit is even. -/
def neighbour? (i : Interval) (exponent e : Int) (num den : Nat) : Option Nat :=
  let below := num * power 10 (-e) / (den * power 10 e)
  let above := below + 1
  let inside (d : Nat) : Bool := let f := inQuarters exponent d e; i.contains f.1 f.2
  let twice := 2 * num * power 10 (-e)
  let middle := (2 * below + 1) * (den * power 10 e)
  match inside below, inside above with
  | true, false => some below
  | false, true => some above
  | false, false => none
  | true, true =>
    if twice < middle then some below
    else if middle < twice then some above
    else if below % 2 == 0 then some below else some above

/-- Tries the grids of `count`, `count + 1`, … digits; `lead` is the exponent of the first digit. -/
def search (i : Interval) (exponent lead : Int) (num den : Nat) : Nat → Nat → Digits
  | 0, count =>
    let e := lead - count + 1
    ⟨num * power 10 (-e) / (den * power 10 e), e⟩
  | fuel + 1, count =>
    let e := lead - count + 1
    match neighbour? i exponent e num den with
    | some d => ⟨d, e⟩
    | none => search i exponent lead num den fuel (count + 1)

/-- Moves trailing zeros of the digits into the exponent. -/
def Digits.trim : Nat → Digits → Digits
  | 0, d => d
  | fuel + 1, d =>
    if d.digits % 10 == 0 && d.digits != 0 then trim fuel ⟨d.digits / 10, d.exponent + 1⟩ else d

/-- The shortest decimal that reads back as `mantissa · 2 ^ exponent`. -/
def shortest (mantissa : Nat) (exponent : Int) : Digits :=
  if mantissa == 0 then ⟨0, 0⟩
  else
    let f := Binary.fraction mantissa exponent
    let lead := leadingExponent f.1 f.2 700 310
    (search (Interval.of mantissa exponent) exponent lead f.1 f.2 17 1).trim 20

/-! ### Writing -/

/-- How a number is written. -/
structure Layout where
  /-- The smallest exponent of a leading digit that is written positionally. -/
  least : Int
  /-- The first exponent of a leading digit that is no longer written positionally. -/
  limit : Int
  /-- How an infinity is written, without its sign. -/
  infinity : String
  /-- How a value that is not a number is written. -/
  nan : String
deriving Repr

/-- The digits of an exponent, at least two. -/
def exponentText (e : Int) : String :=
  let digits := toString e.natAbs
  (if e < 0 then "-" else "+") ++ (if digits.length < 2 then "0" ++ digits else digits)

/-- Writes digits under a layout: a whole number keeps one zero after its point, an exponent has a
sign and at least two digits. -/
def Layout.write (l : Layout) (d : Digits) : String :=
  let text := (toString d.digits).toList
  let lead := d.exponent + text.length - 1
  if l.least ≤ lead && lead < l.limit then
    if 0 ≤ d.exponent then String.ofList (text ++ List.replicate d.exponent.toNat '0') ++ ".0"
    else if 0 ≤ lead then
      let whole := lead.toNat + 1
      String.ofList (text.take whole) ++ "." ++ String.ofList (text.drop whole)
    else "0." ++ String.ofList (List.replicate (-lead - 1).toNat '0' ++ text)
  else
    match text with
    | [] => ""
    | [c] => c.toString ++ "e" ++ exponentText lead
    | c :: rest => c.toString ++ "." ++ String.ofList rest ++ "e" ++ exponentText lead

/-- Writes a number under a layout. -/
def Layout.writeFloat (l : Layout) (x : Float) : String :=
  match Binary.ofFloat x with
  | .nan => l.nan
  | .infinite negative => (if negative then "-" else "") ++ l.infinity
  | .finite negative mantissa exponent =>
    (if negative then "-" else "") ++
      (if mantissa == 0 then "0.0" else l.write (shortest mantissa exponent))

end TreePath.Decimal
