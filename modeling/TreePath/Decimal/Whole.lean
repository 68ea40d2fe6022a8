/-!
# Whole numbers in decimal

How many digits a whole number has, and how many it may have. To turn a number into digits, or
digits into a number, takes time that grows with the square of their count, so numbers with more
digits than `digitLimit` are refused in both directions: no literal with such a number in it has a
written form, none is written into a configuration, none is read from one, and none is read from a
reference in markup. All of them complain in the same words (`limitComplaint`).

The limit is one of decimal digits. Numbers in bases that are powers of two are read at any length.
-/

namespace TreePath.Decimal

/-- How many digits a number has; zero has one. -/
def digitCount (n : Nat) : Nat :=
  (toString n).length

/-- The most digits with which a whole number is read or written. -/
def digitLimit : Nat := 4300

/-- Whether a whole number has too many digits to be written. Its sign is not counted. -/
def isTooLong (i : Int) : Bool :=
  digitLimit < digitCount i.natAbs

/-- The complaint about a number with too many digits, with what else is known of it. -/
def limitComplaint (known : String) : String :=
  "Exceeds the limit (" ++ toString digitLimit ++ " digits) for integer string conversion" ++
    known ++ "; use sys.set_int_max_str_digits() to increase the limit"

/-- The digits that are counted are those that the core library writes. -/
theorem digitCount_eq (n : Nat) : digitCount n = (Nat.toDigits 10 n).length :=
  String.length_ofList

/-- A number has at most `k` digits exactly if it is below the power of ten with `k` zeros. -/
theorem digitCount_le_iff {n k : Nat} (hk : 0 < k) : digitCount n ≤ k ↔ n < Nat.pow 10 k :=
  Nat.length_repr_le_iff hk

/-- The numbers that are too long are those that reach the power of ten with as many zeros as there
may be digits, on either side of zero. -/
theorem isTooLong_iff {i : Int} : isTooLong i = true ↔ Nat.pow 10 digitLimit ≤ i.natAbs := by
  have hlimit : 0 < digitLimit := by decide
  rw [isTooLong, decide_eq_true_iff, ← Nat.not_le, digitCount_le_iff hlimit, Nat.not_lt]

end TreePath.Decimal
