import TreePath.Text.CodePoint

/-!
# Unicode in seven bits

A form of Unicode for bytes below 128: each stands for itself, apart from a plus sign, after which
letters, digits, pluses and slashes spell 16-bit units, six bits each. A minus sign ends them and is
dropped; any other character ends them too and stays. What is spelled has to come out even.

Units of sixteen bits are spelled six bits at a time, so up to five bits may be left over when the
spelling ends. They have to be zero; anything else cannot be read, and neither can a first half of a
pair that the bytes end with (`Pending.isUneven`). A half that something else follows is a code
point of its own.

The reader goes along the bytes in two ways, with and without something pending. A byte that ends
the spelling and stays is taken up again in the other way, so it is the pair of both that gets
smaller.
-/

namespace TreePath.Text

namespace Utf7

/-- The six bits that a character spells. -/
def spelled? (b : Nat) : Option Nat :=
  if 0x41 ≤ b && b ≤ 0x5a then some (b - 0x41)
  else if 0x61 ≤ b && b ≤ 0x7a then some (b - 0x61 + 26)
  else if 0x30 ≤ b && b ≤ 0x39 then some (b - 0x30 + 52)
  else if b == 0x2b then some 62
  else if b == 0x2f then some 63
  else none

/-- What was spelled and not used yet. -/
structure Pending where
  /-- The bits, as a number. -/
  bits : Nat
  /-- How many bits there are. -/
  count : Nat
  /-- The first half of a pair. -/
  half : Option Nat

/-- Nothing spelled. -/
def Pending.start : Pending :=
  ⟨0, 0, none⟩

/-- Whether what was spelled does not come out even. -/
def Pending.isUneven (p : Pending) : Bool :=
  6 ≤ p.count || (0 < p.count && p.bits != 0)

/-- Adds a unit of 16 bits: what is read, and the first half that waits for its second. -/
def addUnit (half : Option Nat) (unit : Nat) : List (Option Nat) × Option Nat :=
  let isFirst := 0xd800 ≤ unit && unit < 0xdc00
  match half with
  | none => if isFirst then ([], some unit) else ([some unit], none)
  | some h =>
    if 0xdc00 ≤ unit && unit < 0xe000 then
      ([some (0x10000 + 0x400 * (h - 0xd800) + (unit - 0xdc00))], none)
    else if isFirst then ([some h], some unit)
    else ([some h, some unit], none)

/-- Adds six bits: what is read, and what is left. -/
def Pending.add (p : Pending) (six : Nat) : List (Option Nat) × Pending :=
  let bits := 64 * p.bits + six
  if p.count + 6 < 16 then ([], { p with bits := bits, count := p.count + 6 })
  else
    let count := p.count + 6 - 16
    let (found, half) := addUnit p.half (bits >>> count)
    (found, ⟨bits % (1 <<< count), count, half⟩)

/-- The code points of bytes, after what is pending if units are being spelled. -/
def units : Option Pending → List Nat → List (Option Nat)
  | none, [] => []
  | some p, [] => if p.isUneven || p.half.isSome then [none] else []
  | none, a :: rest =>
    if a != 0x2b then (if a < 0x80 then some a else none) :: units none rest
    else
      match rest with
      | [] => []
      | b :: more =>
        if b == 0x2d then some 0x2b :: units none more
        else if (spelled? b).isSome then units (some .start) (b :: more)
        else none :: units none more
  | some p, a :: rest =>
    match spelled? a with
    | some six =>
      let (found, p) := p.add six
      found ++ units (some p) rest
    | none =>
      if p.isUneven then none :: units none rest
      else
        let half := if a < 0x80 then p.half.toList.map some else []
        half ++ (if a == 0x2d then units none rest else units none (a :: rest))
termination_by p s => (s.length, if p.isSome then 1 else 0)

end Utf7

end TreePath.Text
