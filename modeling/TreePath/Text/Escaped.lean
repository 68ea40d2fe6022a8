import TreePath.Text.CodePoint

/-!
# Code points by escapes

A form of Unicode in which each byte is the code point of its number, and any other code point is
spelled by a backslash, a letter and hexadecimal digits (`Escaped.afterBackslash`). The full form
has the usual escapes for single characters too; the raw form has none but those with `u` and `U`. A
backslash that begins no escape stands for itself.

Too few digits, or digits of a number that no code point has, are one piece that cannot be read, and
the reading goes on behind the digits there were. A backslash at the end of a line hides the end of
the line. Names of characters are not known, so that a backslash before `N` cannot be read.
-/

namespace TreePath.Text

namespace Escaped

/-- The number that a hexadecimal digit stands for. -/
def hexDigit? (b : Nat) : Option Nat :=
  if 0x30 ≤ b && b ≤ 0x39 then some (b - 0x30)
  else if 0x41 ≤ b && b ≤ 0x46 then some (b - 0x37)
  else if 0x61 ≤ b && b ≤ 0x66 then some (b - 0x57)
  else none

/-- The digits at the front of bytes, so many at most. -/
def hexDigits (count : Nat) (s : List Nat) : List Nat :=
  ((s.take count).takeWhile fun b ↦ (hexDigit? b).isSome).filterMap hexDigit?

/-- How many digits a letter after a backslash asks for. -/
def digitCount? (isRaw : Bool) (b : Nat) : Option Nat :=
  if b == 0x75 then some 4
  else if b == 0x55 then some 8
  else if b == 0x78 && !isRaw then some 2
  else none

/-- The code point that a letter after a backslash stands for by itself. -/
def single? (b : Nat) : Option Nat :=
  [(0x5c, 0x5c), (0x27, 0x27), (0x22, 0x22), (0x61, 7), (0x62, 8), (0x74, 9), (0x6e, 10),
    (0x76, 11), (0x66, 12), (0x72, 13)].lookup b

/-- Whether a byte is an octal digit. -/
def isOctal (b : Nat) : Bool :=
  0x30 ≤ b && b ≤ 0x37

/-- What stands after a backslash, given the bytes after it: what is read, and how many bytes belong
to it. -/
def afterBackslash (isRaw : Bool) (s : List Nat) : List (Option Nat) × Nat :=
  match s with
  | [] => ([if isRaw then some 0x5c else none], 0)
  | b :: rest =>
    match digitCount? isRaw b with
    | some count =>
      let digits := hexDigits count rest
      let n := digits.foldl (fun n d ↦ 16 * n + d) 0
      ([if digits.length = count && n < 0x110000 then some n else none], 1 + digits.length)
    | none =>
      if isRaw then ([some 0x5c, some b], 1)
      else if b == 0x0a then ([], 1)
      else if b == 0x4e then ([none], 1)
      else if isOctal b then
        let digits := (s.take 3).takeWhile isOctal
        ([some (digits.foldl (fun n d ↦ 8 * n + (d - 0x30)) 0)], digits.length)
      else
        match single? b with
        | some n => ([some n], 1)
        | none => ([some 0x5c, some b], 1)

/-- The code points of bytes; nothing for each piece that cannot be read. -/
def units (isRaw : Bool) : List Nat → List (Option Nat)
  | [] => []
  | b :: rest =>
    if b == 0x5c then
      match afterBackslash isRaw rest with
      | (found, length) => found ++ units isRaw (rest.drop length)
    else some b :: units isRaw rest
termination_by s => s.length
decreasing_by all_goals (simp only [List.length_drop, List.length_cons]; omega)

end Escaped

end TreePath.Text
