/-!
# Code points

A text is a sequence of code points, the numbers below `0x110000`. Sixteen-bit code units come in
pairs for the numbers above `0xffff`, and half of such a pair is a code point that stands for no
character; a text may hold it all the same. Characters and strings have no room for halves, so a
text is written in characters like this:

* half of a pair is written as its stand-in, the private character `0x100000` above it;
* a character that could be taken for a stand-in, or for the mark, is written after a mark;
* any other character is written as itself.

`points` reads the code points back, and `points_ofPoints` says that nothing is lost. Only what
counts the code points of a text, takes it apart, or looks at halves needs to go through `points`.
A mark that marks nothing is read as a number of its own that is no code point, so no two strings
are read alike (`ofPoints_points`).
-/

namespace TreePath.Text

/-- Whether a code point is half of a pair. -/
def isHalf (n : Nat) : Bool :=
  0xd800 ≤ n && n ≤ 0xdfff

/-- The distance from a half to its stand-in. -/
def halfOffset : Nat := 0x100000

/-- The character before one that is not to be taken for a stand-in. -/
def pointMark : Char := Char.ofNat 0x10e000

/-- The half that a character stands in for. -/
def half? (c : Char) : Option Nat :=
  if halfOffset ≤ c.toNat && isHalf (c.toNat - halfOffset) then some (c.toNat - halfOffset)
  else none

/-- Whether a character is written after a mark. -/
def isMarked (c : Char) : Bool :=
  c == pointMark || (half? c).isSome

/-- What a mark that marks nothing is read as. -/
def stray : Nat := 0x110000

/-- A character as it is written in a text. -/
def ofChar (c : Char) : List Char :=
  if isMarked c then [pointMark, c] else [c]

/-- Characters as they are written in a text. -/
def ofChars (s : List Char) : List Char :=
  s.flatMap ofChar

/-- A code point as it is written in a text. -/
def ofPoint (n : Nat) : List Char :=
  if isHalf n then [Char.ofNat (halfOffset + n)]
  else if n = stray then [pointMark]
  else ofChar (Char.ofNat n)

/-- Code points as they are written in a text. -/
def ofPoints (ns : List Nat) : List Char :=
  ns.flatMap ofPoint

/-- The code points of the rest of a text, which may start after a mark. -/
def pointsFrom : Bool → List Char → List Nat
  | false, [] => []
  | true, [] => [stray]
  | true, c :: rest =>
    if isMarked c then c.toNat :: pointsFrom false rest
    else stray :: c.toNat :: pointsFrom false rest
  | false, c :: rest =>
    if c = pointMark then pointsFrom true rest
    else (half? c).getD c.toNat :: pointsFrom false rest

/-- The code points of a text. -/
def points (s : List Char) : List Nat :=
  pointsFrom false s

/-- The number of code points of a text. -/
def size (s : List Char) : Nat :=
  (points s).length

/-- The code points of a text, each as a text. -/
def pieces (s : List Char) : List (List Char) :=
  (points s).map ofPoint

/-- The first code points of a text. -/
def front (n : Nat) (s : List Char) : List Char :=
  ofPoints ((points s).take n)

/-- Whether one list of code points stands somewhere in another. -/
def pointsOccur (needle : List Nat) : List Nat → Bool
  | [] => needle.isEmpty
  | n :: rest => needle.isPrefixOf (n :: rest) || pointsOccur needle rest

/-- Whether one text stands somewhere in another. -/
def occurs (needle s : List Char) : Bool :=
  pointsOccur (points needle) (points s)

/-! ### Nothing is lost -/

/-- A number that a character has is the number of that character. -/
theorem toNat_ofNat {n : Nat} (h : n.isValidChar) : (Char.ofNat n).toNat = n := by
  rw [Char.ofNat, dif_pos h]
  rfl

/-- The half is read off its stand-in. -/
theorem half?_standIn {n : Nat} (h : isHalf n = true) :
    half? (Char.ofNat (halfOffset + n)) = some n := by
  have bounds : 0xd800 ≤ n ∧ n ≤ 0xdfff := by simpa [isHalf] using h
  have valid : (halfOffset + n).isValidChar := Or.inr (by unfold halfOffset; omega)
  simp [half?, toNat_ofNat valid, h]

/-- No stand-in is taken for the mark. -/
theorem standIn_ne_mark {n : Nat} (h : isHalf n = true) :
    Char.ofNat (halfOffset + n) ≠ pointMark := by
  have bounds : 0xd800 ≤ n ∧ n ≤ 0xdfff := by simpa [isHalf] using h
  have valid : (halfOffset + n).isValidChar := Or.inr (by unfold halfOffset; omega)
  have valid' : Nat.isValidChar 0x10e000 := Or.inr (by omega)
  intro he
  have number := congrArg Char.toNat he
  rw [toNat_ofNat valid, pointMark, toNat_ofNat valid', halfOffset] at number
  omega

/-- A character that is written, marked or not, is read as one code point. -/
theorem points_ofChar_append (c : Char) (s : List Char) :
    points (ofChar c ++ s) = c.toNat :: points s := by
  unfold ofChar
  split
  · rename_i h
    simp [points, pointsFrom, h]
  · rename_i h
    simp only [isMarked, Bool.or_eq_true, beq_iff_eq, not_or, Bool.not_eq_true,
      Option.isSome_eq_false_iff, Option.isNone_iff_eq_none] at h
    simp [points, pointsFrom, h.1, h.2]

/-- So is any code point. -/
theorem points_ofPoint_append {n : Nat} (h : n < stray) (s : List Char) :
    points (ofPoint n ++ s) = n :: points s := by
  unfold ofPoint
  split
  · rename_i hHalf
    simp [points, pointsFrom, standIn_ne_mark hHalf, half?_standIn hHalf]
  · rename_i hHalf
    have valid : n.isValidChar := by
      simp only [isHalf, Bool.and_eq_true, decide_eq_true_eq, not_and, Nat.not_le] at hHalf
      unfold Nat.isValidChar stray at *
      omega
    rw [if_neg (Nat.ne_of_lt h), points_ofChar_append, toNat_ofNat valid]

/-- Nothing is lost: code points that are written in characters are read back. -/
theorem points_ofPoints {ns : List Nat} (h : ∀ n ∈ ns, n < stray) : points (ofPoints ns) = ns := by
  induction ns with
  | nil => rfl
  | cons n rest ih =>
    rw [ofPoints, List.flatMap_cons, points_ofPoint_append (h n (by simp))]
    rw [← ofPoints, ih fun m hm ↦ h m (by simp [hm])]

/-- The code point of a character is written as the character is. -/
theorem ofPoint_toNat (c : Char) : ofPoint c.toNat = ofChar c := by
  have valid : c.toNat.isValidChar := c.valid
  have notHalf : isHalf c.toNat = false := by
    unfold Nat.isValidChar at valid
    simp only [isHalf, Bool.and_eq_false_iff, decide_eq_false_iff_not]
    omega
  have notStray : c.toNat ≠ stray := by
    unfold Nat.isValidChar at valid
    unfold stray
    omega
  rw [ofPoint, notHalf, if_neg (by simp), if_neg notStray, Char.ofNat_toNat]

/-- A half is written as its stand-in. -/
theorem ofPoint_half {c : Char} {n : Nat} (h : half? c = some n) : ofPoint n = [c] := by
  unfold half? at h
  split at h
  · rename_i hc
    simp only [Bool.and_eq_true, decide_eq_true_eq] at hc
    obtain rfl : c.toNat - halfOffset = n := by simpa using h
    rw [ofPoint, if_pos hc.2, Nat.add_sub_cancel' hc.1, Char.ofNat_toNat]
  · simp at h

/-- Characters are read with or without a mark before them; what is read is written as they are, the
mark included. -/
theorem ofPoints_pointsFrom (s : List Char) :
    ofPoints (pointsFrom false s) = s ∧ ofPoints (pointsFrom true s) = pointMark :: s := by
  have strayText : ofPoint stray = [pointMark] := by simp [ofPoint, stray, isHalf]
  induction s with
  | nil => simp [pointsFrom, ofPoints, strayText]
  | cons c rest ih =>
    obtain ⟨plain, marked⟩ := ih
    simp only [ofPoints] at plain marked ⊢
    constructor
    · by_cases hMark : c = pointMark
      · subst hMark
        simpa [pointsFrom] using marked
      · cases hHalf : half? c with
        | none =>
          have hc : isMarked c = false := by simp [isMarked, hMark, hHalf]
          simp [pointsFrom, hMark, hHalf, plain, ofPoint_toNat, ofChar, hc]
        | some n => simp [pointsFrom, hMark, hHalf, plain, ofPoint_half hHalf]
    · by_cases hc : isMarked c = true
      · simp [pointsFrom, hc, plain, ofPoint_toNat, ofChar]
      · simp [pointsFrom, hc, plain, ofPoint_toNat, ofChar, strayText]

/-- Nothing is added: what is read of characters is written with the same characters. -/
theorem ofPoints_points (s : List Char) : ofPoints (points s) = s :=
  (ofPoints_pointsFrom s).1

end TreePath.Text
