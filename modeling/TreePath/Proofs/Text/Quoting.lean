import Mathlib.Algebra.Group.Nat.Defs
import TreePath.Text.Quoted

/-!
# Reading quoted texts back

A quoted text tells what it was made of, and where it ends, whatever follows it. The mark in front
says which mark is escaped; one code point after the other is then read off the front
(`readPoint_escape`), and the first mark that no backslash belongs to ends the text, since nothing
that is written for a code point starts with the mark (`escape_eq_cons`).

That what is written can be told from the front is put as a property of the writer
(`SelfDelimiting`), in the form in which it is handed on to whatever texts are put together from
others: no reader is needed for those.

What is written for a code point is a letter, a mark or digits after a backslash, or the code point
itself if it can be printed. The reader in this module is not one that runs anywhere. It takes one
code point off the front of a list of characters, and it exists so that the writer can be shown to
be injective at any place of a longer text.
-/

namespace TreePath.Text

/-- What is written for `a` can be told from the front: where the same characters come first that
are written for something, together with what follows, that is `a`, and the same follows. -/
def SelfDelimiting {α : Type} (write : α → List Char) (a : α) : Prop :=
  ∀ ⦃b : α⦄ ⦃rest rest' : List Char⦄, write a ++ rest = write b ++ rest' → a = b ∧ rest = rest'

/-! ### Hexadecimal digits -/

/-- The value of a hexadecimal digit in lower case. -/
def digitValue (c : Char) : Nat :=
  if c.toNat < 58 then c.toNat - 48 else c.toNat - 87

/-- The number that hexadecimal digits spell. -/
def digitsValue (digits : List Char) : Nat :=
  digits.foldl (fun n c ↦ 16 * n + digitValue c) 0

/-- A hexadecimal digit is read back. -/
theorem digitValue_hexDigit : ∀ n < 16, digitValue (hexDigit n) = n := by
  decide

/-- So are digits that have room for the number. -/
theorem digitsValue_hexDigits {width n : Nat} (h : n < 16 ^ width) :
    digitsValue (hexDigits width n) = n := by
  induction width generalizing n with
  | zero =>
    rw [Nat.pow_zero, Nat.lt_one_iff] at h
    rw [h]
    rfl
  | succ width ih =>
    have hdiv : n / 16 < 16 ^ width := by
      rw [Nat.pow_succ] at h
      exact Nat.div_lt_of_lt_mul (by omega)
    have hlast := digitValue_hexDigit (n % 16) (Nat.mod_lt n (by omega))
    rw [hexDigits, digitsValue, List.foldl_append, ← digitsValue, ih hdiv, List.foldl_cons,
      List.foldl_nil, hlast]
    exact Nat.div_add_mod n 16

/-! ### One code point -/

/-- The code point that is written at the front of a text inside quotes, and the text after it. -/
def readPoint : List Char → Nat × List Char
  | [] => (stray, [])
  | [c] => (c.toNat, [])
  | c :: d :: rest =>
    if c ≠ '\\' then (c.toNat, d :: rest)
    else if d = 'n' then ('\n'.toNat, rest)
    else if d = 'r' then ('\r'.toNat, rest)
    else if d = 't' then ('\t'.toNat, rest)
    else if d = 'x' then (digitsValue (rest.take 2), rest.drop 2)
    else if d = 'u' then (digitsValue (rest.take 4), rest.drop 4)
    else if d = 'U' then (digitsValue (rest.take 8), rest.drop 8)
    else (d.toNat, rest)

/-- What does not begin with a backslash stands for itself. -/
theorem readPoint_of_ne {c : Char} (h : c ≠ '\\') (rest : List Char) :
    readPoint (c :: rest) = (c.toNat, rest) := by
  cases rest with
  | nil => rfl
  | cons d rest => rw [readPoint, if_pos h]

/-- What is printable is a character, and no half of a pair. -/
theorem toNat_ofNat_of_isPrintable {n : Nat} (h : isPrintable (Char.ofNat n) = true) :
    (Char.ofNat n).toNat = n := by
  by_cases hvalid : n.isValidChar
  · exact toNat_ofNat hvalid
  · -- of what is no character the first control is made, which is not printable
    have hzero : Char.ofNat n = '\x00' := by
      rw [Char.ofNat, dif_neg hvalid]
      rfl
    rw [hzero] at h
    exact absurd h (by decide)

section Escapes

variable {mark : Char} (hmark : mark = '\'' ∨ mark = '"')

include hmark

/-- Nothing that is written for a code point inside quotes starts with the mark. -/
theorem escape_eq_cons (n : Nat) : ∃ c s, escape mark n = c :: s ∧ c ≠ mark := by
  have hescape : '\\' ≠ mark := by
    rcases hmark with rfl | rfl
    · decide
    · decide
  rw [escape]
  split
  · exact ⟨_, _, rfl, hescape⟩
  split
  · exact ⟨_, _, rfl, hescape⟩
  split
  · exact ⟨_, _, rfl, hescape⟩
  split
  · exact ⟨_, _, rfl, hescape⟩
  split
  · next hn _ _ _ h =>
    refine ⟨_, _, rfl, fun hc ↦ hn (Or.inl ?_)⟩
    rw [← hc, toNat_ofNat_of_isPrintable h.2]
  split
  · exact ⟨_, _, rfl, hescape⟩
  split
  · exact ⟨_, _, rfl, hescape⟩
  · exact ⟨_, _, rfl, hescape⟩

/-- What is written for a code point inside quotes is read as that code point. -/
theorem readPoint_escape {n : Nat} (hn : n ≤ stray) (rest : List Char) :
    readPoint (escape mark n ++ rest) = (n, rest) := by
  rw [escape]
  split
  · next h =>
    -- one of the two marks, or the backslash
    rcases hmark with rfl | rfl <;> rcases h with rfl | rfl <;> rfl
  split
  · next h => rw [h]; rfl
  split
  · next h => rw [h]; rfl
  split
  · next h => rw [h]; rfl
  split
  · next hescape _ _ _ h =>
    have hc := toNat_ofNat_of_isPrintable h.2
    have hne : Char.ofNat n ≠ '\\' := fun heq ↦ hescape (Or.inr (by rw [← hc, heq]))
    rw [List.singleton_append, readPoint_of_ne hne, hc]
  split
  · next h =>
    have hsmall : n < 16 ^ 2 := h
    simp [readPoint, digitsValue_hexDigits hsmall]
  split
  · next h =>
    have hsmall : n < 16 ^ 4 := h
    simp [readPoint, digitsValue_hexDigits hsmall]
  · have hsmall : n < 16 ^ 8 := Nat.lt_of_le_of_lt hn (by decide)
    simp [readPoint, digitsValue_hexDigits hsmall]

end Escapes

/-! ### Whole texts -/

/-- No character has a greater number than the one of a mark that marks nothing. -/
theorem toNat_le_stray (c : Char) : c.toNat ≤ stray := by
  have hvalid : c.toNat.isValidChar := c.valid
  unfold Nat.isValidChar at hvalid
  unfold stray
  omega

/-- A character is read as itself, or as the half that it stands in for. -/
theorem half?_getD_le_stray (c : Char) : (half? c).getD c.toNat ≤ stray := by
  have hc := toNat_le_stray c
  unfold half?
  split
  · rw [Option.getD_some]
    exact Nat.le_trans (Nat.sub_le c.toNat halfOffset) hc
  · exact hc

/-- What a text is read as are code points, or marks that mark nothing. -/
theorem le_stray_of_mem_pointsFrom {marked : Bool} {s : List Char} {n : Nat}
    (h : n ∈ pointsFrom marked s) : n ≤ stray := by
  fun_induction pointsFrom marked s with
  | case1 => cases h
  | case2 => exact Nat.le_of_eq (List.mem_singleton.1 h)
  | case3 c rest hc ih =>
    rcases List.mem_cons.1 h with rfl | h
    · exact toNat_le_stray c
    · exact ih h
  | case4 c rest hc ih =>
    rcases List.mem_cons.1 h with rfl | h
    · exact Nat.le_refl _
    rcases List.mem_cons.1 h with rfl | h
    · exact toNat_le_stray c
    · exact ih h
  | case5 rest ih => exact ih h
  | case6 c rest hc ih =>
    rcases List.mem_cons.1 h with rfl | h
    · exact half?_getD_le_stray c
    · exact ih h

/-- So no greater number is read of a text. -/
theorem le_stray_of_mem_points (s : List Char) : ∀ n ∈ points s, n ≤ stray :=
  fun _ ↦ le_stray_of_mem_pointsFrom

/-- A text is quoted with one of two marks. -/
theorem quoteMark_eq (s : List Char) : quoteMark s = '\'' ∨ quoteMark s = '"' := by
  rw [quoteMark]
  split
  · exact Or.inr rfl
  · exact Or.inl rfl

/-- What is written for code points inside quotes, up to the closing mark, is written for no
others. -/
theorem flatMap_escape_append_inj {mark : Char} (hmark : mark = '\'' ∨ mark = '"')
    {ns ms : List Nat} (hns : ∀ n ∈ ns, n ≤ stray) (hms : ∀ m ∈ ms, m ≤ stray)
    {rest rest' : List Char}
    (h : ns.flatMap (escape mark) ++ mark :: rest = ms.flatMap (escape mark) ++ mark :: rest') :
    ns = ms ∧ rest = rest' := by
  induction ns generalizing ms with
  | nil =>
    cases ms with
    | nil => exact ⟨rfl, (List.cons.inj h).2⟩
    | cons m ms =>
      obtain ⟨c, s, hc, hne⟩ := escape_eq_cons hmark m
      rw [List.flatMap_cons, hc] at h
      exact absurd (List.cons.inj h).1.symm hne
  | cons n ns ih =>
    obtain ⟨hn, hns⟩ := List.forall_mem_cons.1 hns
    cases ms with
    | nil =>
      obtain ⟨c, s, hc, hne⟩ := escape_eq_cons hmark n
      rw [List.flatMap_cons, hc] at h
      exact absurd (List.cons.inj h).1 hne
    | cons m ms =>
      obtain ⟨hm, hms⟩ := List.forall_mem_cons.1 hms
      rw [List.flatMap_cons, List.flatMap_cons, List.append_assoc, List.append_assoc] at h
      have hread := congrArg readPoint h
      rw [readPoint_escape hmark hn, readPoint_escape hmark hm, Prod.mk.injEq] at hread
      obtain ⟨rfl, hrest⟩ := ih hns hms hread.2
      exact ⟨congrArg (· :: ns) hread.1, hrest⟩

/-- **A quoted text tells what it was made of, and where it ends.** -/
theorem selfDelimiting_quote (s : List Char) : SelfDelimiting quote s := by
  intro t rest rest' h
  rw [quote, quote, List.cons_append, List.cons_append, List.append_assoc, List.append_assoc,
    List.cons.injEq] at h
  obtain ⟨hmark, hbody⟩ := h
  rw [← hmark, List.singleton_append, List.singleton_append] at hbody
  obtain ⟨hpoints, hrest⟩ := flatMap_escape_append_inj (quoteMark_eq s) (le_stray_of_mem_points s)
    (le_stray_of_mem_points t) hbody
  refine ⟨?_, hrest⟩
  rw [← ofPoints_points s, hpoints, ofPoints_points]

/-- A quoted text tells where it ends, whatever comes after it. -/
theorem selfDelimiting_quote_toList (s : String) :
    SelfDelimiting (fun t : String ↦ quote t.toList) s := by
  intro t rest rest' h
  obtain ⟨hchars, hrest⟩ := selfDelimiting_quote s.toList h
  exact ⟨String.toList_injective hchars, hrest⟩

end TreePath.Text
