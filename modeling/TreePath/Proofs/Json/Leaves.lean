import Mathlib.Data.List.Chain
import TreePath.Proofs.Json.Written

/-!
# Reading texts and whole numbers back

Every code point of a text is written as something that the reader takes off the front as one piece
(`stringBody?_escape`), with one exception: two escapes that happen to spell the two halves of a
pair are read as the character that the pair stands for. So a text is read back if nowhere in it the
first half of a pair stands before the second (`string?_bodyChars`). How a word or a number is read
does not depend on what follows it (`readPlain_append`), and a whole number is read back if it has
no more digits than the reader allows (`readPlain_toString`).

The pieces are dealt with from the smallest to the largest: digits of an escape, escapes, code
points, texts. One lemma says of every code point in which of four ways it is written: as a letter
after a backslash, as itself, as a unit in digits, or as two of them (`escaped_escape`). The reader
is followed in these four ways and not for each character.

With numbers it is the other way about. The reader looks for the longest beginning of a text that is
a number, so it has to be known that nothing that may follow would make it longer. What follows a
number in a text is an end, a blank, a comma, or a mark that closes something (`Ends`), and none of
these can stand in a number.
-/

namespace TreePath

namespace Json

/-! ### Code units -/

/-- A hexadecimal digit is read back. -/
theorem hexValue?_hexDigit : ∀ n < 16, hexValue? (Text.hexDigit n) = some n := by
  decide

/-- So are four of them. -/
theorem unit?_hexDigits {n : Nat} (h : n < 0x10000) (rest : List Char) :
    unit? (Text.hexDigits 4 n ++ rest) = some (n, rest) := by
  have hdigit (m : Nat) : hexValue? (Text.hexDigit (m % 16)) = some (m % 16) :=
    hexValue?_hexDigit _ (Nat.mod_lt m (by omega))
  simp only [Text.hexDigits, List.nil_append, List.cons_append, unit?, hdigit, Option.bind_eq_bind,
    Option.bind_some, Option.pure_def, Option.some.injEq, Prod.mk.injEq,
    and_true]
  omega

/-- The first half of a pair. -/
def isFirstHalf (n : Nat) : Bool :=
  0xd800 ≤ n && n < 0xdc00

/-- The second half of a pair. -/
def isSecondHalf (n : Nat) : Bool :=
  0xdc00 ≤ n && n < 0xe000

/-- A text in which the reader finds the code points that were written: they are code points, and
the first half of a pair does not stand before the second. -/
structure Unpaired (ns : List Nat) : Prop where
  /-- They are code points. -/
  bounded : ∀ n ∈ ns, n < Text.stray
  /-- Halves do not meet. -/
  apart : ns.IsChain fun m n ↦ ¬ (isFirstHalf m = true ∧ isSecondHalf n = true)

theorem Unpaired.of_cons {n : Nat} {ns : List Nat} (h : Unpaired (n :: ns)) : Unpaired ns :=
  ⟨fun m hm ↦ h.bounded m (List.mem_cons_of_mem n hm), (List.isChain_cons.1 h.apart).2⟩

/-- Among ASCII characters there are no halves. -/
theorem unpaired_of_isAscii {s : List Char} (h : Text.IsAscii s) : Unpaired (Text.points s) := by
  rw [Text.points_of_isAscii h]
  have hsmall : ∀ n ∈ s.map Char.toNat, n < 0x80 := List.forall_mem_map.2 h
  refine ⟨fun n hn ↦ Nat.lt_trans (hsmall n hn) (by decide), List.Pairwise.isChain ?_⟩
  refine List.Pairwise.imp_of_mem (fun {m n} hm _ _ ⟨hfirst, _⟩ ↦ ?_)
    (List.pairwise_of_forall fun _ _ ↦ trivial)
  have hm' := hsmall m hm
  simp only [isFirstHalf, Bool.and_eq_true, decide_eq_true_eq] at hfirst
  omega

/-- A unit stands for itself unless it is a first half that has a second half after it. -/
theorem unitPoint_eq_self {unit : Nat} {rest : List Char}
    (h : isFirstHalf unit = true → ∀ rest' low rest'', rest = '\\' :: 'u' :: rest' →
      unit? rest' = some (low, rest'') → isSecondHalf low = false) :
    unitPoint unit rest = (unit, rest) := by
  rw [unitPoint.eq_def]
  split
  · next hfirst =>
    split
    · next rest' =>
      split
      · next low rest'' hlow =>
        rw [if_neg]
        simpa [isSecondHalf] using h hfirst rest' low rest'' rfl hlow
      · rfl
    · rfl
  · rfl

/-- The two halves of a pair stand for a character. -/
theorem unitPoint_pair {n : Nat} (hlow : 0x10000 ≤ n) (hhigh : n < Text.stray)
    (rest : List Char) :
    unitPoint (0xd800 + (n - 0x10000) / 0x400)
        (escapeUnit (0xdc00 + (n - 0x10000) % 0x400) ++ rest) = (n, rest) := by
  rw [Text.stray] at hhigh
  have hfirst : (0xd800 ≤ 0xd800 + (n - 0x10000) / 0x400 &&
      0xd800 + (n - 0x10000) / 0x400 < 0xdc00) = true := by
    simp only [Bool.and_eq_true, decide_eq_true_eq]
    omega
  have hsecond : (0xdc00 ≤ 0xdc00 + (n - 0x10000) % 0x400 &&
      0xdc00 + (n - 0x10000) % 0x400 < 0xe000) = true := by
    simp only [Bool.and_eq_true, decide_eq_true_eq]
    omega
  have hunit := unit?_hexDigits (n := 0xdc00 + (n - 0x10000) % 0x400) (by omega) rest
  simp only [unitPoint, hfirst, if_true, escapeUnit, List.cons_append, hunit, hsecond,
    Prod.mk.injEq, and_true]
  omega

/-! ### Escapes -/

/-- The characters that are escaped by a letter, with the letters. -/
def letters : List (Char × Char) :=
  [('"', '"'), ('\\', '\\'), ('\n', 'n'), ('\r', 'r'), ('\t', 't'), ('\x0c', 'f'),
    ('\x08', 'b')]

/-- How a code point is written. -/
inductive Escaped (n : Nat) : List Char → Prop
  /-- By a letter. -/
  | letter {c e : Char} (hn : n = c.toNat) (h : (c, e) ∈ letters) : Escaped n ['\\', e]
  /-- As itself. -/
  | itself {c : Char} (hn : n = c.toNat) (h : 0x20 ≤ n ∧ n ≤ 0x7e) (hmark : c ≠ '"')
      (hescape : c ≠ '\\') : Escaped n [c]
  /-- By its code unit. -/
  | unit (h : n < 0x10000) : Escaped n (escapeUnit n)
  /-- By its two code units. -/
  | pair (h : 0x10000 ≤ n) :
      Escaped n (escapeUnit (0xd800 + (n - 0x10000) / 0x400) ++
        escapeUnit (0xdc00 + (n - 0x10000) % 0x400))

/-- Every code point is written by one of the ways that are read. -/
theorem escaped_escape (n : Nat) : Escaped n (escape n) := by
  rw [escape]
  split
  · next h => exact .letter h (by decide)
  split
  · next h => exact .letter h (by decide)
  split
  · next h => exact .letter h (by decide)
  split
  · next h => exact .letter h (by decide)
  split
  · next h => exact .letter h (by decide)
  split
  · next h => exact .letter h (by decide)
  split
  · next h => exact .letter h (by decide)
  split
  · next hmark hescape _ _ _ _ _ h =>
    have hn : n = (Char.ofNat n).toNat := (Text.toNat_ofNat (Or.inl (by omega))).symm
    exact .itself hn h (fun heq ↦ hmark (heq ▸ hn)) fun heq ↦ hescape (heq ▸ hn)
  split
  · next h => exact .unit h
  · next h => exact .pair (Nat.le_of_not_lt h)

/-- What begins like an escaped unit was written for a code point that is no second half. -/
theorem unit?_escape {n low : Nat} {rest rest' rest'' : List Char} (hn : n < Text.stray)
    (hsecond : isSecondHalf n = false) (h : escape n ++ rest = '\\' :: 'u' :: rest')
    (hlow : unit? rest' = some (low, rest'')) : isSecondHalf low = false := by
  have hescaped := escaped_escape n
  generalize escape n = x at h hescaped
  cases hescaped with
  | @letter c e _ hmem =>
    obtain ⟨rfl, -⟩ : e = 'u' ∧ rest = rest' := by simpa using h
    simp [letters] at hmem
  | @itself c _ _ _ hescape =>
    obtain ⟨rfl, -⟩ : c = '\\' ∧ rest = 'u' :: rest' := by simpa using h
    exact absurd rfl hescape
  | unit hunit =>
    obtain rfl : Text.hexDigits 4 n ++ rest = rest' := by simpa [escapeUnit] using h
    rw [unit?_hexDigits hunit] at hlow
    obtain ⟨rfl, -⟩ : n = low ∧ rest = rest'' := by simpa using hlow
    exact hsecond
  | pair hpair =>
    rw [Text.stray] at hn
    obtain rfl : Text.hexDigits 4 (0xd800 + (n - 0x10000) / 0x400) ++
        (escapeUnit (0xdc00 + (n - 0x10000) % 0x400) ++ rest) = rest' := by
      simpa [escapeUnit] using h
    rw [unit?_hexDigits (by omega)] at hlow
    obtain ⟨rfl, -⟩ : 0xd800 + (n - 0x10000) / 0x400 = low ∧ _ = rest'' := by simpa using hlow
    simp only [isSecondHalf, Bool.and_eq_false_iff, decide_eq_false_iff_not]
    omega

/-- A letter behind an escape stands for its character. -/
theorem stringBody?_letter {c e : Char} (h : (c, e) ∈ letters) (fuel : Nat)
    (read rest : List Char) :
    stringBody? (fuel + 1) read ('\\' :: e :: rest) = stringBody? fuel (c :: read) rest := by
  simp only [letters, List.mem_cons, List.not_mem_nil, or_false, Prod.mk.injEq] at h
  rcases h with
    ⟨rfl, rfl⟩ | ⟨rfl, rfl⟩ | ⟨rfl, rfl⟩ | ⟨rfl, rfl⟩ | ⟨rfl, rfl⟩ | ⟨rfl, rfl⟩ | ⟨rfl, rfl⟩
  all_goals rfl

/-- A character that needs no escape stands for itself. -/
theorem stringBody?_itself {c : Char} (hblank : 0x20 ≤ c.toNat) (hmark : c ≠ '"')
    (hescape : c ≠ '\\') (fuel : Nat) (read rest : List Char) :
    stringBody? (fuel + 1) read (c :: rest) = stringBody? fuel (c :: read) rest := by
  rw [stringBody?.eq_def]
  simp [hmark, hescape, Nat.not_lt.2 hblank]

/-- An escape by number stands for its code point, or for that of the pair which it begins. -/
theorem stringBody?_unit {unit n : Nat} (h : unit < 0x10000) {rest rest' : List Char}
    (hpoint : unitPoint unit rest = (n, rest')) (fuel : Nat) (read : List Char) :
    stringBody? (fuel + 1) read (escapeUnit unit ++ rest) =
      stringBody? fuel ((Text.ofPoint n).reverse ++ read) rest' := by
  have hunit := unit?_hexDigits h rest
  rw [escapeUnit, List.cons_append, List.cons_append, stringBody?]
  simp [hunit, hpoint]

/-- An ASCII character is written as itself in a text. -/
theorem ofPoint_of_lt {c : Char} (h : c.toNat < 0x80) : Text.ofPoint c.toNat = [c] := by
  rw [Text.ofPoint_toNat, Text.ofChar, Text.isMarked_of_lt h, if_neg (by simp)]

/-- The reader takes a code point off the front of a text as one piece. -/
theorem stringBody?_escape {n : Nat} {ns : List Nat} (h : Unpaired (n :: ns)) (fuel : Nat)
    (read rest : List Char) :
    stringBody? (fuel + 1) read (escape n ++ (ns.flatMap escape ++ '"' :: rest)) =
      stringBody? fuel ((Text.ofPoint n).reverse ++ read) (ns.flatMap escape ++ '"' :: rest) := by
  have hstray : n < Text.stray := h.bounded n List.mem_cons_self
  have hescaped := escaped_escape n
  generalize escape n = x at hescaped
  cases hescaped with
  | @letter c e hn hmem =>
    have hascii : c.toNat < 0x80 := by
      have hall : ∀ l ∈ letters, l.1.toNat < 0x80 := by decide
      exact hall (c, e) hmem
    rw [hn, ofPoint_of_lt hascii]
    exact stringBody?_letter hmem fuel read _
  | @itself c hn hbound hmark hescape =>
    rw [hn] at hbound ⊢
    rw [ofPoint_of_lt (by omega)]
    exact stringBody?_itself hbound.1 hmark hescape fuel read _
  | unit hunit =>
    refine stringBody?_unit hunit (unitPoint_eq_self ?_) fuel read
    intro hfirst rest' low rest'' heq hlow
    cases ns with
    | nil => simp at heq
    | cons m ms =>
      rw [List.flatMap_cons, List.append_assoc] at heq
      have hm : m < Text.stray := h.bounded m (by simp)
      have hsecond : isSecondHalf m = false := by
        have hapart := (List.isChain_cons_cons.1 h.apart).1
        simpa [hfirst] using hapart
      exact unit?_escape hm hsecond heq hlow
  | pair hpair =>
    rw [List.append_assoc]
    have hunit : 0xd800 + (n - 0x10000) / 0x400 < 0x10000 := by
      rw [Text.stray] at hstray
      omega
    exact stringBody?_unit hunit (unitPoint_pair hpair hstray _) fuel read

/-- If no two escapes happen to make a pair, all code points are read back. -/
theorem stringBody?_flatMap {ns : List Nat} (h : Unpaired ns) {fuel : Nat}
    (hfuel : ns.length < fuel) (read rest : List Char) :
    stringBody? fuel read (ns.flatMap escape ++ '"' :: rest) =
      some (read.reverse ++ Text.ofPoints ns, rest) := by
  induction ns generalizing fuel read with
  | nil =>
    obtain ⟨fuel, rfl⟩ : ∃ k, fuel = k + 1 := ⟨fuel - 1, by omega⟩
    rw [stringBody?.eq_def]
    simp [Text.ofPoints]
  | cons n ns ih =>
    obtain ⟨fuel, rfl⟩ : ∃ k, fuel = k + 1 := ⟨fuel - 1, by omega⟩
    rw [List.flatMap_cons, List.append_assoc, stringBody?_escape h,
      ih h.of_cons (by simpa using hfuel)]
    simp [Text.ofPoints]

/-- An escape is at least as long as what it stands for, so the fuel for a text is enough. -/
theorem length_le_flatMap_escape (ns : List Nat) : ns.length ≤ (ns.flatMap escape).length := by
  induction ns with
  | nil => exact Nat.le_refl 0
  | cons n ns ih =>
    have hescape : 0 < (escape n).length := by
      have hescaped := escaped_escape n
      generalize escape n = x at hescaped
      cases hescaped <;> simp [escapeUnit]
    rw [List.flatMap_cons, List.length_append, List.length_cons]
    omega

/-- What is written of a text after its opening mark. -/
def bodyChars (s : String) : List Char :=
  (Text.points s.toList).flatMap escape ++ ['"']

/-- The characters of a string that is written. -/
theorem toList_stringText (s : String) : (stringText s).toList = '"' :: bodyChars s := by
  rw [stringText, String.toList_ofList]
  rfl

/-- A text in which no halves meet is read back. -/
theorem string?_bodyChars {s : String} (h : Unpaired (Text.points s.toList)) (rest : List Char) :
    string? (bodyChars s ++ rest) = some (s.toList, rest) := by
  have hlength := length_le_flatMap_escape (Text.points s.toList)
  have hbody : bodyChars s ++ rest = (Text.points s.toList).flatMap escape ++ '"' :: rest := by
    simp [bodyChars]
  rw [string?, hbody, stringBody?_flatMap h (by rw [List.length_append]; omega),
    Text.ofPoints_points]
  rfl

/-! ### Words and numbers among other things -/

/-- The characters that may follow a word or a number: blanks, and what separates and closes. -/
def enders : List Char :=
  [' ', '\t', '\n', '\r', ',', ']', '\x7d']

/-- The sign of an exponent, and what comes after it. -/
def signed (s : List Char) : Bool × List Char :=
  match s with
  | '-' :: r => (true, r)
  | '+' :: r => (false, r)
  | r => (false, r)

theorem exponent_cons (e : Char) (s : List Char) :
    exponent (e :: s) =
      if e == 'e' || e == 'E' then
        if ((signed s).2.takeWhile isDigit).isEmpty then (none, e :: s)
        else
          let n : Int := natOf ((signed s).2.takeWhile isDigit)
          (some (if (signed s).1 then -n else n), (signed s).2.dropWhile isDigit)
      else (none, e :: s) :=
  rfl

/-- What follows a word or a number does not continue it. -/
def Ends (rest : List Char) : Prop :=
  ∀ c ∈ rest.head?, c ∈ enders

section Following

variable {rest : List Char} (hrest : Ends rest)

include hrest

/-- What is true of no character that may follow is not true of the first that does. -/
theorem Ends.takeWhile_eq_nil {p : Char → Bool} (hp : enders.any p = false) :
    rest.takeWhile p = [] := by
  cases rest with
  | nil => rfl
  | cons c rest =>
    have hc : ¬ p c = true := List.any_eq_false.1 hp c (hrest c rfl)
    rw [List.takeWhile_cons, if_neg hc]

/-- What comes after a number does not begin with a digit, so that it adds none. -/
theorem takeWhile_isDigit_append (s : List Char) :
    (s ++ rest).takeWhile isDigit = s.takeWhile isDigit := by
  induction s with
  | nil => exact hrest.takeWhile_eq_nil rfl
  | cons c s ih => rw [List.cons_append, List.takeWhile_cons, List.takeWhile_cons, ih]

/-- And it is what is left when the digits are gone. -/
theorem dropWhile_isDigit_append (s : List Char) :
    (s ++ rest).dropWhile isDigit = s.dropWhile isDigit ++ rest := by
  have htake := takeWhile_isDigit_append hrest s
  have hwhole := List.takeWhile_append_dropWhile (p := isDigit) (l := s ++ rest)
  refine (List.append_right_inj (s.takeWhile isDigit)).1 ?_
  rw [← List.append_assoc, List.takeWhile_append_dropWhile, ← htake, hwhole]

/-- A fraction ends where the number does. -/
theorem fraction_append (s : List Char) :
    fraction (s ++ rest) = ((fraction s).1, (fraction s).2 ++ rest) := by
  rcases s with - | ⟨c, s⟩
  · rcases rest with - | ⟨c, rest⟩
    · rfl
    · have hdot : c ≠ '.' := fun heq ↦ absurd (heq ▸ hrest c rfl) (by decide)
      simp [fraction, hdot]
  · by_cases hdot : c = '.'
    · subst hdot
      simp only [List.cons_append, fraction, takeWhile_isDigit_append hrest,
        dropWhile_isDigit_append hrest]
      split <;> rfl
    · simp [fraction, hdot]

/-- A sign is no matter of what comes after. -/
theorem signed_append (s : List Char) :
    signed (s ++ rest) = ((signed s).1, (signed s).2 ++ rest) := by
  rcases s with - | ⟨c, s⟩
  · rcases rest with - | ⟨c, rest⟩
    · rfl
    · have hminus : c ≠ '-' := fun heq ↦ absurd (heq ▸ hrest c rfl) (by decide)
      have hplus : c ≠ '+' := fun heq ↦ absurd (heq ▸ hrest c rfl) (by decide)
      simp [signed, hminus, hplus]
  · by_cases hminus : c = '-'
    · subst hminus
      rfl
    · by_cases hplus : c = '+'
      · subst hplus
        rfl
      · simp [signed, hminus, hplus]

/-- An exponent ends where the number does. -/
theorem exponent_append (s : List Char) :
    exponent (s ++ rest) = ((exponent s).1, (exponent s).2 ++ rest) := by
  rcases s with - | ⟨e, s⟩
  · rcases rest with - | ⟨c, rest⟩
    · rfl
    · have hsmall : c ≠ 'e' := fun heq ↦ absurd (heq ▸ hrest c rfl) (by decide)
      have hlarge : c ≠ 'E' := fun heq ↦ absurd (heq ▸ hrest c rfl) (by decide)
      simp [exponent, hsmall, hlarge]
  · simp only [List.cons_append, exponent_cons, signed_append hrest,
      takeWhile_isDigit_append hrest, dropWhile_isDigit_append hrest]
    split
    · split <;> rfl
    · rfl

/-- A number ends where it should, whatever comes after it. -/
theorem magnitude_append (negative : Bool) (s : List Char) :
    magnitude negative (s ++ rest) =
      (magnitude negative s).map fun r ↦ (r.1, r.2 ++ rest) := by
  have hlength : (if (s.takeWhile isDigit).head? == some '0' then ['0']
      else s.takeWhile isDigit).length ≤ s.length := by
    refine Nat.le_trans ?_ (List.takeWhile_sublist isDigit).length_le
    split
    · next hzero =>
      refine List.length_pos_iff.2 fun hnil ↦ ?_
      rw [hnil] at hzero
      cases hzero
    · exact Nat.le_refl _
  rw [magnitude, magnitude]
  simp only [takeWhile_isDigit_append hrest]
  generalize (if (s.takeWhile isDigit).head? == some '0' then ['0']
    else s.takeWhile isDigit) = whole at hlength ⊢
  simp only [List.drop_append_of_le_length hlength, fraction_append hrest, exponent_append hrest]
  split
  · rfl
  · split
    · split <;> rfl
    · rfl

/-- So does a word. -/
theorem dropWord?_append {word : List Char} (hword : ∀ c ∈ word, c ∉ enders) (s : List Char) :
    dropWord? word (s ++ rest) = (dropWord? word s).map (· ++ rest) := by
  induction word generalizing s with
  | nil => rfl
  | cons c word ih =>
    obtain ⟨hc, hword⟩ := List.forall_mem_cons.1 hword
    rcases s with - | ⟨d, s⟩
    · rcases rest with - | ⟨d, rest⟩
      · rfl
      · have hne : c ≠ d := fun heq ↦ hc (heq ▸ hrest d rfl)
        simp [dropWord?, hne]
    · simp only [List.cons_append, dropWord?, ih hword]
      split <;> rfl

/-- So does whichever word it is. -/
theorem findSome?_words_append (s : List Char) :
    (words.findSome? fun w ↦ (dropWord? w.1.toList (s ++ rest)).map fun r ↦ (w.2, r)) =
      (words.findSome? fun w ↦ (dropWord? w.1.toList s).map fun r ↦ (w.2, r)).map fun r ↦
        (r.1, r.2 ++ rest) := by
  have hdisjoint : (words.all fun w ↦ !enders.any fun c ↦ w.1.toList.contains c) = true := rfl
  have hwords : ∀ w ∈ words, ∀ c ∈ w.1.toList, c ∉ enders := fun w hw c hc hender ↦ by
    have hnone : (enders.any fun c ↦ w.1.toList.contains c) = false := by
      simpa using List.all_eq_true.1 hdisjoint w hw
    exact List.any_eq_false.1 hnone c hender (List.contains_iff_mem.2 hc)
  generalize words = ws at hwords ⊢
  induction ws with
  | nil => rfl
  | cons w ws ih =>
    obtain ⟨hw, hws⟩ := List.forall_mem_cons.1 hwords
    rw [List.findSome?_cons, List.findSome?_cons, dropWord?_append hrest hw, ih hws]
    cases dropWord? w.1.toList s <;> rfl

/-- What follows a word or a number has no influence on how it is read. -/
theorem readPlain_append (s : List Char) :
    readPlain (s ++ rest) = (readPlain s).map fun r ↦ (r.1, r.2 ++ rest) := by
  rw [readPlain.eq_def, readPlain.eq_def, findSome?_words_append hrest]
  cases words.findSome? fun w ↦ (dropWord? w.1.toList s).map fun r ↦ (w.2, r) with
  | some r => rfl
  | none =>
    -- the sign is looked at before the number, and what follows might bring one if nothing was left
    have hmagnitude (negative : Bool) (s : List Char) := magnitude_append hrest negative s
    rcases s with - | ⟨c, s⟩
    · rcases rest with - | ⟨c, rest⟩
      · rfl
      · have hminus : c ≠ '-' := fun heq ↦ absurd (heq ▸ hrest c rfl) (by decide)
        simpa [hminus] using hmagnitude false []
    · by_cases hminus : c = '-'
      · subst hminus
        exact hmagnitude true s
      · simpa [hminus] using hmagnitude false (c :: s)

end Following

/-! ### Whole numbers -/

/-- The digits of a number are read back. -/
theorem natOf_toDigits (n : Nat) : natOf (Nat.toDigits 10 n) = n :=
  Nat.ofDigitChars_ten_toDigits

/-- They are digits. -/
theorem isDigit_of_mem_toDigits {n : Nat} {c : Char} (h : c ∈ Nat.toDigits 10 n) :
    isDigit c = true := by
  have hdigit := Char.isDigit_iff_toNat.1 (Nat.isDigit_of_mem_toDigits (by omega) (by omega) h)
  simpa [isDigit, Char.le_def, UInt32.le_iff_toNat_le] using hdigit

/-- Only zero has a zero in front. -/
theorem head?_toDigits {n : Nat} (h : (Nat.toDigits 10 n).head? = some '0') : n = 0 := by
  induction n using Nat.strongRecOn with
  | ind n ih =>
    rw [Nat.toDigits_eq_if (by omega)] at h
    split at h
    · next hlt =>
      have hzero : ∀ m < 10, m.digitChar = '0' → m = 0 := by decide
      exact hzero n hlt (Option.some.inj h)
    · next hge =>
      have hne : Nat.toDigits 10 (n / 10) ≠ [] := Nat.toDigits_ne_nil
      rw [List.head?_append_of_ne_nil _ hne] at h
      have hquotient := ih (n / 10) (by omega) h
      omega

/-- A whole number without its sign is read back. -/
theorem magnitude_toDigits (negative : Bool) {n : Nat}
    (hlimit : (Nat.toDigits 10 n).length ≤ Decimal.digitLimit) :
    magnitude negative (Nat.toDigits 10 n) = .ok (int (if negative then -n else n), []) := by
  have hdigits : (Nat.toDigits 10 n).takeWhile isDigit = Nat.toDigits 10 n := by
    have hall : (Nat.toDigits 10 n ++ []).takeWhile isDigit = Nat.toDigits 10 n ++ [] :=
      List.takeWhile_append_of_pos fun c hc ↦ isDigit_of_mem_toDigits hc
    rwa [List.append_nil] at hall
  have hwhole : (if (Nat.toDigits 10 n).head? == some '0' then ['0'] else Nat.toDigits 10 n) =
      Nat.toDigits 10 n := by
    split
    · next hzero =>
      rw [head?_toDigits (beq_iff_eq.1 hzero)]
      rfl
    · rfl
  have hne : (Nat.toDigits 10 n).isEmpty = false :=
    List.isEmpty_eq_false_iff.2 Nat.toDigits_ne_nil
  rw [magnitude]
  simp only [hdigits, hwhole, hne, List.drop_length, fraction, exponent, natOf_toDigits]
  simp [Nat.not_lt.2 hlimit]

/-- A whole number is written with its sign if it is negative. -/
theorem toList_toString_int (i : Int) :
    (toString i).toList = (if i < 0 then ['-'] else []) ++ Nat.toDigits 10 i.natAbs := by
  rw [Int.toString_eq_repr, Int.repr_eq_if]
  by_cases h : 0 ≤ i
  · rw [if_pos h, if_neg (Int.not_lt.2 h), Nat.toList_repr, List.nil_append]
    congr 1
    omega
  · rw [if_neg h, if_pos (Int.not_le.1 h), String.toList_append, Nat.toList_repr]
    refine congrArg ('-' :: Nat.toDigits 10 ·) ?_
    omega

/-- A word is not found where another character stands first. -/
theorem dropWord?_of_ne {c d : Char} (h : c ≠ d) (word rest : List Char) :
    dropWord? (c :: word) (d :: rest) = none := by
  simp [dropWord?, h]

/-- No word begins with a digit, or goes on with one after a sign. -/
theorem findSome?_words {d : Char} (hd : isDigit d = true) (sign : Bool) (rest : List Char) :
    (words.findSome? fun w ↦
      (dropWord? w.1.toList ((if sign then ['-'] else []) ++ d :: rest)).map fun rest ↦
        (w.2, rest)) = none := by
  have hne : ∀ c, isDigit c = false → c ≠ d := by
    rintro c hc rfl
    rw [hd] at hc
    cases hc
  refine List.findSome?_eq_none_iff.2 fun w hw ↦ ?_
  rw [Option.map_eq_none_iff]
  simp only [words, List.mem_cons, List.not_mem_nil, or_false] at hw
  cases sign with
  | false =>
    rcases hw with rfl | rfl | rfl | rfl | rfl | rfl
    all_goals exact dropWord?_of_ne (hne _ (by decide)) _ _
  | true =>
    rcases hw with rfl | rfl | rfl | rfl | rfl | rfl
    rotate_right
    · exact dropWord?_of_ne (hne 'I' (by decide)) _ _
    all_goals exact dropWord?_of_ne (by decide) _ _

/-- A whole number is read back if it is not too long. -/
theorem readPlain_toString {i : Int}
    (hlimit : (Nat.toDigits 10 i.natAbs).length ≤ Decimal.digitLimit) :
    readPlain (toString i).toList = .ok (int i, []) := by
  have hne : Nat.toDigits 10 i.natAbs ≠ [] := Nat.toDigits_ne_nil
  obtain ⟨d, digits, hdigits⟩ := List.exists_cons_of_ne_nil hne
  have hd : isDigit d = true := isDigit_of_mem_toDigits (hdigits ▸ List.mem_cons_self)
  rw [toList_toString_int, readPlain.eq_def]
  by_cases hi : i < 0
  · have hwords := findSome?_words hd true digits
    rw [if_pos rfl, ← hdigits] at hwords
    rw [if_pos hi, hwords]
    have hread := magnitude_toDigits true hlimit
    rw [if_pos rfl, Int.ofNat_natAbs_of_nonpos (Int.le_of_lt hi), Int.neg_neg] at hread
    exact hread
  · have hwords := findSome?_words hd false digits
    rw [if_neg (by simp), ← hdigits] at hwords
    rw [if_neg hi, hwords]
    have hread := magnitude_toDigits false hlimit
    rw [if_neg (by simp), Int.natAbs_of_nonneg (Int.not_lt.1 hi)] at hread
    simp only [List.nil_append]
    split
    · next heq =>
      rw [hdigits] at heq
      obtain ⟨rfl, -⟩ : d = '-' ∧ _ := by simpa using heq
      cases hd
    · exact hread

end Json

end TreePath
