import TreePath.Text.Encoding
import TreePath.Text.Utf8

/-!
# Texts of ASCII characters

Of a text of ASCII characters every character is a code point of its own and a byte of its own. So
such a text can always be written in UTF-8 (`utf8?_of_isAscii`), and reading the bytes gives it back
(`decode?_utf8`).

In general neither is so. A text may hold code points that are no characters, and some characters
stand in for these (`Text.isMarked`); other characters take several bytes. None of the stand-ins is
below 128, and this is what the proofs use: the functions on texts ask of each character whether it
is one, and of an ASCII character it is known that it is not.
-/

namespace TreePath.Text

/-- All characters are ASCII. -/
def IsAscii (s : List Char) : Prop :=
  ∀ c ∈ s, c.toNat < 0x80

instance (s : List Char) : Decidable (IsAscii s) :=
  List.decidableBAll (fun c : Char ↦ c.toNat < 0x80) s

theorem isAscii_nil : IsAscii [] :=
  fun _ hc ↦ absurd hc List.not_mem_nil

theorem isAscii_append {s t : List Char} : IsAscii (s ++ t) ↔ IsAscii s ∧ IsAscii t :=
  List.forall_mem_append

theorem isAscii_cons {c : Char} {s : List Char} : IsAscii (c :: s) ↔ c.toNat < 0x80 ∧ IsAscii s :=
  List.forall_mem_cons

/-- An ASCII character is no stand-in, and no mark. -/
theorem isMarked_of_lt {c : Char} (h : c.toNat < 0x80) : isMarked c = false := by
  have hmark : c ≠ pointMark := by
    rintro rfl
    have hvalid : Nat.isValidChar 0x10e000 := Or.inr (by omega)
    rw [pointMark, toNat_ofNat hvalid] at h
    omega
  have hhalf : half? c = none := by
    have hlow : ¬ halfOffset ≤ c.toNat := by
      rw [halfOffset]
      omega
    simp [half?, hlow]
  simp [isMarked, hmark, hhalf]

/-- The code points of a text of ASCII are its characters. -/
theorem points_of_isAscii {s : List Char} (h : IsAscii s) : points s = s.map Char.toNat := by
  induction s with
  | nil => rfl
  | cons c rest ih =>
    obtain ⟨hc, hrest⟩ := isAscii_cons.1 h
    have hfirst := points_ofChar_append c rest
    rw [ofChar, isMarked_of_lt hc, if_neg (by simp)] at hfirst
    exact hfirst.trans (congrArg _ (ih hrest))

/-! ### Writing -/

/-- There are no halves among them. -/
theorem halfRun?_of_isAscii {s : List Char} (h : IsAscii s) (place : Nat) :
    halfRun? place (s.map Char.toNat) = none := by
  induction s generalizing place with
  | nil => rfl
  | cons c rest ih =>
    obtain ⟨hc, hrest⟩ := isAscii_cons.1 h
    have hhalf : isHalf c.toNat = false := by
      simp only [isHalf, Bool.and_eq_false_iff, decide_eq_false_iff_not]
      omega
    rw [List.map_cons, halfRun?, hhalf, if_neg (by simp)]
    exact ih hrest (place + 1)

/-- A text of ASCII characters can be written. -/
theorem utf8?_of_isAscii {s : String} (h : IsAscii s.toList) : utf8? s = .ok s.toUTF8 := by
  have hchars : String.ofList ((s.toList.map Char.toNat).map Char.ofNat) = s := by
    rw [List.map_map]
    simp [Function.comp_def]
  simp only [utf8?, points_of_isAscii h, halfRun?_of_isAscii h, hchars]

/-- Each of its characters is one byte. -/
theorem toUTF8_of_isAscii {s : List Char} (h : IsAscii s) :
    (String.ofList s).toUTF8 = (s.map fun c ↦ c.val.toUInt8).toByteArray := by
  rw [String.toUTF8_eq_toByteArray, String.toByteArray_ofList]
  induction s with
  | nil => rfl
  | cons c rest ih =>
    obtain ⟨hc, hrest⟩ := isAscii_cons.1 h
    have hsize : c.utf8Size = 1 := by
      rw [Char.utf8Size_eq_one_iff, UInt32.le_iff_toNat_le]
      exact Nat.le_of_lt_succ hc
    rw [List.utf8Encode_cons, List.utf8Encode_singleton, String.utf8EncodeChar_eq_singleton hsize,
      ih hrest, ← List.toByteArray_append]
    rfl

/-! ### Reading -/

/-- The bytes are listed from the place on that is reached, behind those listed before. -/
theorem toList_loop (b : ByteArray) (i : Nat) (r : List UInt8) :
    ByteArray.toList.loop b i r = r.reverse ++ b.data.toList.drop i := by
  fun_induction ByteArray.toList.loop b i r with
  | case1 i r h ih =>
    have hi : i < b.data.toList.length := by simpa using h
    have hget : b.get! i = b.data.toList[i] := by
      show b.data[i]! = _
      rw [getElem!_pos b.data i h]
      rfl
    rw [ih, List.drop_eq_getElem_cons hi, hget, List.reverse_cons, List.append_assoc]
    rfl
  | case2 i r h =>
    have hi : b.data.toList.length ≤ i := by simpa using h
    rw [List.drop_eq_nil_of_le hi, List.append_nil]

/-- Bytes that are made an array of are the bytes of the array. -/
theorem toList_toByteArray (l : List UInt8) : l.toByteArray.toList = l := by
  rw [ByteArray.toList, toList_loop, List.reverse_nil, List.nil_append, List.drop_zero,
    List.data_toByteArray]

/-- The bytes of a text of ASCII are read one by one. -/
theorem units8_of_isAscii {s : List Char} (h : IsAscii s) :
    Encoding.units8 none (s.map fun c ↦ c.val.toUInt8) = s.map some := by
  induction s with
  | nil => rfl
  | cons c rest ih =>
    obtain ⟨hc, hrest⟩ := isAscii_cons.1 h
    have hbyte : c.val.toUInt8.toNat = c.toNat := by
      show c.toNat % 256 = c.toNat
      exact Nat.mod_eq_of_lt (by omega)
    have hlead : Encoding.lead? c.val.toUInt8 = some ⟨c.toNat, 0, 0x80, 0xbf⟩ := by
      simp only [Encoding.lead?, hbyte, if_pos hc]
    have hchar : Encoding.char? c.toNat = some c := by
      have hvalid : c.toNat.isValidChar := c.valid
      rw [Encoding.char?, dif_pos hvalid]
      rfl
    rw [List.map_cons, Encoding.units8, hlead, List.map_cons, ← ih hrest]
    exact congrArg (· :: _) hchar

/-- If all are there, they are what there is. -/
theorem mapM_id_map_some {α : Type} (xs : List α) : (xs.map some).mapM id = some xs := by
  induction xs with
  | nil => rfl
  | cons x xs ih =>
    rw [List.map_cons, List.mapM_cons, ih]
    rfl

/-- What is written of a text of ASCII characters is read as that text. -/
theorem decode?_utf8 {s : String} (h : IsAscii s.toList) :
    Encoding.utf8.decode? s.toUTF8.toList = some s.toList := by
  have hbytes : s.toUTF8 = (s.toList.map fun c ↦ c.val.toUInt8).toByteArray := by
    have hs := toUTF8_of_isAscii h
    rwa [String.ofList_toList] at hs
  have hunits : Encoding.utf8.units s.toUTF8.toList = (s.toList.map Char.toNat).map some := by
    rw [hbytes, toList_toByteArray]
    simp only [Encoding.units, Encoding.chars]
    rw [units8_of_isAscii h]
    simp [Function.comp_def]
  have hpoints : ofPoints (s.toList.map Char.toNat) = s.toList := by
    rw [← points_of_isAscii h, ofPoints_points]
  have hall : ((s.toList.map Char.toNat).map some).mapM id = some (s.toList.map Char.toNat) :=
    mapM_id_map_some (s.toList.map Char.toNat)
  rw [Encoding.decode?, hunits, hall, Option.map_some, hpoints]

end TreePath.Text
