import Mathlib.Data.List.TakeWhile
import TreePath.Markup.Builder
import TreePath.Proofs.Text.Ascii

/-!
# Which markup is taken for XML

Markup is taken for XML by the five characters that it opens with after blanks, whatever follows
them (`MarkupInput.detect_text_eq_xml_iff`). An XML declaration goes on with a blank. So markup with
a declaration is taken for XML, but so is markup that opens with another instruction whose name only
begins like that of a declaration.

Bytes are looked at in the same way, but with fewer blanks. Of the bytes that spell a text in UTF-8
only those of ASCII characters matter (`Text.Spelt`): the first byte of anything else is neither a
blank nor part of the opening. So the bytes of a text are taken for XML if the text opens with the
five characters after blanks of ASCII (`MarkupInput.detect_bytes_eq_xml_iff`), and a text and its
bytes are told apart exactly by a blank before the opening that has more than one byte or is one of
the separators of ASCII.
-/

namespace TreePath

namespace Text

/-! ### Openings -/

/-- A text opens with a word after blanks of a class, and goes on with `rest`. -/
def OpensWith (blank : Char → Bool) (word rest s : List Char) : Prop :=
  ∃ before, s = before ++ (word ++ rest) ∧ ∀ c ∈ before, blank c = true

/-- If a word starts with no blank, it has to come right after the leading blanks. -/
theorem opensWith_cons_iff {blank : Char → Bool} {c : Char} (hc : blank c = false)
    {word rest s : List Char} :
    OpensWith blank (c :: word) rest s ↔ s.dropWhile blank = c :: word ++ rest := by
  constructor
  · rintro ⟨before, rfl, hbefore⟩
    rw [List.dropWhile_append_of_pos hbefore, List.cons_append,
      List.dropWhile_cons_of_neg (by simp [hc])]
  · intro h
    refine ⟨s.takeWhile blank, ?_, fun d hd ↦ List.mem_takeWhile_imp hd⟩
    rw [← h, List.takeWhile_append_dropWhile]

theorem exists_opensWith_iff {blank : Char → Bool} {c : Char} (hc : blank c = false)
    {word s : List Char} :
    (∃ rest, OpensWith blank (c :: word) rest s) ↔ c :: word <+: s.dropWhile blank := by
  simp only [opensWith_cons_iff hc]
  exact exists_congr fun rest ↦ eq_comm

/-- The blanks before a word are all the leading blanks. -/
theorem eq_takeWhile_of_opening {blank : Char → Bool} {c : Char} (hc : blank c = false)
    {before word rest s : List Char} (hs : s = before ++ (c :: word ++ rest))
    (hbefore : ∀ d ∈ before, blank d = true) : before = s.takeWhile blank := by
  rw [hs, List.takeWhile_append_of_pos hbefore, List.cons_append,
    List.takeWhile_cons_of_neg (by simp [hc]), List.append_nil]

/-! ### Bytes that spell a text -/

/-- Bytes spell a text as far as its ASCII characters go: each has its own byte, and where another
character comes first, a byte comes first that is no byte of an ASCII character but perhaps zero. -/
inductive Spelt : List Char → List UInt8 → Prop
  /-- Nothing is left. -/
  | nil : Spelt [] []
  /-- An ASCII character comes first. -/
  | ascii {c : Char} {s : List Char} {bs : List UInt8} (hc : c.toNat < 0x80) (h : Spelt s bs) :
    Spelt (c :: s) (UInt8.ofNat c.toNat :: bs)
  /-- Another character comes first. -/
  | other {c : Char} {s : List Char} {b : UInt8} {bs : List UInt8} (hc : 0x80 ≤ c.toNat)
    (hb : 0x80 ≤ b.toNat ∨ b = 0) : Spelt (c :: s) (b :: bs)

/-- The bytes of code points. -/
def pointBytes (ns : List Nat) : List UInt8 :=
  (ns.map Char.ofNat).flatMap String.utf8EncodeChar

/-- Bytes that a text can be spelled with spell its code points one by one. -/
theorem toList_of_utf8?_eq_ok {s : String} {b : ByteArray} (h : utf8? s = .ok b) :
    b.toList = pointBytes (points s.toList) := by
  simp only [utf8?] at h
  split at h
  · cases h
  · cases h
    rw [String.toUTF8_eq_toByteArray, String.toByteArray_ofList, List.utf8Encode,
      toList_toByteArray, pointBytes]

theorem utf8EncodeChar_of_lt {c : Char} (h : c.toNat < 0x80) :
    String.utf8EncodeChar c = [UInt8.ofNat c.toNat] := by
  have hc : c.val.toNat ≤ 127 := Nat.le_of_lt_succ h
  rw [String.utf8EncodeChar, if_pos hc]
  rfl

/-- The first byte of a character outside ASCII. -/
theorem exists_utf8EncodeChar_eq_cons {c : Char} (h : 0x80 ≤ c.toNat) :
    ∃ b bs, String.utf8EncodeChar c = b :: bs ∧ 0x80 ≤ b.toNat := by
  have hc : ¬ c.val.toNat ≤ 127 := Nat.not_le_of_lt h
  have hbyte {n : Nat} (hlow : 0x80 ≤ n) (hhigh : n < 256) : 0x80 ≤ (UInt8.ofNat n).toNat := by
    rwa [UInt8.toNat_ofNat_of_lt' hhigh]
  rw [String.utf8EncodeChar, if_neg hc]
  split
  · exact ⟨_, _, rfl, hbyte (by omega) (by omega)⟩
  split
  · exact ⟨_, _, rfl, hbyte (by omega) (by omega)⟩
  · exact ⟨_, _, rfl, hbyte (by omega) (by omega)⟩

/-- The first byte of a code point outside ASCII. What is no character is spelt as zero. -/
theorem exists_pointBytes_eq_cons {n : Nat} (hn : 0x80 ≤ n) (ns : List Nat) :
    ∃ b bs, pointBytes (n :: ns) = b :: bs ∧ (0x80 ≤ b.toNat ∨ b = 0) := by
  rw [pointBytes, List.map_cons, List.flatMap_cons]
  by_cases hvalid : n.isValidChar
  · have hlarge : 0x80 ≤ (Char.ofNat n).toNat := by rwa [toNat_ofNat hvalid]
    obtain ⟨b, bs, hbytes, hb⟩ := exists_utf8EncodeChar_eq_cons hlarge
    exact ⟨b, _, by rw [hbytes, List.cons_append], Or.inl hb⟩
  · have hzero : Char.ofNat n = '\x00' := by
      rw [Char.ofNat, dif_neg hvalid]
      rfl
    exact ⟨0, _, by rw [hzero]; rfl, Or.inr rfl⟩

/-- A character outside ASCII is read as itself or as a half, and neither is in ASCII. -/
theorem le_half?_getD {c : Char} (hc : 0x80 ≤ c.toNat) : 0x80 ≤ (half? c).getD c.toNat := by
  unfold half?
  split
  · next h =>
    simp only [isHalf, Bool.and_eq_true, decide_eq_true_eq] at h
    rw [Option.getD_some]
    omega
  · exact hc

theorem le_of_isMarked {c : Char} (h : isMarked c = true) : 0x80 ≤ c.toNat := by
  rcases Nat.lt_or_ge c.toNat 0x80 with hlow | hc
  · exact absurd (h.symm.trans (isMarked_of_lt hlow)) Bool.noConfusion
  · exact hc

/-- A text that starts with a character outside ASCII is read as starting with such a code point. -/
theorem exists_points_eq_cons {c : Char} (hc : 0x80 ≤ c.toNat) (s : List Char) :
    ∃ n ns, points (c :: s) = n :: ns ∧ 0x80 ≤ n := by
  have hstray : 0x80 ≤ stray := by decide
  rw [points, pointsFrom]
  split
  · -- the first character is a mark, and what it marks decides
    cases s with
    | nil => exact ⟨stray, [], rfl, hstray⟩
    | cons d s =>
      rw [pointsFrom]
      split
      · next h => exact ⟨d.toNat, _, rfl, le_of_isMarked h⟩
      · exact ⟨stray, _, rfl, hstray⟩
  · exact ⟨_, _, rfl, le_half?_getD hc⟩

theorem spelt_pointBytes (s : List Char) : Spelt s (pointBytes (points s)) := by
  induction s with
  | nil => exact .nil
  | cons c s ih =>
    rcases Nat.lt_or_ge c.toNat 0x80 with hc | hc
    · have hpoints := points_ofChar_append c s
      rw [ofChar, isMarked_of_lt hc, if_neg Bool.false_ne_true, List.singleton_append] at hpoints
      rw [hpoints, pointBytes, List.map_cons, List.flatMap_cons, Char.ofNat_toNat,
        utf8EncodeChar_of_lt hc]
      exact .ascii hc ih
    · obtain ⟨n, ns, hpoints, hn⟩ := exists_points_eq_cons hc s
      obtain ⟨b, bs, hbytes, hb⟩ := exists_pointBytes_eq_cons hn ns
      rw [hpoints, hbytes]
      exact .other hc hb

/-! ### Blanks of ASCII -/

theorem toNat_ofNat_of_ascii {n : Nat} (h : n < 0x80) : (UInt8.ofNat n).toNat = n :=
  UInt8.toNat_ofNat_of_lt' (Nat.lt_trans h (by decide))

/-- The blank bytes by their numbers. -/
theorem isBlankByte_iff {b : UInt8} :
    isBlankByte b = true ↔ 0x09 ≤ b.toNat ∧ b.toNat ≤ 0x0d ∨ b.toNat = 0x20 := by
  simp [isBlankByte, UInt8.le_iff_toNat_le, ← UInt8.toNat_inj]

theorem isBlank_encoded_iff {c : Char} :
    Markup.Encoded.isBlank c = true ↔ 0x09 ≤ c.toNat ∧ c.toNat ≤ 0x0d ∨ c.toNat = 0x20 := by
  rw [Markup.Encoded.isBlank, Bool.and_eq_true, isBlankByte_iff, decide_eq_true_eq,
    UInt8.toNat_ofNat']
  omega

/-- The blanks of ASCII are blanks of text. -/
theorem isBlank_of_encoded {c : Char} (h : Markup.Encoded.isBlank c = true) :
    isBlank c = true := by
  rw [isBlank_encoded_iff] at h
  simp only [isBlank, Bool.or_eq_true, Bool.and_eq_true, decide_eq_true_eq, beq_iff_eq]
  omega

namespace Spelt

variable {s : List Char} {bs : List UInt8} (h : Spelt s bs)

include h

/-- The leading blanks of ASCII are the leading bytes that are blanks. -/
theorem dropBlanks :
    Spelt (s.dropWhile Markup.Encoded.isBlank) (bs.dropWhile isBlankByte) := by
  induction h with
  | nil => exact .nil
  | @ascii c s bs hc h ih =>
    have hsame : isBlankByte (UInt8.ofNat c.toNat) = Markup.Encoded.isBlank c := by
      rw [Bool.eq_iff_iff, isBlankByte_iff, isBlank_encoded_iff, toNat_ofNat_of_ascii hc]
    rw [List.dropWhile_cons, List.dropWhile_cons, hsame]
    split
    · exact ih
    · exact .ascii hc h
  | @other c s b bs hc hb =>
    have hchar : ¬ Markup.Encoded.isBlank c = true := by
      rw [isBlank_encoded_iff]
      omega
    have hbyte : ¬ isBlankByte b = true := by
      rw [isBlankByte_iff]
      rcases hb with hb | rfl
      · omega
      · decide
    rw [List.dropWhile_cons_of_neg hchar, List.dropWhile_cons_of_neg hbyte]
    exact .other hc hb

/-- A text starts with a word of ASCII characters if its bytes start with theirs. -/
theorem prefix_iff {word : List Char} (hword : ∀ c ∈ word, 0 < c.toNat ∧ c.toNat < 0x80) :
    word <+: s ↔ word.map (fun c ↦ UInt8.ofNat c.toNat) <+: bs := by
  induction h generalizing word with
  | nil => simp
  | @ascii c s bs hc h ih =>
    cases word with
    | nil => simp
    | cons d word =>
      obtain ⟨hd, hword⟩ := List.forall_mem_cons.1 hword
      have hsame : UInt8.ofNat d.toNat = UInt8.ofNat c.toNat ↔ d = c := by
        rw [← UInt8.toNat_inj, toNat_ofNat_of_ascii hd.2, toNat_ofNat_of_ascii hc, Char.toNat_inj]
      rw [List.map_cons, List.cons_prefix_cons, List.cons_prefix_cons, hsame, ih hword]
  | @other c s b bs hc hb =>
    cases word with
    | nil => simp
    | cons d word =>
      obtain ⟨hd, -⟩ := List.forall_mem_cons.1 hword
      have hchar : d ≠ c := by
        rintro rfl
        omega
      have hbyte : UInt8.ofNat d.toNat ≠ b := by
        rintro rfl
        rw [← UInt8.toNat_inj, toNat_ofNat_of_ascii hd.2] at hb
        rcases hb with hb | hb
        · omega
        · exact absurd hb (Nat.ne_of_gt hd.1)
      simp [List.cons_prefix_cons, hchar, hbyte]

end Spelt

end Text

namespace MarkupInput

open Text (OpensWith)

/-! ### What is looked at -/

theorem toList_declarationStart : declarationStart.toList = '<' :: ['?', 'x', 'm', 'l'] := rfl

theorem toNat_of_mem_declarationStart :
    ∀ c ∈ declarationStart.toList, 0 < c.toNat ∧ c.toNat < 0x80 := by
  simp [toList_declarationStart]

theorem toList_toUTF8_declarationStart :
    declarationStart.toUTF8.toList =
      declarationStart.toList.map fun c ↦ UInt8.ofNat c.toNat := by
  decide +kernel

theorem detect_eq_xml_iff (m : MarkupInput) : m.detect = .xml ↔ m.opensDeclaration = true := by
  rw [detect]
  split
  · next h => simp [h]
  · next h => simp [h]

/-- A text is taken for XML if it opens with the five characters after blanks. -/
theorem detect_text_eq_xml_iff (s : String) :
    (text s).detect = .xml ↔
      ∃ rest, OpensWith Text.isBlank declarationStart.toList rest s.toList := by
  rw [detect_eq_xml_iff, opensDeclaration, beq_iff_eq, eq_comm, toList_declarationStart,
    Text.exists_opensWith_iff (by decide), List.prefix_iff_eq_take]
  rfl

/-- The bytes of a text are taken for XML if the text opens with the five characters after blanks
of ASCII. -/
theorem detect_bytes_eq_xml_iff {s : String} {b : ByteArray} (h : Text.utf8? s = .ok b) :
    (bytes b).detect = .xml ↔
      ∃ rest, OpensWith Markup.Encoded.isBlank declarationStart.toList rest s.toList := by
  have hspelt : Text.Spelt s.toList b.toList := by
    rw [Text.toList_of_utf8?_eq_ok h]
    exact Text.spelt_pointBytes s.toList
  have hprefix := hspelt.dropBlanks.prefix_iff toNat_of_mem_declarationStart
  rw [detect_eq_xml_iff, opensDeclaration, beq_iff_eq, eq_comm, toList_toUTF8_declarationStart,
    toList_declarationStart, Text.exists_opensWith_iff (by decide), ← toList_declarationStart,
    hprefix, List.prefix_iff_eq_take]
  rfl

/-! ### Declarations -/

/-- A text opens with an XML declaration after blanks: the five characters and another blank. -/
def DeclaresXml (s : String) : Prop :=
  ∃ c rest, OpensWith Text.isBlank declarationStart.toList (c :: rest) s.toList ∧
    Text.isBlank c = true

/-- There are two answers, so two inputs are answered alike if both or neither is taken for XML. -/
theorem detect_eq_detect_iff (m m' : MarkupInput) :
    m.detect = m'.detect ↔ (m.detect = .xml ↔ m'.detect = .xml) := by
  unfold detect
  split <;> split <;> simp

/-- Markup that is taken for XML in its bytes is taken for XML as a text. -/
theorem detect_text_of_detect_bytes {s : String} {b : ByteArray} (h : Text.utf8? s = .ok b)
    (hbytes : (bytes b).detect = .xml) : (text s).detect = .xml := by
  obtain ⟨rest, before, hs, hbefore⟩ := (detect_bytes_eq_xml_iff h).1 hbytes
  exact (detect_text_eq_xml_iff s).2
    ⟨rest, before, hs, fun c hc ↦ Text.isBlank_of_encoded (hbefore c hc)⟩

/-- A text and its bytes are told apart by a blank before the opening that is none of ASCII. -/
theorem detect_text_ne_detect_bytes_iff {s : String} {b : ByteArray} (h : Text.utf8? s = .ok b) :
    (text s).detect ≠ (bytes b).detect ↔
      ∃ before rest, s.toList = before ++ (declarationStart.toList ++ rest) ∧
        (∀ c ∈ before, Text.isBlank c = true) ∧
        ∃ c ∈ before, Markup.Encoded.isBlank c = false := by
  constructor
  · intro hne
    have hbytes : (bytes b).detect ≠ .xml := fun hbytes ↦
      hne ((detect_text_of_detect_bytes h hbytes).trans hbytes.symm)
    have htext : (text s).detect = .xml := by
      by_contra htext
      exact hne ((detect_eq_detect_iff _ _).2 ⟨fun h ↦ absurd h htext, fun h ↦ absurd h hbytes⟩)
    obtain ⟨rest, before, hs, hbefore⟩ := (detect_text_eq_xml_iff s).1 htext
    refine ⟨before, rest, hs, hbefore, ?_⟩
    by_contra hall
    refine hbytes ((detect_bytes_eq_xml_iff h).2 ⟨rest, before, hs, fun c hc ↦ ?_⟩)
    by_contra hblank
    exact hall ⟨c, hc, Bool.eq_false_iff.2 hblank⟩
  · rintro ⟨before, rest, hs, hbefore, c, hc, hblank⟩ hsame
    have htext := (detect_text_eq_xml_iff s).2 ⟨rest, before, hs, hbefore⟩
    obtain ⟨rest', before', hs', hbefore'⟩ :=
      (detect_bytes_eq_xml_iff h).1 (hsame.symm.trans htext)
    -- both are all the blanks that the text starts with
    have hleading : before = before' :=
      (Text.eq_takeWhile_of_opening (by decide) hs hbefore).trans
        (Text.eq_takeWhile_of_opening (by decide) hs' fun d hd ↦
          Text.isBlank_of_encoded (hbefore' d hd)).symm
    rw [hbefore' c (hleading ▸ hc)] at hblank
    cases hblank

/-- **Markup is taken for XML by the five characters that it opens with.** A text is, if it opens
with a declaration after blanks, or with the five characters and something else than a blank after
them. Bytes that spell a text are, if the text opens with the five characters after blanks of ASCII.
So the two are told apart exactly if there is another blank before the five characters, and then the
bytes are not taken for XML. -/
theorem detects_by_opening {s : String} {b : ByteArray} (h : Text.utf8? s = .ok b) :
    ((text s).detect = .xml ↔
        DeclaresXml s ∨ ∃ rest, OpensWith Text.isBlank declarationStart.toList rest s.toList ∧
          ∀ c ∈ rest.head?, Text.isBlank c = false) ∧
      ((bytes b).detect = .xml ↔
        ∃ rest, OpensWith Markup.Encoded.isBlank declarationStart.toList rest s.toList) ∧
      ((text s).detect ≠ (bytes b).detect ↔
        ∃ before rest, s.toList = before ++ (declarationStart.toList ++ rest) ∧
          (∀ c ∈ before, Text.isBlank c = true) ∧
          ∃ c ∈ before, Markup.Encoded.isBlank c = false) := by
  refine ⟨?_, detect_bytes_eq_xml_iff h, detect_text_ne_detect_bytes_iff h⟩
  rw [detect_text_eq_xml_iff]
  constructor
  · rintro ⟨rest, hopens⟩
    by_cases hblank : ∃ c ∈ rest.head?, Text.isBlank c = true
    · obtain ⟨c, hc, hblank⟩ := hblank
      obtain ⟨more, rfl⟩ := List.head?_eq_some_iff.1 hc
      exact Or.inl ⟨c, more, hopens, hblank⟩
    · exact Or.inr ⟨rest, hopens, fun c hc ↦ Bool.eq_false_iff.2 fun hb ↦ hblank ⟨c, hc, hb⟩⟩
  · rintro (⟨c, rest, hopens, -⟩ | ⟨rest, hopens, -⟩)
    · exact ⟨c :: rest, hopens⟩
    · exact ⟨rest, hopens⟩

/-- A declaration after a no-break space. -/
def spacedDeclaration : String := "\u00a0<?xml ?>"

/-- The no-break space before a declaration is a blank of the text and no blank of its bytes. -/
theorem detects_by_opening_spaced :
    Text.utf8? spacedDeclaration = .ok spacedDeclaration.toUTF8 ∧
      (text spacedDeclaration).detect ≠ (bytes spacedDeclaration.toUTF8).detect := by
  have hwritten : Text.utf8? spacedDeclaration = .ok spacedDeclaration.toUTF8 := rfl
  obtain ⟨-, -, hdiffer⟩ := detects_by_opening hwritten
  exact ⟨hwritten, hdiffer.2
    ⟨['\u00a0'], " ?>".toList, rfl, List.forall_mem_singleton.2 (by decide), '\u00a0',
      List.mem_singleton_self _, by decide⟩⟩

/-- It is not so that a text is taken for XML exactly if it opens with a declaration, and like its
bytes: another instruction whose name begins with `xml` is, and the bytes of a declaration after a
no-break space are not. -/
theorem not_detected_by_declaration :
    (Text.utf8? "<?xml-stylesheet?>" = .ok "<?xml-stylesheet?>".toUTF8 ∧
        (text "<?xml-stylesheet?>").detect = .xml ∧ ¬ DeclaresXml "<?xml-stylesheet?>") ∧
      Text.utf8? spacedDeclaration = .ok spacedDeclaration.toUTF8 ∧
        DeclaresXml spacedDeclaration ∧ (text spacedDeclaration).detect = .xml ∧
          (bytes spacedDeclaration.toUTF8).detect = .lenient := by
  have hblank : ∀ c ∈ ['\u00a0'], Text.isBlank c = true := List.forall_mem_singleton.2 (by decide)
  refine ⟨⟨rfl, rfl, ?_⟩, rfl, ⟨' ', "?>".toList, ⟨['\u00a0'], rfl, hblank⟩, by decide⟩, rfl,
    by decide +kernel⟩
  rintro ⟨c, rest, hopens, hblank⟩
  rw [toList_declarationStart, Text.opensWith_cons_iff (by decide)] at hopens
  -- what follows the five characters is a hyphen
  have hhyphen : '-' :: "stylesheet?>".toList = c :: rest := by
    have hdropped : "<?xml-stylesheet?>".toList.dropWhile Text.isBlank =
        '<' :: ['?', 'x', 'm', 'l'] ++ '-' :: "stylesheet?>".toList := rfl
    exact List.append_cancel_left (hdropped.symm.trans hopens)
  rw [← (List.cons.inj hhyphen).1] at hblank
  exact absurd hblank (by decide)

end MarkupInput

end TreePath
