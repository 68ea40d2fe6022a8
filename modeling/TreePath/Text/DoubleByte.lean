import TreePath.Text.Grid.Chinese
import TreePath.Text.Grid.HongKong
import TreePath.Text.Grid.Japanese
import TreePath.Text.Grid.JapaneseExtended
import TreePath.Text.Grid.Korean
import TreePath.Text.Grid.Traditional

/-!
# Characters of two bytes

In the encodings of East Asia the bytes below 128 are those of ASCII, and a greater byte begins a
character of two bytes, sometimes more, whose bytes name a cell of a grid (`Grid`).

`DoubleByte.read` tells what stands at the front of bytes: a character, or bytes that cannot be
read. Of a character that does not exist only the first byte counts as unreadable, and a character
that the bytes break off in reaches to their end.
-/

namespace TreePath.Text

/-- What stands at the front of bytes. -/
inductive Piece where
  /-- A character, and how many bytes belong to it after the first. -/
  | char (c : Char) (more : Nat)
  /-- Several characters, and how many bytes belong to them after the first. -/
  | chars (cs : List Char) (more : Nat)
  /-- Bytes that cannot be read, and how many there are after the first. -/
  | broken (more : Nat)
deriving Repr

namespace Piece

/-- What stands in a cell, as a character with bytes after its first one. -/
def ofCell (c : Option Char) (more : Nat) : Piece :=
  match c with
  | some c => char c more
  | none => broken 0

/-- What stands in a cell that may hold several characters. -/
def ofCells (cs : Option (List Char)) (more : Nat) : Piece :=
  match cs with
  | some cs => chars cs more
  | none => broken 0

/-- The pieces of bytes, one after the other: their characters, or nothing. -/
def all (read : Nat → List Nat → Piece) : List Nat → List (Option Char)
  | [] => []
  | b :: rest =>
    match read b rest with
    | char c more => some c :: all read (rest.drop more)
    | chars cs more => cs.map some ++ all read (rest.drop more)
    | broken more => none :: all read (rest.drop more)
termination_by s => s.length
decreasing_by all_goals (simp only [List.length_drop, List.length_cons]; omega)

end Piece

/-- An encoding with characters of two bytes. -/
inductive DoubleByte where
  /-- Japanese: the usual set, moved together to leave room for syllables of one byte. -/
  | shiftJapanese
  /-- The same, with the Japanese set of one byte in the place of ASCII. -/
  | shiftRoman
  /-- The same with ASCII and the additions of Windows. -/
  | windowsJapanese
  /-- Japanese in the upper half of the bytes, with the supplementary set. -/
  | upperJapanese
  /-- Japanese of two planes, moved together, in its later edition or the first one. -/
  | shiftPlanes (isLate : Bool)
  /-- Japanese of two planes in the upper half of the bytes. -/
  | upperPlanes (isLate : Bool)
  /-- Simplified Chinese in the upper half of the bytes. -/
  | upperChinese
  /-- Simplified Chinese, extended. -/
  | extendedChinese
  /-- Simplified Chinese with all characters there are, some of four bytes. -/
  | nationalChinese
  /-- Traditional Chinese. -/
  | traditional
  /-- Traditional Chinese with the additions of Windows. -/
  | windowsTraditional
  /-- Traditional Chinese with the supplementary set of Hong Kong. -/
  | hongKong
  /-- Korean in the upper half of the bytes. -/
  | upperKorean
  /-- Korean with all syllables. -/
  | windowsKorean
  /-- Korean with all syllables, each by the bits of its parts. -/
  | composedKorean
deriving DecidableEq, Repr

namespace DoubleByte

/-! ### Cells -/

/-- The character of two bytes in the upper half, in a grid that counts from 33. -/
def upper? (g : Grid) (a b : Nat) : Option Char :=
  if 0xa1 ≤ a && 0xa1 ≤ b then g.char? (a - 0x80) (b - 0x80) else none

/-- The cell of two bytes in a grid that was moved together: each first byte stands for two
rows. -/
def shiftedCell? (a b : Nat) : Option (Nat × Nat) :=
  if b < 0x40 || b == 0x7f || 0xfc < b then none
  else
    let row := if a < 0xe0 then a - 0x81 else a - 0xc1
    let place := if b < 0x80 then b - 0x40 else b - 0x41
    some (2 * row + place / 94 + 0x21, place % 94 + 0x21)

/-- The character of two bytes in a grid that was moved together. -/
def shifted? (g : Grid) (a b : Nat) : Option Char :=
  (shiftedCell? a b).bind fun cell ↦ g.char? cell.1 cell.2

/-- A character of two bytes; the first byte is given. -/
def readCell (cell : Nat → Nat → Option Char) (a : Nat) : List Nat → Piece
  | [] => .broken 0
  | b :: _ => .ofCell (cell a b) 1

/-! ### Japanese -/

/-- The character of a byte in the Japanese set of one byte. -/
def romanChar (b : Nat) : Char :=
  if b == 0x5c then Char.ofNat 0xa5 else if b == 0x7e then Char.ofNat 0x203e else Char.ofNat b

/-- The syllable of a byte above the Japanese set of one byte. -/
def syllable? (b : Nat) : Option Char :=
  if 0xa1 ≤ b && b ≤ 0xdf then some (Char.ofNat (b + 0xfec0)) else none

/-- Whether a byte begins a character in a grid that was moved together. -/
def beginsShifted (b : Nat) : Bool :=
  (0x81 ≤ b && b ≤ 0x9f) || (0xe0 ≤ b && b ≤ 0xfc)

/-- What stands at the front of Japanese bytes that leave room for syllables. -/
def readShifted (a : Nat) (rest : List Nat) : Piece :=
  match syllable? a with
  | some c => .char c 0
  | none => if beginsShifted a then readCell (shifted? Grid.japanese) a rest else .broken 0

/-- The same with the additions of Windows. -/
def readWindowsShifted (a : Nat) (rest : List Nat) : Piece :=
  if a == 0x80 then .char (Char.ofNat 0x80) 0
  else if a == 0xa0 then .char (Char.ofNat 0xf8f0) 0
  else if 0xfd ≤ a then .char (Char.ofNat (0xf8f1 + (a - 0xfd))) 0
  else
    match syllable? a with
    | some c => .char c 0
    | none => readCell (shifted? Grid.windowsJapanese) a rest

/-- What stands at the front of Japanese bytes in the upper half. -/
def readUpperJapanese (a : Nat) (rest : List Nat) : Piece :=
  if a == 0x8e then readCell (fun _ b ↦ syllable? b) a rest
  else if a == 0x8f then
    match rest with
    | b :: c :: _ => .ofCell (upper? Grid.supplementaryJapanese b c) 2
    | _ => .broken rest.length
  else readCell (upper? Grid.japanese) a rest

/-! ### Japanese of two planes -/

/-- The row of the second plane that is moved to a row after those of the first. -/
def secondRow (row : Nat) : Nat :=
  if 0x88 ≤ row then row - 0x1a
  else if 0x84 ≤ row || row == 0x80 then row - 0x58
  else row - 0x5e

/-- What stands in a cell of the first plane. A cell that the edition does not have counts as a
whole. -/
def firstPlane (isLate : Bool) (row place : Nat) : Piece :=
  if !isLate && Grid.lateCells.contains (row, place) then .broken 1
  else .ofCells (Grid.planeChars? isLate row place) 1

/-- The character in a cell of the second plane. One of them was another in the first edition. -/
def secondPlane? (isLate : Bool) (row place : Nat) : Option Char :=
  if !isLate && row == 0x7d && place == 0x3b then some (Char.ofNat 0x9b1d)
  else Grid.secondJapanese.char? row place

/-- What stands in a cell of two planes that were moved together. -/
def shiftedPlanes (isLate : Bool) (row place : Nat) : Piece :=
  if 0x7f ≤ row then .ofCell (secondPlane? isLate (secondRow row) place) 1
  else if row == 0x21 && place == 0x40 then .char '\\' 1
  else firstPlane isLate row place

/-- What stands at the front of Japanese bytes of two planes that leave room for syllables. -/
def readShiftedPlanes (isLate : Bool) (a : Nat) (rest : List Nat) : Piece :=
  match syllable? a with
  | some c => .char c 0
  | none =>
    match rest.head?.bind (shiftedCell? a) with
    | some (row, place) => if beginsShifted a then shiftedPlanes isLate row place else .broken 0
    | none => .broken 0

/-- What stands at the front of Japanese bytes of two planes in the upper half. -/
def readUpperPlanes (isLate : Bool) (a : Nat) (rest : List Nat) : Piece :=
  if a == 0x8e then readCell (fun _ b ↦ syllable? b) a rest
  else if a == 0x8f then
    match rest with
    | b :: c :: _ =>
      if b < 0xa1 || c < 0xa1 then .broken 0
      else
        .ofCell ((secondPlane? isLate (b - 0x80) (c - 0x80)).or
          (upper? Grid.supplementaryJapanese b c)) 2
    | _ => .broken rest.length
  else
    match rest with
    | [] => .broken 0
    | b :: _ =>
      if a < 0xa1 || b < 0xa1 then .broken 0
      else if a == 0xa2 && b == 0xb2 then .char (Char.ofNat 0xff5e) 1
      else firstPlane isLate (a - 0x80) (b - 0x80)

/-! ### Chinese -/

/-- The character of four bytes, by the places of the bytes among those that may stand there. -/
def fourBytes? (a b c d : Nat) : Option Char :=
  let n := ((10 * a + b) * 126 + c) * 10 + d
  if a < 4 then Grid.fourByteChars[n]?
  else if 15 ≤ a then
    let n := n - 189000 + 0x10000
    if n ≤ 0x10ffff then some (Char.ofNat n) else none
  else none

/-- What stands at the front of Chinese bytes when there may be four of them. -/
def readNational (a : Nat) (rest : List Nat) : Piece :=
  match rest with
  | [] => .broken 0
  | b :: more =>
    if 0x30 ≤ b && b ≤ 0x39 then
      match more with
      | c :: d :: _ =>
        if 0x81 ≤ a && a ≤ 0xfe && 0x81 ≤ c && c ≤ 0xfe && 0x30 ≤ d && d ≤ 0x39 then
          .ofCell (fourBytes? (a - 0x81) (b - 0x30) (c - 0x81) (d - 0x30)) 3
        else .broken 0
      | _ => .broken rest.length
    else .ofCell (Grid.nationalChinese.char? a b) 1

/-- The character of two bytes in the set of Hong Kong, which has rows of signs of its own. -/
def hongKong? (a b : Nat) : Option Char :=
  if 0xc6 ≤ a && a ≤ 0xc8 && (0xc7 ≤ a || 0xa1 ≤ b) then Grid.hongKong.char? a b
  else (Grid.traditional.char? a b).or (Grid.hongKong.char? a b)

/-- What stands at the front of Chinese bytes of Hong Kong. -/
def readHongKong (a : Nat) (rest : List Nat) : Piece :=
  match rest.head?.bind fun b ↦ Grid.accentedCells.lookup (a, b) with
  | some cs => .chars cs 1
  | none => readCell hongKong? a rest

/-! ### Korean -/

/-- Which of the consonants that may begin a syllable the parts of syllables are, counted from 1;
zero for the others. -/
def initials : List Nat := [
  1, 2, 0, 3, 0, 0, 4, 5, 6, 0, 0, 0, 0, 0, 0, 0, 7, 8, 9, 0, 10, 11, 12, 13, 14, 15, 16, 17, 18,
  19]

/-- Which of the consonants that may end a syllable the parts of syllables are, counted from 1; zero
for the others. -/
def finals : List Nat := [
  1, 2, 3, 4, 5, 6, 7, 0, 8, 9, 10, 11, 12, 13, 14, 15, 16, 17, 0, 18, 19, 20, 21, 22, 0, 23, 24,
  25, 26, 27]

/-- The syllable of an initial consonant, a vowel and a final consonant or a filler, each by its
second byte. -/
def composed? (first vowel last : Nat) : Option Char :=
  let initial := if 0xa1 ≤ first then initials.getD (first - 0xa1) 0 else 0
  let final := if 0xa1 ≤ last then finals.getD (last - 0xa1) 0 else 0
  if initial == 0 || vowel < 0xbf || 0xd3 < vowel || (final == 0 && last != 0xd4) then none
  else some (Char.ofNat (0xac00 + 588 * (initial - 1) + 28 * (vowel - 0xbf) + final))

/-- What stands at the front of Korean bytes in the upper half. A filler is followed by the parts of
a syllable. -/
def readUpperKorean (a : Nat) (rest : List Nat) : Piece :=
  match a, rest with
  | 0xa4, 0xd4 :: more =>
    match more with
    | p :: first :: q :: vowel :: r :: last :: _ =>
      if p == 0xa4 && q == 0xa4 && r == 0xa4 then .ofCell (composed? first vowel last) 7
      else .broken 0
    | _ => .broken rest.length
  | _, _ => readCell (upper? Grid.korean) a rest

/-- The vowel that five bits stand for, counted from 1; zero for none. -/
def vowelOfBits (n : Nat) : Nat :=
  if 3 ≤ n && n ≤ 29 && 2 ≤ n % 8 then n - 2 - 2 * (n / 8) else 0

/-- The final consonant that five bits stand for, counted from 1; zero for none. -/
def finalOfBits (n : Nat) : Nat :=
  if n ≤ 1 || n == 0x12 || 0x1d < n then 0 else if n < 0x12 then n - 1 else n - 2

/-- The part of a syllable with a number in a list, as a character. -/
def partChar (numbers : List Nat) (n : Nat) : Char :=
  Char.ofNat (0x3131 + numbers.idxOf n)

/-- The syllable that five bits each for its initial consonant, its vowel and its final consonant
stand for, or a part of a syllable that stands alone. A filler takes the place of what is missing.
-/
def composedOfBits? (first vowel last : Nat) : Option Char :=
  let initial := if 2 ≤ first && first ≤ 20 then first - 1 else 0
  let medial := vowelOfBits vowel
  let final := finalOfBits last
  let isBad := (initial == 0 && first != 1) || (medial == 0 && vowel != 2) ||
    (final == 0 && last != 1)
  if isBad then none
  else
    match initial == 0, medial == 0, final == 0 with
    | true, true, true => some (Char.ofNat 0x3000)
    | true, true, false => some (partChar finals final)
    | true, false, true => some (Char.ofNat (0x314e + medial))
    | false, true, true => some (partChar initials initial)
    | false, false, _ =>
      some (Char.ofNat (0xac00 + 588 * (initial - 1) + 28 * (medial - 1) + final))
    | _, _, _ => none

/-- The character of two bytes that are no syllable: signs and characters for words, two rows to a
first byte. -/
def wordOrSign? (a b : Nat) : Option Char :=
  let isPart := a == 0xda && 0xa1 ≤ b && b ≤ 0xd3
  if a == 0xd8 || a == 0xdf || 0xf9 < a || isPart then none
  else if b < 0x31 || (0x80 ≤ b && b < 0x91) || b % 0x80 == 0x7f then none
  else
    let row := if a < 0xe0 then 2 * (a - 0xd9) else 2 * a - 0x197
    let place := if b < 0x91 then b - 0x31 else b - 0x43
    Grid.korean.char? (row + place / 94 + 0x21) (place % 94 + 0x21)

/-- What stands at the front of Korean bytes with the bits of syllables. -/
def readComposedKorean (a : Nat) (rest : List Nat) : Piece :=
  readCell (fun a b ↦
    if a < 0xd8 then composedOfBits? (a / 4 % 32) (a % 4 * 8 + b / 32) (b % 32)
    else wordOrSign? a b) a rest

/-! ### All of them -/

/-- Whether the bytes below 128 are the Japanese set of one byte. -/
def hasRoman : DoubleByte → Bool
  | shiftRoman => true
  | shiftPlanes _ => true
  | _ => false

/-- What stands at the front of bytes: of the first byte and those after it. -/
def read (d : DoubleByte) (a : Nat) (rest : List Nat) : Piece :=
  if a < 0x80 then .char (if d.hasRoman then romanChar a else Char.ofNat a) 0
  else
    match d with
    | shiftJapanese => readShifted a rest
    | shiftRoman => readShifted a rest
    | windowsJapanese => readWindowsShifted a rest
    | upperJapanese => readUpperJapanese a rest
    | shiftPlanes isLate => readShiftedPlanes isLate a rest
    | upperPlanes isLate => readUpperPlanes isLate a rest
    | upperChinese => readCell (upper? Grid.chinese) a rest
    | extendedChinese => readCell Grid.extendedChinese.char? a rest
    | nationalChinese => readNational a rest
    | traditional => readCell Grid.traditional.char? a rest
    | windowsTraditional => readCell Grid.windowsTraditional.char? a rest
    | hongKong => readHongKong a rest
    | upperKorean => readUpperKorean a rest
    | windowsKorean => readCell Grid.windowsKorean.char? a rest
    | composedKorean => readComposedKorean a rest

/-- The characters of bytes; nothing for each piece that cannot be read. -/
def units (d : DoubleByte) (s : List UInt8) : List (Option Char) :=
  Piece.all d.read (s.map UInt8.toNat)

/-- The encodings with their names, the usual one first. -/
def names : List (DoubleByte × List String) := [
  (shiftJapanese, ["shift_jis", "csshiftjis", "shiftjis", "sjis", "s_jis", "x_mac_japanese"]),
  (windowsJapanese, ["cp932", "932", "ms932", "mskanji", "ms_kanji", "windows_31j"]),
  (upperJapanese, ["euc_jp", "eucjp", "ujis", "u_jis"]),
  (shiftPlanes true, ["shift_jis_2004", "shiftjis2004", "sjis_2004", "s_jis_2004"]),
  (shiftPlanes false, ["shift_jisx0213", "shiftjisx0213", "sjisx0213", "s_jisx0213"]),
  (upperPlanes true, ["euc_jis_2004", "euc_jis2004", "eucjis2004", "jisx0213"]),
  (upperPlanes false, ["euc_jisx0213", "eucjisx0213"]),
  (upperChinese, ["gb2312", "chinese", "csiso58gb231280", "euc_cn", "euccn", "eucgb2312_cn",
    "gb2312_1980", "gb2312_80", "iso_ir_58", "x_mac_simp_chinese"]),
  (extendedChinese, ["gbk", "936", "cp936", "ms936"]),
  (nationalChinese, ["gb18030", "gb18030_2000"]),
  (traditional, ["big5", "big5_tw", "csbig5", "x_mac_trad_chinese"]),
  (windowsTraditional, ["cp950", "950", "ms950"]),
  (hongKong, ["big5hkscs", "big5_hkscs", "hkscs"]),
  (upperKorean, ["euc_kr", "euckr", "korean", "ksc5601", "ks_c_5601", "ks_c_5601_1987", "ksx1001",
    "ks_x_1001", "x_mac_korean"]),
  (windowsKorean, ["cp949", "949", "ms949", "uhc"]),
  (composedKorean, ["johab", "cp1361", "ms1361"])]

/-- The encoding of a name. -/
def ofName? (name : String) : Option DoubleByte :=
  (names.find? fun n ↦ n.2.contains name).map Prod.fst

end DoubleByte

end TreePath.Text
