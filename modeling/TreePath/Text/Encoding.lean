import TreePath.Text.CodePage
import TreePath.Text.CodePoint
import TreePath.Text.Escaped
import TreePath.Text.LowerCase
import TreePath.Text.Shifting
import TreePath.Text.Utf7

/-!
# Encodings

How bytes stand for characters: one byte each by a code page, one or several by a form of Unicode or
by an encoding of East Asia. Bytes that stand for nothing are kept apart by `Encoding.units`, which
gives one entry for each code point and one for each piece that cannot be read. Reading strictly
(`Encoding.decode?`) fails on such a piece, reading leniently (`Encoding.decodeLossy`) puts the
replacement character in its place.

All the readers of one kind share the type of their result, a list with nothing in place of each
piece that cannot be read. How long such a piece is decides how many replacement characters are
shown; in UTF-8 it ends where the bytes could not have gone on.

Encodings are found by name in any spelling of it (`Encoding.ofName?`): case does not count, what is
neither letter, digit nor dot is one separator, and a dot may be one.
-/

namespace TreePath.Text

/-- The order of the bytes of a number. -/
inductive ByteOrder where
  /-- The high byte first. -/
  | big
  /-- The low byte first. -/
  | little
deriving DecidableEq, Repr

/-- The number that bytes spell in an order. -/
def ByteOrder.number (o : ByteOrder) (bytes : List UInt8) : Nat :=
  let inOrder := match o with
    | big => bytes
    | little => bytes.reverse
  inOrder.foldl (fun n b ↦ 256 * n + b.toNat) 0

/-- A way in which bytes stand for characters. -/
inductive Encoding where
  /-- One byte for each character. -/
  | page (p : CodePage)
  /-- One to four bytes for each character. -/
  | utf8
  /-- One byte below 128 for each character, several for some. -/
  | utf7
  /-- Two or four bytes for each character; without an order, a mark in front tells it. -/
  | utf16 (order : Option ByteOrder)
  /-- Four bytes for each character; without an order, a mark in front tells it. -/
  | utf32 (order : Option ByteOrder)
  /-- One byte for each character of ASCII, mostly two for the others. -/
  | doubleByte (d : DoubleByte)
  /-- One byte or two, as was said in between. -/
  | shifting (e : Shifting)
  /-- One byte for each of the first 256 code points, an escape for any other; in the full form or
  the raw one. -/
  | escaped (isRaw : Bool)

namespace Encoding

/-! ### Characters -/

/-- The character with a number, if there is one. -/
def char? (n : Nat) : Option Char :=
  if h : n.isValidChar then some (Char.ofNatAux n h) else none

/-- What the first byte of a character asks for: the bits that it adds, how many bytes follow, and
the bounds of the second byte. -/
structure Lead where
  /-- The bits of the first byte. -/
  bits : Nat
  /-- How many bytes follow. -/
  more : Nat
  /-- The least second byte. -/
  low : Nat
  /-- The greatest second byte. -/
  high : Nat

/-- What a byte asks for as the first one of a character in UTF-8, if it can be that. -/
def lead? (b : UInt8) : Option Lead :=
  let n := b.toNat
  if n < 0x80 then some ⟨n, 0, 0x80, 0xbf⟩
  else if 0xc2 ≤ n && n ≤ 0xdf then some ⟨n - 0xc0, 1, 0x80, 0xbf⟩
  else if n == 0xe0 then some ⟨0, 2, 0xa0, 0xbf⟩
  else if n == 0xed then some ⟨0xd, 2, 0x80, 0x9f⟩
  else if 0xe1 ≤ n && n ≤ 0xef then some ⟨n - 0xe0, 2, 0x80, 0xbf⟩
  else if n == 0xf0 then some ⟨0, 3, 0x90, 0xbf⟩
  else if n == 0xf4 then some ⟨4, 3, 0x80, 0x8f⟩
  else if 0xf1 ≤ n && n ≤ 0xf3 then some ⟨n - 0xf0, 3, 0x80, 0xbf⟩
  else none

/-- The characters of UTF-8. While a character is under way, the argument says what it asks for. A
piece that cannot be read reaches as far as it could have begun a character. -/
def units8 : Option Lead → List UInt8 → List (Option Char)
  | none, [] => []
  | some _, [] => [none]
  | none, b :: rest =>
    match lead? b with
    | none => none :: units8 none rest
    | some ⟨bits, 0, _, _⟩ => char? bits :: units8 none rest
    | some l => units8 (some l) rest
  | some l, b :: rest =>
    if l.low ≤ b.toNat && b.toNat ≤ l.high then
      let bits := 64 * l.bits + (b.toNat - 0x80)
      if l.more ≤ 1 then char? bits :: units8 none rest
      else units8 (some ⟨bits, l.more - 1, 0x80, 0xbf⟩) rest
    else
      none ::
        match lead? b with
        | none => none :: units8 none rest
        | some ⟨bits, 0, _, _⟩ => char? bits :: units8 none rest
        | some l => units8 (some l) rest

/-- The characters of UTF-16. The argument that is not bytes is the first half of a character, if
one is under way. -/
def units16 (o : ByteOrder) : Option Nat → List UInt8 → List (Option Char)
  | none, [] => []
  | some _, [] => [none]
  | _, [_] => [none]
  | high, a :: b :: rest =>
    let n := o.number [a, b]
    let isHigh := 0xd800 ≤ n && n < 0xdc00
    let isLow := 0xdc00 ≤ n && n < 0xe000
    match high with
    | some h =>
      if isLow then char? (0x10000 + 0x400 * (h - 0xd800) + (n - 0xdc00)) :: units16 o none rest
      else if isHigh then none :: units16 o (some n) rest
      else none :: char? n :: units16 o none rest
    | none => if isHigh then units16 o (some n) rest else char? n :: units16 o none rest

/-- The characters of UTF-32. -/
def units32 (o : ByteOrder) : List UInt8 → List (Option Char)
  | [] => []
  | a :: b :: c :: d :: rest => char? (o.number [a, b, c, d]) :: units32 o rest
  | _ => [none]

/-- The characters of bytes in an encoding that has no room for halves of pairs; nothing for each
piece that cannot be read. -/
def chars : Encoding → List UInt8 → List (Option Char)
  | page p, s => s.map p.char?
  | utf8, s => units8 none s
  | utf16 (some o), s => units16 o none s
  | utf16 none, 0xff :: 0xfe :: rest => units16 .little none rest
  | utf16 none, 0xfe :: 0xff :: rest => units16 .big none rest
  | utf16 none, s => units16 .little none s
  | utf32 (some o), s => units32 o s
  | utf32 none, 0xff :: 0xfe :: 0x00 :: 0x00 :: rest => units32 .little rest
  | utf32 none, 0x00 :: 0x00 :: 0xfe :: 0xff :: rest => units32 .big rest
  | utf32 none, s => units32 .little s
  | doubleByte d, s => d.units s
  | shifting e, s => e.units s
  | utf7, _ => []
  | escaped _, _ => []

/-- The code points of bytes; nothing for each piece that cannot be read. -/
def units (e : Encoding) (s : List UInt8) : List (Option Nat) :=
  match e with
  | utf7 => Utf7.units none (s.map UInt8.toNat)
  | escaped isRaw => Escaped.units isRaw (s.map UInt8.toNat)
  | e => (e.chars s).map fun c ↦ c.map Char.toNat

/-- The text of bytes, if all of them can be read. -/
def decode? (e : Encoding) (s : List UInt8) : Option (List Char) :=
  ((e.units s).mapM id).map ofPoints

/-- The text of bytes, with the replacement character for each piece that cannot be read. -/
def decodeLossy (e : Encoding) (s : List UInt8) : List Char :=
  ofPoints ((e.units s).map fun n ↦ n.getD 0xfffd)

/-- Whether bytes are the beginning of a character in UTF-8 and no more. -/
def isBroken8 (s : List UInt8) : Bool :=
  (s.head?.bind lead?).any (fun l ↦ s.length ≤ l.more) && units8 none s == [none]

/-- Bytes without a character that they break off in. In UTF-16, only half of a unit is looked for.
-/
def whole : Encoding → List UInt8 → List UInt8
  | utf8, s =>
    match [1, 2, 3].find? fun k ↦ k ≤ s.length && isBroken8 (s.drop (s.length - k)) with
    | some k => s.take (s.length - k)
    | none => s
  | utf16 _, s => s.take (s.length / 2 * 2)
  | _, s => s

/-! ### Names -/

/-- The names of the forms of Unicode. -/
def unicodeNames : List (String × Encoding) := [
  ("utf_8", utf8), ("utf8", utf8), ("u8", utf8), ("utf", utf8), ("utf8_ucs2", utf8),
  ("utf8_ucs4", utf8), ("cp65001", utf8), ("utf_8_sig", utf8),
  ("utf_7", utf7), ("u7", utf7), ("utf7", utf7), ("unicode_1_1_utf_7", utf7),
  ("utf_16", utf16 none), ("utf16", utf16 none), ("u16", utf16 none),
  ("utf_16_le", utf16 (some .little)), ("utf_16le", utf16 (some .little)),
  ("unicodelittleunmarked", utf16 (some .little)), ("utf_16_be", utf16 (some .big)),
  ("utf_16be", utf16 (some .big)), ("unicodebigunmarked", utf16 (some .big)),
  ("utf_32", utf32 none), ("utf32", utf32 none), ("u32", utf32 none),
  ("utf_32_le", utf32 (some .little)), ("utf_32le", utf32 (some .little)),
  ("utf_32_be", utf32 (some .big)), ("utf_32be", utf32 (some .big)),
  ("unicode_escape", escaped false), ("raw_unicode_escape", escaped true)]

/-- Whether a character counts in the name of an encoding; all others merely separate. -/
def isNameChar (c : Char) : Bool :=
  c.isAlphanum || c == '.'

/-- The name of an encoding in its usual spelling: small letters, and one underscore for all that
stands between two words. -/
def spell (name : String) : String :=
  let words := (name.toList.map fun c ↦ if isNameChar c then c.toLower else ' ')
  "_".intercalate ((split ' ' (String.ofList words)).filter fun w ↦ !w.isEmpty)

/-- The encoding of a name in its usual spelling. -/
def ofSpelling? (name : String) : Option Encoding :=
  (unicodeNames.lookup name).or
    (((CodePage.ofName? name).map page).or
      (((DoubleByte.ofName? name).map doubleByte).or ((Shifting.ofName? name).map shifting)))

/-- The encoding of a name, however it is spelled. A dot may stand for an underscore. -/
def ofName? (name : String) : Option Encoding :=
  let spelled := spell name
  (ofSpelling? spelled).or
    (ofSpelling? (String.ofList (spelled.toList.map fun c ↦ if c == '.' then '_' else c)))

/-- Windows, western. -/
def windows : Encoding :=
  (ofName? "cp1252").getD utf8

end Encoding

end TreePath.Text
