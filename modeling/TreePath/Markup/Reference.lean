import TreePath.Markup.CharacterName
import TreePath.Markup.Error
import TreePath.Text.CodePoint

/-!
# Character references

Markup names characters: by a number, in decimal or hexadecimal, or by a name. XML knows five names
by itself (`xmlNames`), HTML has a long table of them (`CharacterName`).

The numbers from 128 to 159 name controls that nobody means; in HTML they stand for the characters
that Windows has at those places. A number that no character has stands for the replacement
character. References in the value of an attribute follow rules of their own: a number of a control
or of a place that is no character stands for nothing, and a name may be cut short.
-/

namespace TreePath.Markup

/-! ### Characters by number -/

/-- The characters that Windows has from 128 to 159; nothing where it has none. -/
def windowsChars : List (Option Nat) := [
  some 0x20ac, none, some 0x201a, some 0x192, some 0x201e, some 0x2026, some 0x2020, some 0x2021,
  some 0x2c6, some 0x2030, some 0x160, some 0x2039, some 0x152, none, some 0x17d, none, none,
  some 0x2018, some 0x2019, some 0x201c, some 0x201d, some 0x2022, some 0x2013, some 0x2014,
  some 0x2dc, some 0x2122, some 0x161, some 0x203a, some 0x153, none, some 0x17e, some 0x178]

/-- The character with a number, or the replacement character if there is none. -/
def charOf (n : Nat) : Char :=
  if h : n.isValidChar then Char.ofNatAux n h else '\ufffd'

/-- The character with a number, where the numbers from 128 to 159 are those of Windows. -/
def windowsChar (n : Nat) : Char :=
  if 128 ≤ n && n < 160 then charOf ((windowsChars.getD (n - 128) none).getD n) else charOf n

/-- What a number stands for in the text of HTML. Zero counts as a number that no character has. -/
def textChars (n : Nat) : List Char :=
  if n == 0 then ['\ufffd'] else Text.ofChar (windowsChar n)

/-- Whether a number is that of a control character other than tab, line feed, form feed and
carriage return, or of a place that never is a character. -/
def isMeaningless (n : Nat) : Bool :=
  (1 ≤ n && n ≤ 8) || n == 0xb || (0xe ≤ n && n ≤ 0x1f) || n == 0x7f ||
    (0xfdd0 ≤ n && n ≤ 0xfdef) || (n < 0x110000 && 0xfffe ≤ n % 0x10000)

/-- What a number stands for in the value of an HTML attribute. -/
def attributeChar (n : Nat) : List Char :=
  if isMeaningless n then [] else textChars n

/-! ### Numbers -/

/-- An ASCII letter. -/
def isLetter (c : Char) : Bool :=
  ('a' ≤ c && c ≤ 'z') || ('A' ≤ c && c ≤ 'Z')

/-- An ASCII digit. -/
def isDigit (c : Char) : Bool :=
  '0' ≤ c && c ≤ '9'

/-- A hexadecimal digit. -/
def isHexDigit (c : Char) : Bool :=
  isDigit c || ('a' ≤ c && c ≤ 'f') || ('A' ≤ c && c ≤ 'F')

/-- The number that digits spell in a base. -/
def numberOf (base : Nat) (digits : List Char) : Nat :=
  digits.foldl (fun n c ↦ base * n + (Json.hexValue? c).getD 0) 0

/-- The digits of a numbered reference. -/
structure Numeral where
  /-- Whether the base is sixteen, not ten. -/
  isHex : Bool
  /-- The digits. -/
  digits : List Char
deriving DecidableEq, Repr

namespace Numeral

/-- The numeral at the front of a text, from after `&#`, and the text after its digits. -/
def ofText? (s : List Char) : Option (Numeral × List Char) :=
  match s with
  | x :: rest =>
    let isHex := x == 'x' || x == 'X'
    let s := if isHex then rest else s
    let member := if isHex then isHexDigit else isDigit
    let digits := s.takeWhile member
    if digits.isEmpty then none else some (⟨isHex, digits⟩, s.dropWhile member)
  | [] => none

/-- The number that a numeral spells. -/
def number (n : Numeral) : Nat :=
  numberOf (if n.isHex then 16 else 10) n.digits

/-- The number that a numeral spells, if it is short enough to be read. There is no bound on
hexadecimal digits. -/
def value (n : Numeral) : Except MarkupError Nat :=
  if !n.isHex && Decimal.digitLimit < n.digits.length then .error (.longNumber n.digits.length)
  else .ok n.number

end Numeral

/-- The text after a semicolon, if it starts with one. -/
def dropSemicolon : List Char → List Char
  | ';' :: rest => rest
  | rest => rest

/-! ### Names in XML -/

/-- The names that XML knows by itself. -/
def xmlNames : List (String × Char) :=
  [("amp", '&'), ("apos", '\''), ("gt", '>'), ("lt", '<'), ("quot", '"')]

/-! ### References in the attributes of HTML -/

/-- A character that may stand in the name of a reference in an attribute. -/
def isReferenceChar (c : Char) : Bool :=
  !(['\t', '\n', '\x0c', ' ', '<', '&', '#', ';'].contains c)

/-- What a word after an ampersand stands for: the word and whether a semicolon follows it. A whole
name counts first, then the longest name at its front that may stand alone. -/
def namedChars (word : List Char) (closed : Bool) : List Char :=
  let tail := if closed then [';'] else []
  match CharacterName.find? (String.ofList word) with
  | some e =>
    if closed || e.alone then e.chars
    else
      match CharacterName.findStart? word with
      | some short => short.chars ++ word.drop short.name.length
      | none => '&' :: word
  | none =>
    match CharacterName.findStart? word with
    | some short => short.chars ++ word.drop short.name.length ++ tail
    | none => '&' :: word ++ tail

/-- The value of an HTML attribute with its references replaced. -/
def attributeValue : Nat → List Char → Except MarkupError (List Char)
  | 0, _ => .ok []
  | _ + 1, [] => .ok []
  | fuel + 1, '&' :: '#' :: rest =>
    match Numeral.ofText? rest with
    | some (n, rest) => do
      let value ← n.value
      return attributeChar value ++ (← attributeValue fuel (dropSemicolon rest))
    | none => return '&' :: '#' :: (← attributeValue fuel rest)
  | fuel + 1, '&' :: rest => do
    let word := rest.takeWhile isReferenceChar
    let rest := rest.dropWhile isReferenceChar
    if word.isEmpty then return '&' :: (← attributeValue fuel rest)
    else
      return namedChars word (rest.head? == some ';') ++
        (← attributeValue fuel (dropSemicolon rest))
  | fuel + 1, c :: rest => return c :: (← attributeValue fuel rest)

end TreePath.Markup
