/-!
# Blank characters

Four notions of blank, which differ on real input and are therefore kept apart:

* `isBlank` — the white space of text: what a text loses in front when it is stripped;
* `isPadding` — the white space around a number, which has no separators of ASCII;
* `isBlankByte` — the white space of undecoded bytes;
* `isMarkupBlank` — the white space of markup, which has neither the vertical tab nor anything
  outside ASCII.

The first contains the other two of characters, and the core library's class of white space.
-/

namespace TreePath.Text

/-! ### The white space of text -/

/-- White space of text: the ASCII controls from tab to carriage return and from file separator to
unit separator, the space, next line, no-break space, and the separators of Unicode. -/
def isBlank (c : Char) : Bool :=
  let n := c.toNat
  (0x09 ≤ n && n ≤ 0x0d) || (0x1c ≤ n && n ≤ 0x20) || n == 0x85 || n == 0xa0 || n == 0x1680 ||
    (0x2000 ≤ n && n ≤ 0x200a) || n == 0x2028 || n == 0x2029 || n == 0x202f || n == 0x205f ||
    n == 0x3000

/-- A text of blanks only, the empty text included. -/
def allBlank (s : String) : Bool :=
  s.toList.all isBlank

/-- What is left of a text without its leading blanks. -/
def dropBlanks (s : List Char) : List Char :=
  s.dropWhile isBlank

/-! ### The white space around numbers -/

/-- White space around a number: that of text without file, group, record and unit separator. -/
def isPadding (c : Char) : Bool :=
  isBlank c && !(0x1c ≤ c.toNat && c.toNat ≤ 0x1f)

/-- What is left of a text without the padding on either side. -/
def stripPadding (s : List Char) : List Char :=
  ((s.dropWhile isPadding).reverse.dropWhile isPadding).reverse

/-! ### The white space of bytes -/

/-- White space of undecoded bytes: tab to carriage return, and the space. -/
def isBlankByte (b : UInt8) : Bool :=
  (0x09 ≤ b && b ≤ 0x0d) || b == 0x20

/-! ### The white space of markup -/

/-- White space of markup: space, tab, line feed, form feed and carriage return. -/
def isMarkupBlank (c : Char) : Bool :=
  c == ' ' || c == '\t' || c == '\n' || c == '\x0c' || c == '\r'

end TreePath.Text
