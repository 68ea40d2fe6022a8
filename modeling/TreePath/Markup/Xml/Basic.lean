import TreePath.Markup.Reference

/-!
# The small parts of XML

Characters, names, references and attribute values. Each reader takes the front of a text and hands
back what is left of it.

Faults are passed over: a reference that names nothing stands for nothing, and the reading goes on
after it; an attribute value with a fault counts as missing.

A reader that finds nothing to read answers with nothing and takes nothing off the text, so that
another one can try. Which characters a name may have is decided by number (`nameRanges`), as the
standard lists them.
-/

namespace TreePath.Markup.Xml

/-! ### Characters -/

/-- Line ends are line feeds, whatever way they were written. -/
def normalizeLines : List Char → List Char
  | [] => []
  | '\r' :: '\n' :: rest => '\n' :: normalizeLines rest
  | '\r' :: rest => '\n' :: normalizeLines rest
  | c :: rest => c :: normalizeLines rest

/-- The blanks of XML. -/
def isSpace (c : Char) : Bool :=
  c == ' ' || c == '\t' || c == '\n' || c == '\r'

/-- The text after its leading blanks. -/
def dropSpace (s : List Char) : List Char :=
  s.dropWhile isSpace

/-- Whether the character with a number may stand in XML. -/
def isValidNumber (n : Nat) : Bool :=
  n == 9 || n == 10 || n == 13 || (0x20 ≤ n && n ≤ 0xd7ff) || (0xe000 ≤ n && n ≤ 0xfffd) ||
    (0x10000 ≤ n && n ≤ 0x10ffff)

/-- The text up to a delimiter, and the text after it. -/
def upTo? (delimiter : List Char) : List Char → Option (List Char × List Char)
  | [] => if delimiter.isEmpty then some ([], []) else none
  | c :: rest =>
    if delimiter.isPrefixOf (c :: rest) then some ([], (c :: rest).drop delimiter.length)
    else (upTo? delimiter rest).map fun r ↦ (c :: r.1, r.2)

/-- The text after a word that it starts with. -/
def after? (word s : List Char) : Option (List Char) :=
  if word.isPrefixOf s then some (s.drop word.length) else none

/-! ### Names -/

/-- The ranges of characters that may begin a name, apart from letters of ASCII. -/
def nameRanges : List (Nat × Nat) := [
  (0xc0, 0xd6), (0xd8, 0xf6), (0xf8, 0x2ff), (0x370, 0x37d), (0x37f, 0x1fff), (0x200c, 0x200d),
  (0x2070, 0x218f), (0x2c00, 0x2fef), (0x3001, 0xd7ff), (0xf900, 0xfdcf), (0xfdf0, 0xfffd),
  (0x10000, 0xeffff)]

/-- A character that may begin a name. -/
def beginsName (c : Char) : Bool :=
  isLetter c || c == '_' || c == ':' || nameRanges.any fun r ↦ r.1 ≤ c.toNat && c.toNat ≤ r.2

/-- A character that may stand in a name. -/
def isNameChar (c : Char) : Bool :=
  beginsName c || isDigit c || c == '-' || c == '.' || c.toNat == 0xb7 ||
    (0x300 ≤ c.toNat && c.toNat ≤ 0x36f) || c.toNat == 0x203f || c.toNat == 0x2040

/-- The name at the front of a text, and the text after it. -/
def name? (s : List Char) : Option (List Char × List Char) :=
  if s.head?.any beginsName then some (s.takeWhile isNameChar, s.dropWhile isNameChar) else none

/-- The part of a name before the first colon, if there is one, and the part after it. -/
def splitName (name : List Char) : Option String × String :=
  match name.dropWhile (· != ':') with
  | [] => (none, String.ofList name)
  | _ :: rest => (some (String.ofList (name.takeWhile (· != ':'))), String.ofList rest)

/-! ### References -/

/-- The character with a number, if there is one. A reference may name characters that may not
stand in XML themselves, but not the one with the number zero. -/
def numbered (n : Nat) : List Char :=
  if n.isValidChar && n != 0 then Text.ofChar (charOf n) else []

/-- What the digits of a numbered reference stand for, and the text after it. Digits that no
semicolon ends stand for nothing. -/
def numberedReference (base : Nat) (member : Char → Bool) (s : List Char) :
    List Char × List Char :=
  match s.dropWhile member with
  | ';' :: rest => (numbered (numberOf base (s.takeWhile member)), rest)
  | rest => ([], rest)

/-- What a reference stands for, from after the ampersand, and the text after it. -/
def reference (s : List Char) : List Char × List Char :=
  match s with
  | '#' :: 'x' :: rest => numberedReference 16 isHexDigit rest
  | '#' :: rest => numberedReference 10 isDigit rest
  | _ =>
    match name? s with
    | some (name, ';' :: rest) => ((xmlNames.lookup (String.ofList name)).toList, rest)
    | some (_, rest) => ([], rest)
    | none => ([], s)

/-! ### Attribute values -/

/-- The value up to a mark, and the text after the mark: references replaced, blanks made spaces. A
value with a bracket, with a character that XML does not have or with a number that stands for
nothing is missing, and reading goes on there. -/
def value (mark : Char) : Nat → List Char → Option (List Char) × List Char
  | 0, s => (none, s)
  | _ + 1, [] => (none, [])
  | fuel + 1, c :: rest =>
    if c == mark then (some [], rest)
    else if c == '<' || !isValidNumber c.toNat then (none, c :: rest)
    else
      let (chars, after) :=
        if c == '&' then reference rest else ([if isSpace c then ' ' else c], rest)
      if c == '&' && rest.head? == some '#' && chars.isEmpty then (none, after)
      else
        let (more, after) := value mark fuel after
        (more.map fun v ↦ chars ++ v, after)

/-- The value of an attribute, from after its name, and the text that is left. -/
def assigned (s : List Char) : Option (List Char) × List Char :=
  match dropSpace s with
  | '=' :: rest =>
    match dropSpace rest with
    | c :: inside =>
      if c == '"' || c == '\'' then value c (inside.length + 1) inside else (none, c :: inside)
    | [] => (none, [])
  | rest => (none, rest)

/-- A value whose spaces do not count: none at the ends, one between two words. -/
def squeeze (s : List Char) : List Char :=
  [' '].intercalate ((s.splitOn ' ').filter fun w ↦ !w.isEmpty)

end TreePath.Markup.Xml
