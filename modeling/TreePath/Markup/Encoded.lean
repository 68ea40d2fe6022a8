import TreePath.Markup.Xml.Charset
import TreePath.Text.Blank

/-!
# Encoded markup

Bytes of markup tell their encoding in several ways. A mark in front of them is one; it is not part
of the text (`splitMark`). A declaration inside them is another: XML declares its encoding in its
first line, HTML in a `meta` tag. To look for a declaration, each byte is taken for the character of
its number.

What is told may be wrong or missing, so several encodings are tried in turn (`candidates`): that of
the mark, the declared one, UTF-8, and that of Windows.

For HTML the first encoding is taken that can read all bytes, and if none can, the first that there
is, with replacement characters. XML is read by the first encoding that there is. Either way the
bytes have a text, so that no markup is refused for its encoding.
-/

namespace TreePath.Markup

open Text (Encoding)

namespace Encoded

/-! ### Marks -/

/-- The name of the encoding that a mark in front of bytes tells, and the bytes after the mark. -/
def splitMark : List UInt8 → Option String × List UInt8
  | 0x00 :: 0x00 :: 0xfe :: 0xff :: rest => (some "utf-32be", rest)
  | 0xff :: 0xfe :: 0x00 :: 0x00 :: rest => (some "utf-32le", rest)
  | 0xfe :: 0xff :: 0x00 :: 0x00 :: rest => (none, 0xfe :: 0xff :: 0x00 :: 0x00 :: rest)
  | 0xfe :: 0xff :: a :: b :: rest => (some "utf-16be", a :: b :: rest)
  | 0xff :: 0xfe :: a :: b :: rest => (some "utf-16le", a :: b :: rest)
  | 0xef :: 0xbb :: 0xbf :: rest => (some "utf-8", rest)
  | s => (none, s)

/-! ### Declarations -/

/-- Bytes as the characters of their numbers. -/
def plainChars (s : List UInt8) : List Char :=
  s.map fun b ↦ Char.ofNat b.toNat

/-- White space among bytes. -/
def isBlank (c : Char) : Bool :=
  Text.isBlankByte (UInt8.ofNat c.toNat) && c.toNat < 256

/-- The text after its leading blanks. -/
def dropBlanks (s : List Char) : List Char :=
  s.dropWhile isBlank

/-- The text after a word in small letters, if it starts with the word in any letters. -/
def afterWord? (word : String) (s : List Char) : Option (List Char) :=
  if (s.take word.length).map Char.toLower == word.toList then some (s.drop word.length) else none

/-- Whether a text has a closing mark of an instruction in it. -/
def hasInstructionEnd : List Char → Bool
  | '?' :: '>' :: _ => true
  | _ :: rest => hasInstructionEnd rest
  | [] => false

/-- A mark that a declared name may stand in. -/
def isQuote (c : Char) : Bool :=
  c == '"' || c == '\''

/-- The name in quotes at the front of a text, if an instruction ends after it. -/
def quotedName? (s : List Char) : Option (List Char) :=
  match s with
  | c :: rest =>
    match rest.dropWhile fun d ↦ !isQuote d with
    | _ :: more =>
      if isQuote c && hasInstructionEnd more then some (rest.takeWhile fun d ↦ !isQuote d) else none
    | [] => none
  | [] => none

/-- The last encoding that a line of an XML declaration names. -/
def lastNamed? : List Char → Option (List Char)
  | [] => none
  | c :: rest => (lastNamed? rest).or ((afterWord? "encoding=" (c :: rest)).bind quotedName?)

/-- The encoding that an XML declaration in front of a text names. -/
def xmlDeclared? (s : List Char) : Option (List Char) :=
  (afterWord? "<?" (dropBlanks s)).bind fun rest ↦ lastNamed? (rest.takeWhile (· != '\n'))

/-- A character that ends the name of an encoding in a tag. -/
def endsName (c : Char) : Bool :=
  c == ' ' || c == '/' || c == ';' || isQuote c

/-- The name after an equals sign in a tag. A name that nothing ends counts only as the empty name,
if a quote or a space is before it. -/
def charsetName? (isClosed : Bool) (s : List Char) : Option (List Char) :=
  let value := dropBlanks s
  let isQuoted := value.head?.any isQuote
  let value := if isQuoted then value.drop 1 else value
  let name := value.takeWhile fun c ↦ !endsName c
  if isClosed || name.length < value.length then some name
  else if isQuoted || (s.takeWhile isBlank).contains ' ' then some []
  else none

/-- The last encoding that the inside of a tag names. -/
def lastCharset? (isClosed : Bool) : List Char → Option (List Char)
  | [] => none
  | c :: rest =>
    let here : Option (List Char) :=
      match (afterWord? "charset" (c :: rest)).map dropBlanks with
      | some ('=' :: more) => charsetName? isClosed more
      | _ => none
    (lastCharset? isClosed rest).or here

/-- The encoding that the first `meta` tag with one names. -/
def htmlDeclared? : List Char → Option (List Char)
  | [] => none
  | c :: rest =>
    let here : Option (List Char) :=
      if c == '<' then
        (afterWord? "meta" (dropBlanks rest)).bind fun inside ↦
          lastCharset? (inside.contains '>') ((inside.takeWhile (· != '>')).drop 1)
      else none
    here.or (htmlDeclared? rest)

/-- The name of the encoding that bytes declare, in small letters. -/
def declared? (isHtml : Bool) (s : List UInt8) : Option String :=
  let size := max 2048 (s.length / 20)
  let found := (xmlDeclared? (plainChars (s.take 1024))).or
    (if isHtml then htmlDeclared? (plainChars (s.take size)) else none)
  found.bind fun name ↦
    if name.isEmpty then none else some (String.ofList (name.map Char.toLower))

/-! ### Decoding -/

/-- The names of the encodings to be tried for bytes, with the bytes that they are tried on. -/
def candidates (isHtml : Bool) (s : List UInt8) : List String × List UInt8 :=
  let (mark, s) := splitMark s
  (mark.toList ++ (declared? isHtml s).toList ++ ["utf-8", "windows-1252"], s)

/-- The encoding that a name in HTML means. A name may have hyphens to no purpose. -/
def htmlEncoding? (name : String) : Option Encoding :=
  if name == "x-sjis" then Encoding.ofName? "shift_jis"
  else (Encoding.ofName? name).or
    (Encoding.ofName? (String.ofList (name.toList.filter (· != '-'))))

/-- The text of bytes of HTML: by the first encoding that can read them, or else by the first that
there is, with replacement characters. Plain ASCII does not replace anything. -/
def htmlText (s : List UInt8) : List Char :=
  let (names, s) := candidates true s
  match (names.filterMap htmlEncoding?).findSome? fun e ↦ e.decode? s with
  | some text => text
  | none =>
    match (names.filter (· != "ascii")).findSome? htmlEncoding? with
    | some e => e.decodeLossy s
    | none => []

/-- The text of bytes of XML, by the first encoding that there is. -/
def xmlText (s : List UInt8) : List Char :=
  let (names, s) := candidates false s
  match names.findSome? Xml.Charset.ofName? with
  | some e => Xml.Charset.text e s
  | none => []

end Encoded

end TreePath.Markup
