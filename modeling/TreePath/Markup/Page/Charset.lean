import TreePath.Markup.Page.Token
import TreePath.Text.Encoding

/-!
# The encoding of a page

Pages go by labels of their own for encodings (`Charset.ofLabel?`): a label may stand for more than
its name says, so `latin1` is the western encoding of Windows.

The bytes of a page may begin with a mark. Otherwise the first of them are searched for a `meta` tag
with a label (`Charset.ofBytes?`), before any of them is read as text.

The search looks at bytes and knows as little of HTML as it needs: comments and other tags are
skipped, and the attributes of a `meta` tag are read in the simplest way there is. It may find a
label where a reader of the page would see none, and the page is read by it all the same.
-/

namespace TreePath.Markup.Page

open Text (Encoding)

/-- An encoding that a page can be in. -/
structure Charset where
  /-- The name. -/
  name : String
deriving DecidableEq, Repr

namespace Charset

/-! ### Labels -/

/-- The names of encodings with the labels that stand for them, blanks between them. -/
def labels : List (String × String) := [
  ("utf-8", "unicode-1-1-utf-8 utf-8 utf8"),
  ("utf-16be", "utf-16be"),
  ("utf-16le", "utf-16 utf-16le"),
  ("cp866", "866 cp866 csibm866 ibm866"),
  ("iso8859-2", "csisolatin2 iso-8859-2 iso-ir-101 iso8859-2 iso88592 iso_8859-2 " ++
    "iso_8859-2:1987 l2 latin2"),
  ("iso8859-3", "csisolatin3 iso-8859-3 iso-ir-109 iso8859-3 iso88593 iso_8859-3 " ++
    "iso_8859-3:1988 l3 latin3"),
  ("iso8859-4", "csisolatin4 iso-8859-4 iso-ir-110 iso8859-4 iso88594 iso_8859-4 " ++
    "iso_8859-4:1988 l4 latin4"),
  ("iso8859-5", "csisolatincyrillic cyrillic iso-8859-5 iso-ir-144 iso8859-5 iso88595 " ++
    "iso_8859-5 iso_8859-5:1988"),
  ("iso8859-6", "arabic asmo-708 csiso88596e csiso88596i csisolatinarabic ecma-114 iso-8859-6 " ++
    "iso-8859-6-e iso-8859-6-i iso-ir-127 iso8859-6 iso88596 iso_8859-6 iso_8859-6:1987"),
  ("iso8859-7", "csisolatingreek ecma-118 elot_928 greek greek8 iso-8859-7 iso-ir-126 " ++
    "iso8859-7 iso88597 iso_8859-7 iso_8859-7:1987 sun_eu_greek"),
  ("iso8859-8", "csiso88598e csisolatinhebrew hebrew iso-8859-8 iso-8859-8-e iso-ir-138 " ++
    "iso8859-8 iso88598 iso_8859-8 iso_8859-8:1988 visual csiso88598i iso-8859-8-i logical"),
  ("iso8859-10", "csisolatin6 iso-8859-10 iso-ir-157 iso8859-10 iso885910 l6 latin6"),
  ("iso8859-13", "iso-8859-13 iso8859-13 iso885913"),
  ("iso8859-14", "iso-8859-14 iso8859-14 iso885914"),
  ("iso8859-15", "csisolatin9 iso-8859-15 iso8859-15 iso885915 iso_8859-15 l9"),
  ("iso8859-16", "iso-8859-16"),
  ("koi8-r", "cskoi8r koi koi8 koi8-r koi8_r"),
  ("koi8-u", "koi8-u"),
  ("mac-roman", "csmacintosh mac macintosh x-mac-roman"),
  ("mac-cyrillic", "x-mac-cyrillic x-mac-ukrainian"),
  ("cp874", "dos-874 iso-8859-11 iso8859-11 iso885911 tis-620 windows-874"),
  ("cp1250", "cp1250 windows-1250 x-cp1250"),
  ("cp1251", "cp1251 windows-1251 x-cp1251"),
  ("cp1252", "ansi_x3.4-1968 ascii cp1252 cp819 csisolatin1 ibm819 iso-8859-1 iso-ir-100 " ++
    "iso8859-1 iso88591 iso_8859-1 iso_8859-1:1987 l1 latin1 us-ascii windows-1252 x-cp1252"),
  ("cp1253", "cp1253 windows-1253 x-cp1253"),
  ("cp1254", "cp1254 csisolatin5 iso-8859-9 iso-ir-148 iso8859-9 iso88599 iso_8859-9 " ++
    "iso_8859-9:1989 l5 latin5 windows-1254 x-cp1254"),
  ("cp1255", "cp1255 windows-1255 x-cp1255"),
  ("cp1256", "cp1256 windows-1256 x-cp1256"),
  ("cp1257", "cp1257 windows-1257 x-cp1257"),
  ("cp1258", "cp1258 windows-1258 x-cp1258"),
  ("gbk", "chinese csgb2312 csiso58gb231280 gb2312 gb_2312 gb_2312-80 gbk iso-ir-58 x-gbk"),
  ("gb18030", "gb18030"),
  ("hz", "hz-gb-2312"),
  ("big5", "big5 big5-hkscs cn-big5 csbig5 x-x-big5"),
  ("euc-jp", "cseucpkdfmtjapanese euc-jp x-euc-jp"),
  ("iso-2022-jp", "csiso2022jp iso-2022-jp"),
  ("shift_jis", "csshiftjis ms_kanji shift-jis shift_jis sjis windows-31j x-sjis"),
  ("euc-kr", "cseuckr csksc56011987 euc-kr iso-ir-149 korean ks_c_5601-1987 ks_c_5601-1989 " ++
    "ksc5601 ksc_5601 windows-949"),
  ("iso-2022-kr", "csiso2022kr iso-2022-kr"),
  ("x-user-defined", "x-user-defined")]

/-- The encoding of a label. -/
def ofLabel? (label : List Char) : Option Charset :=
  let inner := ((label.dropWhile isSpace).reverse.dropWhile isSpace).reverse
  let wanted := String.ofList (inner.map Char.toLower)
  (labels.find? fun l ↦ (Text.split ' ' l.2).contains wanted).map fun l ↦ ⟨l.1⟩

/-- The encoding of a page that tells none. -/
def usual : Charset := ⟨"cp1252"⟩

/-- Whether an encoding has at least two bytes for each character. A page that says so in a `meta`
tag is wrong, or the tag could not be read. -/
def isWide (c : Charset) : Bool :=
  c.name == "utf-16be" || c.name == "utf-16le"

/-- The code page that leaves the bytes above ASCII to the page itself, as private characters. -/
def userDefined : Text.CodePage :=
  let upper := (List.range 128).map fun n ↦ Char.ofNat (n + 0xf780)
  ⟨[], (((List.range 128).map Char.ofNat ++ upper).map some).toArray⟩

/-- How bytes stand for characters. -/
def encoding (c : Charset) : Encoding :=
  if c.name == "x-user-defined" then .page userDefined
  else (Encoding.ofName? c.name).getD Encoding.windows

/-- The text of bytes. A character of UTF-8 or UTF-16 that the bytes break off in is no part of it.
-/
def text (c : Charset) (s : List UInt8) : List Char :=
  c.encoding.decodeLossy (c.encoding.whole s)

/-! ### Labels in a text -/

/-- The text after the first place of a word in small letters, in any letters. -/
def afterFirst? (word : String) : List Char → Option (List Char)
  | [] => afterWord? word []
  | c :: rest => (afterWord? word (c :: rest)).or (afterFirst? word rest)

/-- The label in the value of an attribute that describes the contents of a page. -/
def labelIn? (s : List Char) : Option (List Char) :=
  match (afterFirst? "charset" s).map dropSpaces with
  | some ('=' :: rest) =>
    match dropSpaces rest with
    | [] => none
    | c :: more =>
      if c == '"' || c == '\'' then
        if more.contains c then some (more.takeWhile (· != c)) else none
      else some ((c :: more).takeWhile fun d ↦ !isSpace d)
  | _ => none

/-- The label that a `meta` tag gives. -/
def labelOf? (t : Tag) : Option (List Char) :=
  match t.attributes.lookup "charset" with
  | some label => some label.toList
  | none =>
    match t.attributes.lookup "content", t.attributes.lookup "http-equiv" with
    | some content, some kind =>
      if kind.toLower == "content-type" then labelIn? content.toList else none
    | _, _ => none

/-! ### Labels in bytes -/

/-- What stands at the front of the inside of a tag. -/
inductive Inside where
  /-- An attribute, its value, and the text after it. -/
  | attribute (name value rest : List Char)
  /-- The end of the tag, and the text from there on. -/
  | closed (rest : List Char)
  /-- Something that the text breaks off in. -/
  | broken

/-- The value of an attribute, from after its equals sign. -/
def assignedTo (name : List Char) (s : List Char) : Inside :=
  match dropSpaces s with
  | [] => .broken
  | c :: more =>
    if c == '"' || c == '\'' then
      match (more.dropWhile (· != c)).drop 1 with
      | [] => .broken
      | rest => .attribute name (more.takeWhile (· != c)) rest
    else if c == '>' then .attribute name [] (c :: more)
    else
      let goesOn (d : Char) : Bool := !(isSpace d || d == '<' || d == '>')
      match more.dropWhile goesOn with
      | [] => .broken
      | rest => .attribute name (c :: more.takeWhile goesOn) rest

/-- What stands at the front of the inside of a tag, after blanks and slashes. -/
def inside (s : List Char) : Inside :=
  match s.dropWhile fun c ↦ isSpace c || c == '/' with
  | [] => .broken
  | '>' :: rest => .closed rest
  | c :: more =>
    let name := c :: more.takeWhile isAttributeChar
    match more.dropWhile isAttributeChar with
    | [] => .broken
    | rest =>
      match dropSpaces rest with
      | [] => .broken
      | '=' :: rest => assignedTo name rest
      | _ => .attribute name [] rest

/-- The text after the attributes of a tag. -/
def skipAttributes : Nat → List Char → List Char
  | 0, _ => []
  | fuel + 1, s =>
    match inside s with
    | .attribute _ _ rest => skipAttributes fuel rest
    | .closed rest => rest
    | .broken => []

/-- The encoding that the attributes of a `meta` tag tell, or else the text after the tag. The
arguments besides the text say whether the tag describes contents, and what encoding its contents
tell. -/
def ofAttributes : Nat → Bool → Option Charset → List Char → Charset ⊕ List Char
  | 0, _, _, _ => .inr []
  | fuel + 1, describes, found, s =>
    match inside s with
    | .broken => .inr []
    | .closed rest => .inr rest
    | .attribute name value rest =>
      let lower (s : List Char) : String := String.ofList (s.map Char.toLower)
      match lower name with
      | "http-equiv" =>
        let describes := lower value == "content-type"
        match found with
        | some c => if describes then .inl c else ofAttributes fuel describes found rest
        | none => ofAttributes fuel describes none rest
      | "charset" =>
        match ofLabel? value with
        | some c => .inl c
        | none => ofAttributes fuel describes found rest
      | "content" =>
        match (labelIn? value).bind ofLabel? with
        | some c => if describes then .inl c else ofAttributes fuel describes (some c) rest
        | none => ofAttributes fuel describes found rest
      | _ => ofAttributes fuel describes found rest

/-- The encoding that the first fitting `meta` tag of a text tells. Comments are passed over, and so
are the attributes of other tags. -/
def search? : Nat → List Char → Option Charset
  | 0, _ => none
  | fuel + 1, s =>
    let afterTag (rest : List Char) : Option Charset :=
      match rest.dropWhile fun c ↦ !(isSpace c || c == '<' || c == '>') with
      | '<' :: more => search? fuel ('<' :: more)
      | rest => search? fuel (skipAttributes (rest.length + 1) rest)
    match (s.dropWhile (· != '<')).drop 1 with
    | [] => none
    | c :: rest =>
      match afterWord? "meta" (c :: rest) with
      | some [] => none
      | some (d :: more) =>
        if isSpace d then
          match ofAttributes (more.length + 1) false none more with
          | .inl c => some c
          | .inr rest => search? fuel rest
        else search? fuel more
      | none =>
        match c, rest with
        | '!', '-' :: '-' :: more => (afterFirst? "-->" more).bind (search? fuel)
        | '/', _ :: d :: _ =>
          if isLetter d then afterTag (rest.drop 1) else search? fuel (upTo '>' rest).2
        | '!', _ => search? fuel (upTo '>' rest).2
        | '?', _ => search? fuel (upTo '>' rest).2
        | _, _ => if isLetter c then afterTag rest else search? fuel rest

/-- The encoding that the first bytes of a page tell. -/
def ofBytes? (s : List UInt8) : Option Charset :=
  let chars := (s.take 1024).map fun b ↦ Char.ofNat b.toNat
  (search? (chars.length + 1) chars).map fun c ↦ if c.isWide then ⟨"utf-8"⟩ else c

/-- The encoding that a mark in front of bytes tells, and the bytes after it. -/
def ofMark? : List UInt8 → Option (Charset × List UInt8)
  | 0xef :: 0xbb :: 0xbf :: rest => some (⟨"utf-8"⟩, rest)
  | 0xff :: 0xfe :: 0x00 :: 0x00 :: _ => none
  | 0xff :: 0xfe :: rest => some (⟨"utf-16le"⟩, rest)
  | 0xfe :: 0xff :: rest => some (⟨"utf-16be"⟩, rest)
  | _ => none

end Charset

end TreePath.Markup.Page
