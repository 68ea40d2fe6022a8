import TreePath.Markup.Reference
import TreePath.Markup.Source
import TreePath.Text.Blank
import TreePath.Text.LowerCase

/-!
# Tokens of HTML

HTML is taken apart leniently: what looks like markup but is not is character data. Names of tags
and attributes are in small letters; an attribute without a value has the empty one; the contents of
`script` and `style` are character data up to their end tag, and are lost if there is none.

The text is read in two rounds (`HtmlToken.scan`). The first stops at anything that more text could
complete: a tag without an end, a reference at the very end. The second takes the rest for all there
is, and turns what is incomplete into character data. What not even the second round reads is
character data as it stands.

Each reader of a piece gives the text after it, and nothing if the piece does not end; whether that
makes it character data or waits for more text is decided in one place, by the round. The fuel is
the length of the text, since every construct takes a character at least.
-/

namespace TreePath.Markup

/-- A token of HTML. -/
inductive HtmlToken where
  /-- A start tag, with a flag for the slash that closes it at once. -/
  | start (name : String) (attributes : List (String × String)) (closed : Bool)
  /-- An end tag. -/
  | finish (name : String)
  /-- Character data. -/
  | text (chars : List Char)
  /-- A string of a kind of its own. -/
  | string (kind : StringKind) (chars : List Char)
deriving DecidableEq, Repr

namespace HtmlToken

/-! ### Pieces -/

/-- Characters in small letters, as a string. -/
def lower (s : List Char) : String :=
  String.ofList (Text.lower s)

/-- A character that may stand in the name of a tag. -/
def isTagChar (c : Char) : Bool :=
  !(c == '\t' || c == '\n' || c == '\r' || c == '\x0c' || c == ' ' || c == '/' || c == '>' ||
    c == '\x00')

/-- A mark that an attribute value may stand in. -/
def isQuote (c : Char) : Bool :=
  c == '"' || c == '\''

/-- The text up to a character, and the text after it, if it occurs. -/
def upTo? (stop : Char) (s : List Char) : Option (List Char × List Char) :=
  match s.dropWhile (· != stop) with
  | [] => none
  | _ :: rest => some (s.takeWhile (· != stop), rest)

/-- The part of a text that was read when the rest of it is left. -/
def readPart (s rest : List Char) : List Char :=
  s.take (s.length - rest.length)

/-- What closes a construct: characters with any blanks between them. At the front of a text it is
passed over. -/
def closing? : List Char → List Char → Option (List Char)
  | [], s => some s
  | c :: more, s =>
    match s with
    | d :: rest =>
      if c == d then closing? more (if more.isEmpty then rest else Text.dropBlanks rest)
      else none
    | [] => none

/-- The text up to what closes a construct, and the text after that. -/
def upToClosing? (closer : List Char → Option (List Char)) :
    List Char → Option (List Char × List Char)
  | [] => none
  | c :: rest =>
    match closer (c :: rest) with
    | some rest => some ([], rest)
    | none => (upToClosing? closer rest).map fun r ↦ (c :: r.1, r.2)

/-- The end of a comment, passed over: two hyphens, any blanks, and the bracket. -/
def commentEnd? : List Char → Option (List Char)
  | '-' :: rest => closing? ['-', '>'] rest
  | _ => none

/-! ### Attributes -/

/-- The text after blanks, and after slashes that do not close the tag. -/
def dropFiller : List Char → List Char
  | [] => []
  | c :: rest =>
    if Text.isBlank c then dropFiller rest
    else if c == '/' then
      match rest with
      | '>' :: _ => c :: rest
      | _ => dropFiller rest
    else c :: rest

/-- A value that does not stand in quotes, and the text after it. -/
def plainValue (s : List Char) : List Char × List Char :=
  let plain (c : Char) : Bool := c != '>' && !Text.isBlank c
  (s.takeWhile plain, s.dropWhile plain)

/-- The value of an attribute, if the text goes on with one, and the text after it. A value whose
quote does not end is empty if a blank is before the quote, and starts with the last of several
equals signs if there are several. -/
def value? (s : List Char) : Option (List Char × List Char) :=
  match Text.dropBlanks s with
  | '=' :: rest =>
    let body := Text.dropBlanks (rest.dropWhile (· == '='))
    match body with
    | q :: inside =>
      if isQuote q then
        match upTo? q inside with
        | some r => some r
        | none =>
          let gap := readPart (rest.dropWhile (· == '=')) body
          match gap.getLast? with
          | some blank => some ([], blank :: body)
          | none =>
            if rest.head? == some '=' then some (plainValue ('=' :: body))
            else none
      else some (plainValue body)
    | [] => some ([], [])
  | _ => none

/-- A character that may stand in the name of an attribute after the first. -/
def isAttributeChar (c : Char) : Bool :=
  !(Text.isBlank c || c == '/' || c == '=' || c == '>')

/-- Whether an attribute may begin after a character. -/
def opensAttribute (c : Char) : Bool :=
  isQuote c || Text.isBlank c || c == '/'

/-- The attributes of a tag, in order, and the text after them. The first argument that is not fuel
is what was read before. -/
def attributes : Nat → List Char → List Char →
    Except MarkupError (List (String × String) × List Char)
  | 0, _, s => .ok ([], s)
  | fuel + 1, before, s =>
    let rest := dropFiller s
    match rest with
    | [] => .ok ([], [])
    | c :: more =>
      let last := (before ++ readPart s rest).getLast?
      if c == '/' || c == '>' || !(last.elim true opensAttribute) then
        .ok ([], rest)
      else do
        let name := c :: more.takeWhile isAttributeChar
        let after := more.dropWhile isAttributeChar
        let (value, after) := (value? after).getD ([], after)
        let value ← attributeValue (value.length + 1) value
        let (found, left) ← attributes fuel (readPart rest after) after
        return ((lower name, String.ofList value) :: found, left)

/-! ### Constructs -/

/-- A construct that was read: its token, if it has one, and the text after it. -/
structure Construct where
  /-- The token. -/
  token : Option HtmlToken
  /-- The text after the construct. -/
  rest : List Char
deriving Repr

/-- The construct of a token. -/
def construct (token : HtmlToken) (rest : List Char) : Construct :=
  ⟨some token, rest⟩

/-- A start tag, from its bracket on; nothing if the tag does not end. Where something stands that
no tag has, all before it is character data. -/
def startTag? (s : List Char) : Except MarkupError (Option Construct) := do
  let inside := s.drop 1
  let tagName := inside.takeWhile isTagChar
  let (found, rest) ← attributes (s.length + 1) tagName (inside.dropWhile isTagChar)
  match rest with
  | [] => return none
  | '>' :: rest => return construct (start (lower tagName) found false) rest
  | '/' :: '>' :: rest => return construct (start (lower tagName) found true) rest
  | c :: _ =>
    if isLetter c || c == '=' || c == '/' then return none
    else return construct (text (readPart s rest)) rest

/-- A character that may stand in the name of a regular end tag after the first. -/
def isPlainTagChar (c : Char) : Bool :=
  isLetter c || isDigit c || c == '-' || c == '.' || c == ':' || c == '_'

/-- The name of a regular end tag, from after its slash: a name with nothing but blanks around it.
-/
def regularName? (s : List Char) : Option (List Char) :=
  let s := Text.dropBlanks s
  match s with
  | c :: _ =>
    let name := s.takeWhile isPlainTagChar
    let ends := (Text.dropBlanks (s.drop name.length)).head? == some '>'
    if isLetter c && ends then some name else none
  | [] => none

/-- An end tag, from its bracket on; nothing if it does not end. In character data only a regular
end tag counts. -/
def endTag? (raw : Bool) (s : List Char) : Option Construct :=
  let inside := s.drop 2
  (upTo? '>' inside).map fun (upTo, rest) ↦
    match regularName? inside with
    | some name => construct (finish (lower name)) rest
    | none =>
      if raw then construct (text (readPart s rest)) rest
      else
        match inside with
        | '>' :: _ => ⟨none, rest⟩
        | c :: _ =>
          if isLetter c then construct (finish (lower (upTo.takeWhile isTagChar))) rest
          else construct (string .comment upTo) rest
        | [] => ⟨none, rest⟩

/-- The keywords of marked sections that end at two brackets. -/
def sectionWords : List String := ["temp", "cdata", "ignore", "include", "rcdata"]

/-- The keywords of marked sections that end at one bracket. -/
def conditionWords : List String := ["if", "else", "endif"]

/-- A character that may stand in a keyword after the first. -/
def isKeywordChar (c : Char) : Bool :=
  isLetter c || isDigit c || c == '-' || c == '_' || c == '.'

/-- A marked section, from its bracket on; nothing if it does not end. -/
def markedSection? (s : List Char) : Except MarkupError (Option Construct) :=
  let inside := s.drop 3
  let word := inside.takeWhile isKeywordChar
  let rest := Text.dropBlanks (inside.drop word.length)
  match inside with
  | [] => .ok none
  | c :: _ =>
    if !isLetter c then .error (.noSectionName (String.ofList (s.take 20)))
    else if rest.isEmpty then .ok none
    else
      let close (closer : List Char) : Option Construct :=
        (upToClosing? (closing? closer) inside).map fun (data, rest) ↦
          if Text.lower (data.take 6) == "cdata[".toList then
            construct (string .text (data.drop 6)) rest
          else construct (string .declaration data) rest
      if sectionWords.contains (lower word) then .ok (close [']', ']', '>'])
      else if conditionWords.contains (lower word) then .ok (close [']', '>'])
      else .error (.unknownSection (String.ofList (readPart inside rest)))

/-- A declaration, from its bracket on: of the document type, or else a comment. -/
def declaration? (s : List Char) : Option Construct :=
  let inside := s.drop 2
  if lower (inside.take 7) == "doctype" then
    (upTo? '>' (inside.drop 7)).map fun (upTo, rest) ↦
      construct (string .doctype (upTo.drop 1)) rest
  else (upTo? '>' inside).map fun (upTo, rest) ↦ construct (string .comment upTo) rest

/-- Whether a construct begins at a bracket. -/
def beginsConstruct (s : List Char) : Bool :=
  match s with
  | _ :: c :: _ => isLetter c || c == '/' || c == '!' || c == '?'
  | _ => false

/-- The construct at a bracket; nothing if it does not end. -/
def construct? (s : List Char) : Except MarkupError (Option Construct) :=
  match s with
  | _ :: '/' :: _ => .ok (endTag? false s)
  | _ :: '!' :: '-' :: '-' :: inside =>
    .ok ((upToClosing? commentEnd? inside).map fun (data, rest) ↦
      construct (string .comment data) rest)
  | _ :: '?' :: inside =>
    .ok ((upTo? '>' inside).map fun (data, rest) ↦ construct (string .instruction data) rest)
  | _ :: '!' :: '[' :: _ => markedSection? s
  | _ :: '!' :: _ => .ok (declaration? s)
  | _ => startTag? s

/-- What counts as character data of a construct that does not end, from its bracket on, and the
text after it: all up to the next closing bracket, or else before the next opening one, or else the
bracket alone. -/
def brokenConstruct (s : List Char) : List Char × List Char :=
  let inside := s.drop 1
  match upTo? '>' inside with
  | some (_, rest) => (readPart s rest, rest)
  | none =>
    match inside.dropWhile (· != '<') with
    | [] => (s.take 1, inside)
    | rest => (readPart s rest, rest)

/-! ### Raw character data -/

/-- The tags whose contents are character data. -/
def rawTags : List String := ["script", "style"]

/-- Whether a character is a small letter, in either case and with the letters that share a capital
with it. -/
def isLetterOf (small c : Char) : Bool :=
  c.toLower == small || (small == 's' && c == 'ſ') || (small == 'i' && (c == 'ı' || c == 'İ'))

/-- Whether the end tag of a name starts here. -/
def startsEndTag (name : String) (s : List Char) : Bool :=
  match s with
  | '<' :: '/' :: rest =>
    let rest := Text.dropBlanks rest
    let size := name.length
    (rest.take size).length == size && ((name.toList.zip rest).all fun p ↦ isLetterOf p.1 p.2) &&
      (Text.dropBlanks (rest.drop size)).head? == some '>'
  | _ => false

/-- The character data up to the end tag of a name, and the text from there on. -/
def rawText? (name : String) : List Char → Option (List Char × List Char)
  | [] => none
  | c :: rest =>
    if startsEndTag name (c :: rest) then some ([], c :: rest)
    else (rawText? name rest).map fun r ↦ (c :: r.1, r.2)

/-! ### References -/

/-- A character of a name in a text after the first. -/
def isNameChar (c : Char) : Bool :=
  isLetter c || isDigit c || c == '-' || c == '.'

/-- The name of a reference, from after the ampersand, and the text after it. Some character must
end the name; at the end of the text the last hyphen or dot of the name does. -/
def referenceName? (s : List Char) : Option (List Char × List Char) :=
  let name := s.takeWhile isNameChar
  match s.head?.filter isLetter, s.dropWhile isNameChar with
  | none, _ => none
  | some _, c :: rest => some (name, c :: rest)
  | some _, [] =>
    match name.reverse.dropWhile fun c ↦ isLetter c || isDigit c with
    | [] => none
    | _ :: shorter => some (shorter.reverse, name.drop shorter.length)

/-- The numeral of a reference, from after `&#`, and the text after it. Some character that is no
hexadecimal digit must end it. -/
def referenceNumeral? (s : List Char) : Option (Numeral × List Char) :=
  match Numeral.ofText? s with
  | some (n, c :: rest) => if isHexDigit c then none else some (n, c :: rest)
  | _ => none

/-- What a name in a text stands for. A name that is not in the table stands for itself, without its
semicolon. -/
def textNamed (name : List Char) : List Char :=
  match CharacterName.find? (String.ofList name) with
  | some e => e.chars
  | none => '&' :: name

/-! ### The text as a whole -/

/-- How far a text has been taken apart. -/
structure Progress where
  /-- The tokens so far, last first. -/
  tokens : List HtmlToken
  /-- The tag whose contents are character data, if one is open. -/
  raw : Option String

namespace Progress

/-- Takes in a token. -/
def add (p : Progress) (t : HtmlToken) : Progress :=
  let raw :=
    match t with
    | start name _ closed => if rawTags.contains name && !closed then some name else none
    | finish _ => none
    | _ => p.raw
  ⟨t :: p.tokens, raw⟩

/-- Takes in character data, if there is any. -/
def addText (p : Progress) (s : List Char) : Progress :=
  if s.isEmpty then p else p.add (text s)

/-- Takes in a construct. -/
def addConstruct (p : Progress) (c : Construct) : Progress :=
  c.token.elim p p.add

end Progress

/-- One round of taking a text apart: the tokens, and the text that is left. -/
def scan (isLast : Bool) : Nat → Progress → List Char → Except MarkupError (Progress × List Char)
  | 0, p, s => .ok (p, s)
  | fuel + 1, p, s =>
    match p.raw with
    | some name =>
      match rawText? name s with
      | none => .ok (p, s)
      | some (data, rest) =>
        match endTag? true rest with
        | none => .ok (p, s)
        | some c => scan isLast fuel ((p.addText data).addConstruct c) c.rest
    | none =>
      let isPlain (c : Char) : Bool := c != '&' && c != '<'
      let p := p.addText (s.takeWhile isPlain)
      let s := s.dropWhile isPlain
      match s with
      | [] => .ok (p, [])
      | '&' :: '#' :: rest =>
        match referenceNumeral? rest with
        | some (n, rest') => do
          let value ← n.value
          scan isLast fuel (p.addText (textChars value)) (dropSemicolon rest')
        | none => .ok (if rest.contains ';' then (p.addText ['&', '#'], rest) else (p, s))
      | '&' :: rest =>
        match referenceName? rest with
        | some (name, rest') => scan isLast fuel (p.addText (textNamed name)) (dropSemicolon rest')
        | none =>
          match rest with
          | [] => .ok (p, s)
          | c :: more =>
            if isLetter c then .ok (p, if isLast && more.isEmpty then rest else s)
            else scan isLast fuel (p.addText ['&']) rest
      | _ :: rest =>
        if beginsConstruct s then do
          match ← construct? s with
          | some c => scan isLast fuel (p.addConstruct c) c.rest
          | none =>
            if isLast then
              let (data, rest) := brokenConstruct s
              scan isLast fuel (p.addText data) rest
            else return (p, s)
        else if rest.isEmpty then .ok (p, s)
        else scan isLast fuel (p.addText ['<']) rest

/-- The tokens of a text. -/
def ofText (s : List Char) : Except MarkupError (List HtmlToken) := do
  let (p, rest) ← scan false (s.length + 1) ⟨[], none⟩ s
  let (p, rest) ← scan true (rest.length + 1) p rest
  return (if p.raw.isNone then p.addText rest else p).tokens.reverse

end HtmlToken

end TreePath.Markup
