import TreePath.Markup.Reference
import TreePath.Text.Blank

/-!
# Tokens of a page

A browser takes HTML apart in its own way: `token?` reads one token from the front of a text. How it
reads depends on where the text stands (`Scanning`): in ordinary text, or inside a tag whose
contents are raw and end only at its own end tag.

Every text has a list of tokens. A tag or an end tag that the text breaks off in is no token at all.

What a reader of tokens has read so far is not kept as a state that changes at each character. A
function reads a whole piece, a name, a value or a comment, off the front and hands back what is
left, so that each kind of token has its own few functions and nothing is shared between them but
references.
-/

namespace TreePath.Markup.Page

/-! ### What there is to read -/

/-- A start tag. -/
structure Tag where
  /-- The name, in small letters. -/
  name : String
  /-- The attributes, in order; of two with the same name the first counts. -/
  attributes : List (String × String)
  /-- Whether a slash closes the tag. -/
  closed : Bool
deriving DecidableEq, Repr

/-- A document type declaration. -/
structure Doctype where
  /-- The name, in small letters. -/
  name : String
  /-- The public identifier. -/
  publicId : Option String
  /-- The system identifier. -/
  systemId : Option String
  /-- Whether the declaration has the right form. -/
  correct : Bool
deriving DecidableEq, Repr

/-- A token of a page. -/
inductive Token where
  /-- A document type declaration. -/
  | doctype (d : Doctype)
  /-- A start tag. -/
  | start (t : Tag)
  /-- An end tag. -/
  | finish (name : String)
  /-- Character data of blanks only. -/
  | blank (s : List Char)
  /-- Character data. -/
  | text (s : List Char)
  /-- A comment. -/
  | comment (s : List Char)
  /-- The end of the text. -/
  | ending
deriving DecidableEq, Repr

/-- How the text is to be read. -/
inductive Scanning where
  /-- With tags and references. -/
  | ordinary
  /-- With references, up to the end tag of a name. -/
  | escapable (name : String)
  /-- As it stands, up to the end tag of a name. -/
  | raw (name : String)
  /-- As a script, up to its end tag. -/
  | script
  /-- As it stands, to the end. -/
  | plain
deriving DecidableEq, Repr

/-! ### Characters -/

/-- The blanks of a page. -/
def isSpace (c : Char) : Bool :=
  c == ' ' || c == '\t' || c == '\n' || c == '\x0c' || c == '\r'

/-- The text after its leading blanks. -/
def dropSpaces (s : List Char) : List Char :=
  s.dropWhile isSpace

/-- A character, where the replacement character stands for the null character. -/
def visible (c : Char) : Char :=
  if c == '\x00' then '\ufffd' else c

/-- Line ends are line feeds, whatever way they were written. -/
def normalizeLines : List Char → List Char
  | [] => []
  | '\r' :: '\n' :: rest => '\n' :: normalizeLines rest
  | '\r' :: rest => '\n' :: normalizeLines rest
  | c :: rest => c :: normalizeLines rest

/-- A name with its letters of ASCII made small. -/
def nameOf (s : List Char) : String :=
  String.ofList (s.map fun c ↦ (visible c).toLower)

/-- The text up to a character, and the text after it; all of the text, if it does not occur. -/
def upTo (stop : Char) (s : List Char) : List Char × List Char :=
  (s.takeWhile (· != stop), (s.dropWhile (· != stop)).drop 1)

/-- The text after a word in small letters, if it starts with the word in any letters. -/
def afterWord? (word : String) (s : List Char) : Option (List Char) :=
  if (s.take word.length).map Char.toLower == word.toList then some (s.drop word.length) else none

/-! ### References -/

/-- What a reference stands for, from after the ampersand, and the text after it. In an attribute, a
name without a semicolon is none if a letter, a digit or an equals sign follows it, and nothing is
read as a reference at the character that ends the value. -/
def reference (inAttribute : Option Char) (s : List Char) :
    Except MarkupError (List Char × List Char) :=
  match s with
  | [] => .ok (['&'], [])
  | '#' :: rest =>
    match Numeral.ofText? rest with
    | some (n, rest) => n.value.map fun value ↦ (textChars value, dropSemicolon rest)
    | none =>
      match rest with
      | c :: more =>
        .ok (if c == 'x' || c == 'X' then (['&', '#', c], more) else (['&', '#'], rest))
      | [] => .ok (['&', '#'], [])
  | c :: _ =>
    if isSpace c || c == '<' || c == '&' || inAttribute == some c then .ok (['&'], s)
    else
      match CharacterName.findLongest? s with
      | none => .ok (['&'], s)
      | some (e, closed) =>
        let rest := s.drop e.name.length
        let goesOn := rest.head?.any fun d ↦ isLetter d || isDigit d || d == '='
        if !closed && inAttribute.isSome && goesOn then .ok (['&'], s)
        else .ok (e.chars, if closed then rest.drop 1 else rest)

/-! ### Attributes -/

/-- The value of an attribute up to where it stops, and the text from there on; nothing if the text
ends before. -/
def value (stops : Char → Bool) (mark : Char) : Nat → List Char →
    Except MarkupError (Option (List Char × List Char))
  | 0, _ => .ok none
  | _ + 1, [] => .ok none
  | fuel + 1, c :: rest =>
    if stops c then .ok (some ([], c :: rest))
    else do
      let (chars, rest) ← if c == '&' then reference (some mark) rest else .ok ([visible c], rest)
      return (← value stops mark fuel rest).map fun r ↦ (chars ++ r.1, r.2)

/-- The value after an equals sign, and the text after it; nothing if the text ends before. -/
def assigned (s : List Char) : Except MarkupError (Option (List Char × List Char)) :=
  match dropSpaces s with
  | [] => .ok none
  | c :: rest =>
    if c == '"' || c == '\'' then do
      return (← value (· == c) c (rest.length + 1) rest).map fun r ↦ (r.1, r.2.drop 1)
    else if c == '>' then .ok (some ([], c :: rest))
    else value (fun d ↦ isSpace d || d == '>') '>' (rest.length + 2) (c :: rest)

/-- A character that may stand in the name of an attribute after the first. -/
def isAttributeChar (c : Char) : Bool :=
  !(isSpace c || c == '/' || c == '>' || c == '=')

/-- The inside of a tag, from after its name: the attributes, whether a slash closes the tag, and
the text after it; nothing if the text ends before. -/
def inside : Nat → List (String × String) → List Char →
    Except MarkupError (Option (List (String × String) × Bool × List Char))
  | 0, _, _ => .ok none
  | fuel + 1, found, s =>
    match dropSpaces s with
    | [] => .ok none
    | '>' :: rest => .ok (some (found, false, rest))
    | '/' :: '>' :: rest => .ok (some (found, true, rest))
    | '/' :: rest => inside fuel found rest
    | c :: more => do
      let name := nameOf (c :: more.takeWhile isAttributeChar)
      let rest := more.dropWhile isAttributeChar
      let r ← match dropSpaces rest with
        | '=' :: rest => assigned rest
        | rest => .ok (some ([], rest))
      match r with
      | none => return none
      | some (v, rest) =>
        let isNew := found.all fun a ↦ a.1 != name
        inside fuel (if isNew then found ++ [(name, String.ofList v)] else found) rest

/-- A character that may stand in the name of a tag. -/
def isTagChar (c : Char) : Bool :=
  !(isSpace c || c == '/' || c == '>')

/-- The name of a tag, its inside, and the text after it. -/
def tag (s : List Char) : Except MarkupError (Option Tag × List Char) := do
  let rest := s.dropWhile isTagChar
  match ← inside (rest.length + 1) [] rest with
  | some (found, closed, rest) =>
    return (some ⟨nameOf (s.takeWhile isTagChar), found, closed⟩, rest)
  | none => return (none, [])

/-! ### Comments -/

/-- Where the reading of a comment stands. -/
inductive CommentPlace where
  /-- At the beginning. -/
  | start
  /-- After a hyphen at the beginning. -/
  | startHyphen
  /-- Inside. -/
  | middle
  /-- After a hyphen. -/
  | hyphen
  /-- After two hyphens. -/
  | hyphens
  /-- After two hyphens and an exclamation mark. -/
  | mark
deriving DecidableEq, Repr

/-- A comment up to its end, and the text after it. -/
def commentFrom (place : CommentPlace) : List Char → List Char × List Char
  | [] => ([], [])
  | c :: rest =>
    let keep (held : List Char) (next : CommentPlace) (shown : List Char) : List Char × List Char :=
      let r := commentFrom next rest
      (held ++ shown ++ r.1, r.2)
    let closes := c == '>' && place != .middle && place != .hyphen
    if closes then ([], rest)
    else
      match place with
      | .start => if c == '-' then keep [] .startHyphen [] else keep [] .middle [visible c]
      | .startHyphen => if c == '-' then keep [] .hyphens [] else keep ['-'] .middle [visible c]
      | .middle => if c == '-' then keep [] .hyphen [] else keep [] .middle [visible c]
      | .hyphen => if c == '-' then keep [] .hyphens [] else keep ['-'] .middle [visible c]
      | .hyphens =>
        if c == '!' then keep [] .mark []
        else if c == '-' then keep [] .hyphens ['-']
        else keep ['-', '-'] .middle [visible c]
      | .mark =>
        if c == '-' then keep ['-', '-', '!'] .hyphen []
        else keep ['-', '-', '!'] .middle [visible c]

/-- What counts as a comment up to the next bracket, and the text after it. -/
def looseComment (s : List Char) : Token × List Char :=
  let r := upTo '>' s
  (.comment (r.1.map visible), r.2)

/-! ### Document types -/

/-- A quoted identifier, from after its quote, whether its quote ends it, and the text after it. A
bracket ends it too, and is left. -/
def identifier (mark : Char) (s : List Char) : String × Bool × List Char :=
  let stops (c : Char) : Bool := c == mark || c == '>'
  let rest := s.dropWhile fun c ↦ !stops c
  let found := String.ofList ((s.takeWhile fun c ↦ !stops c).map visible)
  if rest.head? == some mark then (found, true, rest.drop 1) else (found, false, rest)

/-- The end of a document type declaration: what is left up to its bracket is passed over. -/
def closeDoctype (d : Doctype) (s : List Char) : Token × List Char :=
  (.doctype d, (upTo '>' s).2)

/-- The system identifier of a declaration and its end. -/
def systemPart (d : Doctype) (s : List Char) : Token × List Char :=
  match dropSpaces s with
  | c :: rest =>
    if c == '"' || c == '\'' then
      let (found, whole, rest) := identifier c rest
      let d := { d with systemId := some found }
      let rest := dropSpaces rest
      closeDoctype { d with correct := d.correct && whole && !rest.isEmpty } rest
    else closeDoctype { d with correct := false } (c :: rest)
  | [] => (.doctype { d with correct := false }, [])

/-- The public identifier of a declaration and what follows it. -/
def publicPart (d : Doctype) (s : List Char) : Token × List Char :=
  match dropSpaces s with
  | c :: rest =>
    if c == '"' || c == '\'' then
      let (found, whole, rest) := identifier c rest
      let d := { d with publicId := some found, correct := d.correct && whole }
      let rest := dropSpaces rest
      if rest.head? == some '>' then closeDoctype d rest else systemPart d rest
    else closeDoctype { d with correct := false } (c :: rest)
  | [] => (.doctype { d with correct := false }, [])

/-- A document type declaration, from after its keyword, and the text after it. -/
def doctype (s : List Char) : Token × List Char :=
  let isNameChar (c : Char) : Bool := !(isSpace c || c == '>')
  let s := dropSpaces s
  let name := s.takeWhile isNameChar
  let rest := dropSpaces (s.drop name.length)
  let d : Doctype := ⟨nameOf name, none, none, !name.isEmpty⟩
  if rest.isEmpty then (.doctype { d with correct := false }, [])
  else if rest.head? == some '>' then closeDoctype d rest
  else
    match afterWord? "public" rest, afterWord? "system" rest with
    | some rest, _ => publicPart d rest
    | _, some rest => systemPart d rest
    | none, none => closeDoctype { d with correct := false } rest

/-! ### Declarations and tags -/

/-- The text up to the end of a section of character data, and the text after it. -/
def sectionData : List Char → List Char × List Char
  | [] => ([], [])
  | ']' :: ']' :: '>' :: rest => ([], rest)
  | c :: rest =>
    let r := sectionData rest
    (visible c :: r.1, r.2)

/-- What starts with `<!`, from after it, and the text after it. Sections of character data are
known only in vocabularies other than HTML. -/
def declaration (isForeign : Bool) (s : List Char) : Option Token × List Char :=
  match s with
  | '-' :: '-' :: rest =>
    let (data, rest) := commentFrom .start rest
    (some (.comment data), rest)
  | _ =>
    match afterWord? "doctype" s with
    | some rest =>
      let (t, rest) := doctype rest
      (some t, rest)
    | none =>
      let opener := "[CDATA[".toList
      if isForeign && opener.isPrefixOf s then
        let (data, rest) := sectionData (s.drop opener.length)
        (if data.isEmpty then none else some (.text data), rest)
      else
        let (t, rest) := looseComment s
        (some t, rest)

/-- What an opening bracket begins, from after it, and the text after it. -/
def bracket (isForeign : Bool) (s : List Char) : Except MarkupError (Option Token × List Char) :=
  match s with
  | '!' :: rest => .ok (declaration isForeign rest)
  | '/' :: rest =>
    match rest with
    | [] => .ok (some (.text ['<', '/']), [])
    | '>' :: rest => .ok (none, rest)
    | c :: _ =>
      if isLetter c then do
        let (t, rest) ← tag rest
        return (t.map fun t ↦ .finish t.name, rest)
      else
        let (t, rest) := looseComment rest
        .ok (some t, rest)
  | '>' :: rest => .ok (some (.text ['<', '>']), rest)
  | '?' :: _ =>
    let (t, rest) := looseComment s
    .ok (some t, rest)
  | c :: _ =>
    if isLetter c then do
      let (t, rest) ← tag s
      return (t.map .start, rest)
    else .ok (some (.text ['<']), s)
  | [] => .ok (some (.text ['<']), [])

/-! ### Raw contents -/

/-- The text from after the name of an end tag, if the end tag of a name starts here. -/
def endTagOf? (name : String) (s : List Char) : Option (List Char) :=
  match s with
  | '<' :: '/' :: rest =>
    (afterWord? name rest).filter fun rest ↦
      rest.head?.any fun c ↦ isSpace c || c == '/' || c == '>'
  | _ => none

/-- Where the reading of a script stands. In a comment the end tag of a script ends it, but not if a
script began in the comment. -/
inductive ScriptPlace where
  /-- In no comment. -/
  | outside
  /-- In a comment, after so many hyphens. -/
  | comment (hyphens : Nat)
  /-- In a script in a comment, after so many hyphens. -/
  | script (hyphens : Nat)
deriving DecidableEq, Repr

/-- The place after a character of a script, where no tag begins. -/
def ScriptPlace.next : ScriptPlace → Char → ScriptPlace
  | outside, _ => outside
  | comment n, c =>
    if c == '-' then comment (n + 1) else if c == '>' && 2 ≤ n then outside else comment 0
  | script n, c =>
    if c == '-' then script (n + 1) else if c == '>' && 2 ≤ n then outside else script 0

/-- The word after the bracket of a tag in a script, and what follows it, if it is a word of letters
that a blank, a slash or a bracket ends. -/
def scriptWord? (s : List Char) : Option (List Char × Char × List Char) :=
  match s.dropWhile isLetter with
  | c :: rest =>
    if isSpace c || c == '/' || c == '>' then some (s.takeWhile isLetter, c, rest) else none
  | [] => none

/-- The contents of a script up to its end tag, and the text from there on. -/
def scriptData (place : ScriptPlace) : Nat → List Char → List Char × List Char
  | 0, s => ([], s)
  | _ + 1, [] => ([], [])
  | fuel + 1, c :: rest =>
    let keep (s : List Char) (next : ScriptPlace) (rest : List Char) : List Char × List Char :=
      let r := scriptData next fuel rest
      (s.map visible ++ r.1, r.2)
    let step : List Char × List Char := keep [c] (place.next c) rest
    let isScript (word : List Char) : Bool := nameOf word == "script"
    match place with
    | .outside =>
      if (endTagOf? "script" (c :: rest)).isSome then ([], c :: rest)
      else
        match c, rest with
        | '<', '!' :: '-' :: '-' :: more => keep ['<', '!', '-', '-'] (.comment 2) more
        | _, _ => step
    | .comment _ =>
      if c != '<' then step
      else if (endTagOf? "script" (c :: rest)).isSome then ([], c :: rest)
      else
        match rest with
        | d :: _ =>
          if isLetter d then
            match scriptWord? rest with
            | some (word, e, more) =>
              keep ('<' :: word ++ [e]) (if isScript word then .script 0 else .comment 0) more
            | none =>
              let word := rest.takeWhile isLetter
              keep ('<' :: word) (.comment 0) (rest.drop word.length)
          else keep ['<'] (.comment 0) rest
        | [] => step
    | .script _ =>
      if c != '<' then step
      else
        match rest with
        | '/' :: more =>
          match scriptWord? more with
          | some (word, e, more) =>
            keep ('<' :: '/' :: word ++ [e]) (if isScript word then .comment 0 else .script 0) more
          | none =>
            let word := more.takeWhile isLetter
            keep ('<' :: '/' :: word) (.script 0) (more.drop word.length)
        | _ => keep ['<'] (.script 0) rest

/-- The contents of a raw tag up to its end tag, and the text from there on. -/
def rawData (name : String) : List Char → List Char × List Char
  | [] => ([], [])
  | c :: rest =>
    if (endTagOf? name (c :: rest)).isSome then ([], c :: rest)
    else
      let r := rawData name rest
      (visible c :: r.1, r.2)

/-! ### Tokens -/

/-- Character data, as blanks or as text. -/
def dataToken (s : List Char) : Token :=
  if s.all isSpace then .blank s else .text s

/-- A run of character data at the front of a text: of blanks, or up to a character that it cannot
hold, and the text after it. -/
def run (stops : Char → Bool) (s : List Char) : Token × List Char :=
  match s with
  | c :: rest =>
    if isSpace c then (.blank (s.takeWhile isSpace), s.dropWhile isSpace)
    else
      (.text (visible c :: rest.takeWhile fun d ↦ !stops d), rest.dropWhile fun d ↦ !stops d)
  | [] => (.ending, [])

/-- The end tag of raw contents, from its bracket on, and the text after it. -/
def closing (s : List Char) : Except MarkupError (Option Token × List Char) := do
  let (t, rest) ← tag (s.drop 2)
  return (t.map fun t ↦ .finish t.name, rest)

/-- Raw contents, or the end tag after them, and the text after it. -/
def rawToken (contents : List Char × List Char) :
    Except MarkupError (Option Token × List Char) :=
  let (data, rest) := contents
  if data.isEmpty then closing rest else .ok (some (.text data), rest)

/-- The token at the front of a text that is not empty, if it is one, and the text after it. -/
def token? (scanning : Scanning) (isForeign : Bool) (s : List Char) :
    Except MarkupError (Option Token × List Char) :=
  let present (r : Token × List Char) : Option Token × List Char := (some r.1, r.2)
  match scanning with
  | .plain => .ok (some (.text (s.map visible)), [])
  | .script => rawToken (scriptData .outside (s.length + 1) s)
  | .raw name => rawToken (rawData name s)
  | .escapable name =>
    if (endTagOf? name s).isSome then closing s
    else
      match s with
      | '&' :: rest => do
        let (chars, rest) ← reference none rest
        return (some (dataToken chars), rest)
      | '<' :: rest => .ok (some (.text ['<']), rest)
      | _ => .ok (present (run (fun c ↦ c == '&' || c == '<' || c == '\x00') s))
  | .ordinary =>
    match s with
    | '&' :: rest => do
      let (chars, rest) ← reference none rest
      return (some (dataToken chars), rest)
    | '<' :: rest => bracket isForeign rest
    | '\x00' :: rest => .ok (some (.text ['\x00']), rest)
    | _ => .ok (present (run (fun c ↦ c == '&' || c == '<' || c == '\x00') s))

end TreePath.Markup.Page
