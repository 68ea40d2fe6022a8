import TreePath.Markup.Nesting
import TreePath.Markup.Xml.Doctype

/-!
# Reading XML

XML as a source tree. Names keep their case; the prefix of an element's name is dropped. The prefix
of an attribute's name is the one that its namespace was last declared with, and none if that was
the default; declarations of namespaces come after the other attributes. The XML declaration and the
blanks outside the root element leave nothing behind.

`Xml.items` reads one item after the other from the front of the text. Some faults are passed over:
an end tag closes the innermost element whatever its name, an attribute without a value is none, and
a start tag that does not end leaves its element open. Anything else outside the root element than
what may stand there ends the reading, as does a tag without a name.
-/

namespace TreePath.Markup.Xml

/-! ### The state of reading -/

/-- The namespaces that an element declares: each name with its prefix, nothing for the default. -/
abbrev Scope := List (String × Option String)

/-- The state of reading. -/
structure State where
  /-- The open tags and what was read. -/
  nesting : Nesting
  /-- The keys of the elements that an end tag may close, innermost first. -/
  names : List String
  /-- The namespaces in force, innermost first. -/
  scopes : List Scope
  /-- Whether the root element has begun. -/
  rooted : Bool
  /-- Whether a document type was declared. -/
  typed : Bool
  /-- The attributes that the document type declares. -/
  declared : List Declared

namespace State

/-- Nothing read yet. -/
def start : State :=
  ⟨.start [], [], [], false, false, []⟩

/-- Adds a string of a kind, on its own. -/
def addString (s : State) (kind : StringKind) (text : List Char) : State :=
  { s with nesting := s.nesting.addString kind text }

/-- Adds character data. -/
def addText (s : State) (text : List Char) : State :=
  { s with nesting := s.nesting.addText text }

/-- Closes the innermost element that an end tag may close. -/
def close (s : State) : State :=
  match s.names with
  | [] => s
  | key :: names =>
    { s with nesting := s.nesting.closeTag key, names := names, scopes := s.scopes.drop 1 }

end State

/-! ### Namespaces -/

/-- The namespace that the prefix `xml` always has. -/
def xmlNamespace : String := "http://www.w3.org/XML/1998/namespace"

/-- The namespace of a prefix. -/
def namespaceOf? (scopes : List Scope) (tag : Option String) : Option String :=
  if tag == some "xml" then some xmlNamespace
  else (scopes.findSome? fun scope ↦ scope.find? fun e ↦ e.2 == tag).map Prod.fst

/-- The prefix that a namespace was last declared with. -/
def prefixOf? (scopes : List Scope) (name : String) : Option String :=
  match scopes.findSome? fun scope ↦ scope.reverse.find? fun e ↦ e.1 == name with
  | some e => e.2
  | none => if name == xmlNamespace then some "xml" else none

/-- The prefix that a name with a prefix is given. -/
def shownPrefix? (scopes : List Scope) (tag : Option String) : Option String :=
  tag.bind fun p ↦ (namespaceOf? scopes (some p)).bind (prefixOf? scopes)

/-- A name with its prefix in front. -/
def prefixed (tag : Option String) (name : String) : String :=
  match tag with
  | some p => p ++ ":" ++ name
  | none => name

/-! ### Tags -/

/-- An attribute as it is read: its name and its value. -/
abbrev RawAttribute := List Char × List Char

/-- The attributes of a tag, in order, and the text after them. Of two with the same name the first
counts. -/
def attributes (worded : List (List Char)) : Nat → List RawAttribute → List Char →
    List RawAttribute × List Char
  | 0, found, s => (found, s)
  | fuel + 1, found, s =>
    match name? (dropSpace s) with
    | none => (found, dropSpace s)
    | some (name, rest) =>
      let (v, rest) := assigned rest
      let v := if worded.contains name then v.map squeeze else v
      let found :=
        match v with
        | some v => if found.any fun a ↦ a.1 == name then found else found ++ [(name, v)]
        | none => found
      if rest.head?.any isSpace then attributes worded fuel found rest else (found, rest)

/-- The prefix that an attribute declares as a namespace, if it declares one; nothing for the
default. -/
def bound? (name : List Char) : Option (Option String) :=
  match splitName name with
  | (none, "xmlns") => some none
  | (some "xmlns", p) => some (some p)
  | _ => none

/-- The namespaces that attributes declare. -/
def scopeOf (found : List RawAttribute) : Scope :=
  found.filterMap fun a ↦
    match bound? a.1 with
    | some none => some (String.ofList a.2, none)
    | some (some p) =>
      if p == "xml" || p == "xmlns" || a.2.isEmpty then none else some (String.ofList a.2, some p)
    | none => none

/-- The namespaces that an element is in where its tag declares none: those of the document type,
apart from the prefixes that the tag itself declares. -/
def usualScope (declared : List Declared) (tagName : List Char) (scope : Scope) : Scope :=
  declared.filterMap fun d ↦
    if d.element != tagName then none
    else
      match bound? d.name, d.usual? with
      | some p, some v =>
        if p == some "xml" || p == some "xmlns" || scope.any (fun e ↦ e.2 == p) then none
        else some (String.ofList v, p)
      | _, _ => none

/-- The attributes of an element, declarations of namespaces last. -/
def arrange (scopes : List Scope) (scope : Scope) (found : List RawAttribute) : TagAttributes :=
  let plain := (found.filter fun a ↦ (bound? a.1).isNone).map fun a ↦
    let (tag, name) := splitName a.1
    (prefixed (shownPrefix? scopes tag) name, Literal.text (String.ofList a.2))
  .ofPairs
    (plain ++ scope.map fun e ↦ (prefixed (e.2.map fun _ ↦ "xmlns") (e.2.getD "xmlns"), .text e.1))

/-- Opens an element. -/
def openElement (s : State) (tagName : List Char) (found : List RawAttribute) : State × String :=
  let written := scopeOf found
  let scope := written ++ usualScope s.declared tagName written
  let scopes := if scope.isEmpty && s.scopes.isEmpty then [] else scope :: s.scopes
  let (tag, name) := splitName tagName
  let key := prefixed (shownPrefix? scopes tag) name
  ({ s with
      nesting := s.nesting.openTag key name (arrange scopes scope found)
      scopes := scopes
      rooted := true }, key)

/-- A start tag, from after its bracket, and the text after it; no text if it has no name. -/
def startTag (s : State) (text : List Char) : State × Option (List Char) :=
  match name? text with
  | none => (s, none)
  | some (name, rest) =>
    let worded := (s.declared.filter fun d ↦ d.element == name && d.isWorded).map Declared.name
    let (found, rest) := attributes worded (rest.length + 1) [] rest
    let (opened, key) := openElement s name found
    let named := { opened with names := key :: opened.names }
    match rest with
    | '>' :: rest => (named, some rest)
    | '/' :: '>' :: rest => (named.close, some rest)
    | rest => (opened, some rest)

/-- An end tag, from after its slash, and the text after it. -/
def endTag (s : State) (text : List Char) : State × List Char :=
  let rest := dropSpace (((name? text).map Prod.snd).getD text)
  match rest with
  | '>' :: rest => (s.close, rest)
  | rest => (s.close, rest)

/-! ### Items -/

/-- The document type declaration, from after its keyword, and the text after it. -/
def doctype (s : State) (text : List Char) : State × Option (List Char) :=
  let (shown, rest) := doctypeHead text
  let s := { s.addString .doctype shown with typed := true }
  match rest with
  | '[' :: inside =>
    let (d, rest) := subset (inside.length + 1) ⟨[], []⟩ inside
    let s := { s with declared := d.declared }
    let s := d.strings.reverse.foldl (fun s e ↦ s.addString e.1 e.2) s
    (s, rest.map fun r ↦ if r.head? == some '>' then r.drop 1 else r)
  | '>' :: rest => (s, some rest)
  | rest => (s, some rest)

/-- A comment or a processing instruction, from its bracket on, and the text after it; nothing if
neither begins there, and no text if it does not end. -/
def aside? (s : State) (text : List Char) : Option (State × Option (List Char)) :=
  match text with
  | '<' :: '!' :: '-' :: '-' :: rest =>
    match upTo? "-->".toList rest with
    | some (inside, rest) => some (s.addString .comment inside, some rest)
    | none => some (s, none)
  | '<' :: '?' :: rest =>
    match upTo? "?>".toList rest with
    | some (inside, rest) => some (s.addString .xmlInstruction (instructionText inside), some rest)
    | none => some (s, none)
  | _ => none

/-- An item outside the root element, and the text after it. -/
def outside (s : State) (text : List Char) : State × Option (List Char) :=
  match aside? s text with
  | some r => r
  | none =>
    if s.rooted then (s, none)
    else
      match (if s.typed then none else after? "<!DOCTYPE".toList text) with
      | some rest => doctype s rest
      | none =>
        match text with
        | '<' :: rest => startTag s rest
        | _ => (s, none)

/-- An item inside the root element, and the text after it. -/
def inside (s : State) (text : List Char) : State × Option (List Char) :=
  match aside? s text with
  | some r => r
  | none =>
    match after? "<![CDATA[".toList text with
    | some rest =>
      match upTo? "]]>".toList rest with
      | some (data, rest) => (s.addText data, some rest)
      | none => (s.addText rest, none)
    | none =>
      match text with
      | '<' :: '/' :: rest =>
        let (s, rest) := endTag s rest
        (s, some rest)
      | '<' :: rest => startTag s rest
      | '&' :: rest =>
        let (chars, rest) := reference rest
        (if chars.isEmpty then s else s.addText chars, some rest)
      | _ =>
        let isPlain (c : Char) : Bool := c != '<' && c != '&'
        let data := (text.takeWhile isPlain).filter fun c ↦ isValidNumber c.toNat
        (if data.isEmpty then s else s.addText data, some (text.dropWhile isPlain))

/-- Reads one item after the other. -/
def items : Nat → State → List Char → State
  | 0, s, _ => s
  | fuel + 1, s, text =>
    let text := if s.names.isEmpty then dropSpace text else text
    if text.isEmpty then s
    else
      match if s.names.isEmpty then outside s text else inside s text with
      | (s, some rest) => items fuel s rest
      | (s, none) => s

/-- The text after its XML declaration, if it starts with one. -/
def afterDeclared (s : List Char) : List Char :=
  match after? "<?xml".toList s with
  | some (c :: rest) => if isSpace c then (rest.dropWhile (· != '>')).drop 1 else s
  | _ => s

/-- The source tree of an XML text. -/
def read (s : List Char) : List Source :=
  let text := match s with
    | '\ufeff' :: rest => rest
    | _ => s
  let text := afterDeclared (normalizeLines text)
  (items (text.length + 1) .start text).nesting.finish

end TreePath.Markup.Xml
