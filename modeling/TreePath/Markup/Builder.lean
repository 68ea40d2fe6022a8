import TreePath.Markup.Assembly
import TreePath.Markup.Encoded
import TreePath.Markup.Html
import TreePath.Markup.Page.Reader
import TreePath.Markup.Xml

/-!
# Building documents from markup

A builder reads markup with one of three backends and assembles a document from what it reads. A
builder without a backend picks one by the first characters of the markup: an XML declaration means
XML, anything else HTML.

Markup comes as text or as bytes. The two are looked at with different notions of blank: text may
start with any white space before its declaration, bytes only with ASCII white space.

Only the first characters decide, and only five of them are compared: an instruction whose name
begins with the letters of the declaration counts as one, too. Whether the rest is XML is found out
by the reader.

A builder that is given something else than markup refuses it in the words of the step at which it
would have been looked at, which depends on whether there is a backend.
-/

namespace TreePath

/-! ### Backends -/

/-- A way of reading markup. -/
inductive Backend where
  /-- XML, names as written. -/
  | xml
  /-- HTML, structure as written. -/
  | lenient
  /-- HTML, the tree of a browser. -/
  | browser
deriving DecidableEq, Repr

namespace Backend

/-- The name of a backend. -/
def name : Backend → String
  | xml => "xml"
  | lenient => "html.parser"
  | browser => "html5lib"

/-- Every backend. -/
def all : List Backend := [xml, lenient, browser]

/-- The backend of a name. -/
def ofName? (s : String) : Option Backend :=
  all.find? fun b ↦ b.name == s

end Backend

/-! ### Markup -/

/-- Markup to be read. -/
inductive MarkupInput where
  /-- A text. -/
  | text (s : String)
  /-- The bytes of a text. -/
  | bytes (b : ByteArray)

namespace MarkupInput

/-- How an XML declaration starts. -/
def declarationStart : String := "<?xml"

/-- Whether markup starts with the characters of an XML declaration, after blanks. -/
def opensDeclaration : MarkupInput → Bool
  | text s => (Text.dropBlanks s.toList).take 5 == declarationStart.toList
  | bytes b => (b.toList.dropWhile Text.isBlankByte).take 5 == declarationStart.toUTF8.toList

/-- The backend that suits markup. -/
def detect (m : MarkupInput) : Backend :=
  if m.opensDeclaration then .xml else .lenient

/-- Whether markup is nothing but blanks. -/
def isBlank : MarkupInput → Bool
  | text s => Text.allBlank s
  | bytes b => b.toList.all Text.isBlankByte

/-- The characters of markup, where bytes are read in a given way. -/
def chars (read : List UInt8 → List Char) : MarkupInput → List Char
  | text s => s.toList
  | bytes b => read b.toList

end MarkupInput

/-- The source tree that a backend reads. -/
def Backend.read (m : MarkupInput) : Backend → Except MarkupError (List Source)
  | xml => .ok (Markup.Xml.read (m.chars Markup.Encoded.xmlText))
  | lenient => Markup.Html.read (m.chars Markup.Encoded.htmlText)
  | browser =>
    match m with
    | .text s => Markup.Page.read s.toList
    | .bytes b => Markup.Page.readBytes b.toList

/-! ### Builders -/

/-- A way of building documents. -/
structure Builder where
  /-- The backend, if it is fixed. -/
  backend : Option Backend
  /-- Whether texts of blanks only are kept. -/
  keepBlank : Bool
deriving DecidableEq, Repr

/-- Why a builder cannot be made, or a document cannot be built. -/
inductive BuilderError where
  /-- No backend is written like this. -/
  | unknownBackend (shown : String)
  /-- There is no markup. -/
  | noMarkup
  /-- A value of this class does not show what markup it is. -/
  | unreadable (typeName : String)
  /-- The value written like this is no markup. -/
  | notMarkup (shown : String)
  /-- The document cannot be assembled. -/
  | assembly (e : AssemblyError)
deriving DecidableEq, Repr

namespace BuilderError

/-- The class under which an error is raised. -/
def kindName : BuilderError → String
  | unknownBackend _ => "ValueError"
  | noMarkup => "TypeError"
  | unreadable _ => "AttributeError"
  | notMarkup _ => "TypeError"
  | assembly e => e.kindName

/-- The wording of an error. -/
def message : BuilderError → String
  | unknownBackend shown =>
    "Unknown parser backend " ++ shown ++ ", expected one of ('xml', 'html.parser', 'html5lib')"
  | noMarkup => "Cannot build a tree from None"
  | unreadable typeName => "'" ++ typeName ++ "' object has no attribute 'lstrip'"
  | notMarkup shown =>
    "Incoming markup is of an invalid type: " ++ shown ++
      ". Markup must be a string, a bytestring, or an open filehandle."
  | assembly e => e.message

end BuilderError

namespace Builder

/-- The builder with a backend named by a literal, where nothing leaves the choice to the markup. -/
def ofLiteral (backend : Literal) (keepBlank : Bool) : Except BuilderError Builder :=
  match backend with
  | .none => .ok ⟨none, keepBlank⟩
  | .text s =>
    match Backend.ofName? s with
    | some b => .ok ⟨some b, keepBlank⟩
    | none => .error (.unknownBackend backend.written)
  | v => .error (.unknownBackend v.written)

/-- The report that a builder is ready. -/
def ready (b : Builder) : Record :=
  .plain Assembly.source .debug
    ("TreeBuilder initialized (backend: " ++ (b.backend.map Backend.name).getD "auto" ++ ")")

/-- The problem of markup with nothing in it. -/
def emptyMarkup : String := "Empty markup provided"

/-- Assembles the document of a source tree. -/
def assemble (b : Builder) (sources : List Source) : Assembly NodeId :=
  Assembly.fromSources b.keepBlank sources

/-- Why a builder builds nothing from a literal other than a text. Without a backend, it looks at
the beginning of the markup first. -/
def refusal (b : Builder) (markup : Literal) : BuilderError :=
  match markup, b.backend with
  | .none, _ => .noMarkup
  | v, none => .unreadable v.typeName
  | v, some _ => .notMarkup v.written

/-- Builds the document of some markup. -/
def build (b : Builder) (m : MarkupInput) : Assembly NodeId := do
  let sources ← Assembly.ofExcept ((b.backend.getD m.detect).read m)
  let document ← b.assemble sources
  if m.isBlank then
    match (← get).forest.recordError document emptyMarkup with
    | .ok (f, r) => do
      modify fun w ↦ { w with forest := f }
      Assembly.report r
    | .error e => throw (.node e)
  return document

end Builder

end TreePath
