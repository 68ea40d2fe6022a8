import TreePath.Markup.Page.Token
import TreePath.Markup.Page.Vocabulary
import TreePath.Markup.Source

/-!
# Pages under construction

A page is built from its tokens. Its elements are kept by number, each with its contents and with
the element that it stands in (`Page`), because building a page moves elements that are already in
their place. Besides the elements there are the stack of open elements and the list of formatting
elements, which are opened again wherever they were closed too early.

Number 0 is the document. An element is known by its number alone; two elements with the same name
and attributes are two.
-/

namespace TreePath.Markup.Page

/-! ### Elements -/

/-- What stands in an element. -/
inductive Item where
  /-- An element by number. -/
  | element (i : Nat)
  /-- Character data. -/
  | text (s : List Char)
  /-- A comment or a document type declaration. -/
  | string (kind : StringKind) (s : List Char)
deriving DecidableEq, Repr

/-- An element of a page. -/
structure Element where
  /-- The name. -/
  name : String
  /-- What it belongs to. -/
  vocabulary : Vocabulary
  /-- The attributes, in order. -/
  attributes : List (String × String)
  /-- What stands in it. -/
  contents : List Item
  /-- The element that it stands in. -/
  home : Option Nat
  /-- The element that it was last put into on its own. -/
  host : Option Nat
deriving Inhabited, Repr

/-- Whether an element is more than a run of text. -/
def Element.isSpecial (e : Element) : Bool :=
  Page.isSpecial e.vocabulary e.name

/-! ### Modes -/

/-- What is expected next. -/
inductive Mode where
  /-- The document type. -/
  | initial
  /-- The root element. -/
  | beforeHtml
  /-- The head. -/
  | beforeHead
  /-- Contents of the head. -/
  | inHead
  /-- Contents of the head for readers without scripts. -/
  | inHeadNoscript
  /-- The body. -/
  | afterHead
  /-- Contents of the body. -/
  | inBody
  /-- Raw contents. -/
  | raw
  /-- Parts of a table. -/
  | inTable
  /-- More character data in a table. -/
  | inTableText
  /-- Contents of a caption. -/
  | inCaption
  /-- Columns of a table. -/
  | inColumnGroup
  /-- Rows of a table. -/
  | inTableBody
  /-- Cells of a row. -/
  | inRow
  /-- Contents of a cell. -/
  | inCell
  /-- Options. -/
  | inSelect
  /-- Options, in a table. -/
  | inSelectInTable
  /-- The end of the root element. -/
  | afterBody
  /-- Frames. -/
  | inFrameset
  /-- The end of the root element, after frames. -/
  | afterFrameset
  /-- Nothing more. -/
  | afterAfterBody
  /-- Nothing more, after frames. -/
  | afterAfterFrameset
deriving DecidableEq, Repr

end Page

/-! ### Pages -/

open Page in
/-- A page under construction. -/
structure Page where
  /-- The elements, by number. -/
  elements : Array Element
  /-- The open elements, innermost first. -/
  stack : List Nat
  /-- The formatting elements, last first; nothing marks the begin of a part that is closed in
  itself. -/
  formatting : List (Option Nat)
  /-- What is expected next. -/
  mode : Mode
  /-- What was expected before raw contents. -/
  rawReturn : Mode
  /-- What was expected before character data in a table. -/
  textReturn : Mode
  /-- The character data in a table that has no place yet, last first. -/
  tableText : List (List Char)
  /-- The head. -/
  head : Nat
  /-- The form that is open. -/
  form : Option Nat
  /-- Whether what cannot stand in a table goes before it. -/
  foster : Bool
  /-- Whether tables may stand in paragraphs. -/
  tolerant : Bool
  /-- Whether frames may still take the place of the body. -/
  framesAllowed : Bool
  /-- Whether a line feed that comes next is dropped. -/
  dropsNewline : Bool
  /-- How the text is to be read. -/
  scanning : Scanning
  /-- The labels of encodings in it. -/
  labels : List (List Char)

namespace Page

/-- A page with nothing in it. -/
def empty : Page :=
  ⟨#[⟨"", .html, [], [], none, none⟩], [], [], .initial, .initial, .initial, [], 0, none, false,
    false, true, false, .ordinary, []⟩

/-- The element of a number. -/
def element (p : Page) (i : Nat) : Element :=
  p.elements.getD i default

/-- The name of the element of a number. -/
def nameAt (p : Page) (i : Nat) : String :=
  (p.element i).name

/-- The innermost open element; the document, if none is open. -/
def current (p : Page) : Nat :=
  p.stack.headD 0

/-- The name of the innermost open element. -/
def currentName (p : Page) : String :=
  p.nameAt p.current

/-- The root element. -/
def root (p : Page) : Nat :=
  p.stack.getLastD 0

/-- The second open element from the outside. -/
def second? (p : Page) : Option Nat :=
  p.stack.reverse[1]?

/-! ### Scopes -/

/-- What bounds a search among the open elements. -/
inductive Bound where
  /-- The usual bounds. -/
  | usual
  /-- The usual bounds and buttons. -/
  | button
  /-- The usual bounds and lists. -/
  | list
  /-- Tables. -/
  | table
  /-- Anything but options. -/
  | select
deriving DecidableEq, Repr

/-- Whether an element bounds a search. -/
def Bound.stops (b : Bound) (e : Element) : Bool :=
  let isHtml (names : List String) : Bool := e.vocabulary == .html && names.contains e.name
  match b with
  | usual => isScope e.vocabulary e.name
  | button => isScope e.vocabulary e.name || isHtml ["button"]
  | list => isScope e.vocabulary e.name || isHtml ["ol", "ul"]
  | table => isHtml ["html", "table"]
  | select => !isHtml ["optgroup", "option"]

/-- Whether a search among open elements finds one before a bound. -/
def reaches (b : Bound) (found : Nat → Element → Bool) (p : Page) : List Nat → Bool
  | [] => false
  | i :: rest =>
    let e := p.element i
    if found i e then true else if b.stops e then false else reaches b found p rest

/-- Whether an element of a name is open within a bound. -/
def inScope (p : Page) (b : Bound) (name : String) : Bool :=
  reaches b (fun _ e ↦ e.vocabulary == .html && e.name == name) p p.stack

/-- Whether an element is open within the usual bounds. -/
def isInScope (p : Page) (i : Nat) : Bool :=
  reaches .usual (fun j _ ↦ i == j) p p.stack

/-! ### The source tree -/

/-- The contents of an element as source trees. The argument that is not a page bounds the depth. -/
def sourcesOf (p : Page) : Nat → List Item → List Source
  | _, [] => []
  | depth, .text s :: rest => .string .text (String.ofList s) :: sourcesOf p depth rest
  | depth, .string kind s :: rest => .string kind (String.ofList s) :: sourcesOf p depth rest
  | 0, .element _ :: rest => sourcesOf p 0 rest
  | depth + 1, .element i :: rest =>
    let e := p.element i
    let attributes := TagAttributes.ofPairs (e.attributes.map fun a ↦ (a.1, .text a.2))
    .tag e.name attributes (sourcesOf p depth e.contents) :: sourcesOf p (depth + 1) rest
  termination_by depth items => (depth, items.length)

/-- The source trees of a page. -/
def sources (p : Page) : List Source :=
  p.sourcesOf p.elements.size (p.element 0).contents

end Page

end TreePath.Markup
