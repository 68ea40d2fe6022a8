import TreePath.Forest.Access
import TreePath.Markup.Error
import TreePath.Markup.Source

/-!
# Assembling documents

A document is assembled from a source tree: a tag becomes an element, a comment a comment, a string
a text unless it is dropped, and everything is appended to the node of the tag it stands in. Empty
strings are dropped, strings of blanks only if blanks are not kept; declarations and processing
instructions are skipped, and each skip is reported.

The assembly stops at the first tag that no element can be made of: one without a name, or one with
an attribute value that has no text. The name is looked at before the attributes, and a tag before
what is inside it. What was assembled until then is lost, since nobody was given the document.

The forest that a document is assembled in may have other nodes already, which stay as they are. The
elements are counted when the document is finished, by the search that callers have, and not while
tags are converted.
-/

namespace TreePath

/-- Whether a string becomes a text: it is not empty, and blanks alone count only if they are
kept. -/
def keepsText (keepBlank : Bool) (text : String) : Bool :=
  !text.isEmpty && (keepBlank || !Text.allBlank text)

/-! ### The assembly -/

/-- Why a document cannot be assembled. -/
inductive AssemblyError where
  /-- A node cannot be made. -/
  | node (e : NodeError)
  /-- The value of an attribute cannot be written. -/
  | unwritable (e : LiteralError)
  /-- A node cannot be put in its place. -/
  | edit (e : EditError)
  /-- The markup cannot be read. -/
  | markup (e : MarkupError)
deriving DecidableEq, Repr

namespace AssemblyError

/-- The class under which an error is raised. -/
def kindName : AssemblyError → String
  | node e => e.kindName
  | unwritable e => e.kindName
  | edit e => e.kindName
  | markup e => e.kindName

/-- The wording of an error. -/
def message : AssemblyError → String
  | node e => e.message
  | unwritable e => e.message
  | edit e => e.message
  | markup e => e.message

end AssemblyError

/-- A document under assembly, and what was reported on the way. -/
structure Workshop where
  /-- The nodes made so far. -/
  forest : Forest
  /-- The reports made so far. -/
  records : Array Record

instance : Inhabited Workshop := ⟨⟨.empty, #[]⟩⟩

/-- A computation that assembles a document. -/
abbrev Assembly := EStateM AssemblyError Workshop

namespace Assembly

/-- The logger that assemblies report to. -/
def source : String := "path_engine.parser.tree_builder"

/-- Reports something. -/
def report (r : Record) : Assembly Unit :=
  modify fun w ↦ { w with records := w.records.push r }

/-- Edits the forest. -/
def edit {α : Type} (e : Edit α) : Assembly α := fun w ↦
  match e w.forest with
  | .ok a f => .ok a { w with forest := f }
  | .error x f => .error (.edit x) { w with forest := f }

/-- What was read from markup, if it can be read. -/
def ofExcept {α : Type} : Except MarkupError α → Assembly α
  | .ok a => return a
  | .error e => throw (.markup e)

/-- The report of a string that is skipped, with its first fifty characters. -/
def skipRecord (kind : StringKind) (text : String) : Record :=
  .plain source .debug
    ("Skipping " ++ kind.className ++ ": " ++ String.ofList (text.toList.take 50))

/-- The report of a finished document. -/
def builtRecord (elements : Nat) : Record :=
  .plain source .debug ("Built document with " ++ toString elements ++ " element(s)")

/-- The attributes of a tag as texts, if every value has one. -/
def attributesOf (attributes : TagAttributes) : Except LiteralError Attributes :=
  (attributes.entries.mapM fun e ↦ (Source.attributeText e.2).map (e.1, ·)).map Attributes.ofPairs

/-- The element that a tag becomes. -/
def elementOf (name : String) (attributes : TagAttributes) : Except AssemblyError Content :=
  match Content.newElement (.text name) [] with
  | .error e => .error (.node e)
  | .ok _ =>
    match attributesOf attributes with
    | .error e => .error (.unwritable e)
    | .ok a => .ok (.element name a)

/-- Makes the element of a tag. -/
def makeElement (document : NodeId) (name : String) (attributes : TagAttributes) :
    Assembly NodeId := do
  match elementOf name attributes with
  | .ok c => edit (Forest.create c (some document))
  | .error e => throw e

/-- Makes a node of a document and appends it to another. -/
def place (document parent : NodeId) (c : Content) : Assembly Unit := do
  let i ← edit (Forest.create c (some document))
  discard (edit (Forest.appendChild parent (some i)))

/-- Assembles sources below a node. -/
def convert (keepBlank : Bool) (document parent : NodeId) : List Source → Assembly Unit
  | [] => return
  | .tag name attributes contents :: rest => do
    let i ← makeElement document name attributes
    -- the element hangs in the document before anything is put below it
    discard (edit (Forest.appendChild parent (some i)))
    convert keepBlank document i contents
    convert keepBlank document parent rest
  | .string .comment text :: rest => do
    place document parent (.comment text)
    convert keepBlank document parent rest
  | .string .text text :: rest => do
    if keepsText keepBlank text then
      place document parent (.text text)
    convert keepBlank document parent rest
  | .string kind text :: rest => do
    report (skipRecord kind text)
    convert keepBlank document parent rest

/-- Assembles a document and reports how many elements it has. -/
def fromSources (keepBlank : Bool) (sources : List Source) : Assembly NodeId := do
  let document ← edit (Forest.create (.document []) none)
  convert keepBlank document document sources
  let elements := ((← get).forest.elements document).length
  report (builtRecord elements)
  return document

end Assembly

end TreePath
