import TreePath.Forest.Edit
import TreePath.Forest.Outline
import TreePath.Journal.Record
import TreePath.Literal.Basic
import TreePath.Text.Blank

/-!
# Making nodes and asking them

Nodes are made from literals, which are checked: an element has a text with at least one character
for its name, and texts for its attributes; a bare node has the number of a kind. Only elements have
attributes, only texts and comments have data, and only documents record errors and have an outline.
To ask a node for what its class lacks is an error that names the class and the feature.

The order of the checks is part of what is described: which of two wrong arguments a caller hears of
depends on it. So each function looks at its arguments in the order in which they are looked at, and
the first complaint is the one that is raised.
-/

namespace TreePath

/-- Why a node cannot be made, or does not answer. -/
inductive NodeError where
  /-- The name of an element is not a text with at least one character. -/
  | badName (shown : String)
  /-- An attribute is not a text by a text, but has a key and a value of these classes. -/
  | badAttribute (keyType valueType : String)
  /-- No kind of node has this number. -/
  | badType (shown : String)
  /-- A value of this class cannot be the key of an attribute. -/
  | unhashable (typeName : String)
  /-- A level cannot be compared with a limit of this class. -/
  | badLimit (typeName : String)
  /-- A node of this class lacks a feature. -/
  | lacks (className feature : String)
deriving DecidableEq, Repr

namespace NodeError

/-- The class under which an error is raised. -/
def kindName : NodeError → String
  | badName _ => "ValueError"
  | badAttribute .. => "TypeError"
  | badType _ => "ValueError"
  | unhashable _ => "TypeError"
  | badLimit _ => "TypeError"
  | lacks .. => "AttributeError"

/-- The wording of an error. -/
def message : NodeError → String
  | badName shown => "Element name must be a non-empty string, got " ++ shown
  | badAttribute keyType valueType =>
    "Attributes are string to string, got " ++ keyType ++ "=" ++ valueType
  | badType shown => shown ++ " is not a valid NodeType"
  | unhashable typeName => "unhashable type: '" ++ typeName ++ "'"
  | badLimit typeName => "'>' not supported between instances of 'int' and '" ++ typeName ++ "'"
  | lacks className feature => "'" ++ className ++ "' object has no attribute '" ++ feature ++ "'"

end NodeError

/-! ### Making nodes -/

namespace Content

/-- Adds an attribute, whose key and value must be texts. -/
def putLiteral (a : Attributes) (key value : Literal) : Except NodeError Attributes :=
  match key, value with
  | .text k, .text v => .ok (a.put k v)
  | k, v => .error (.badAttribute k.typeName v.typeName)

/-- An element by name and attributes. That every key of an attribute is fit to be one is looked at
before anything else. -/
def newElement (name : Literal) (attributes : List (Literal × Literal)) :
    Except NodeError Content := do
  if let some typeName := Literal.unhashableAmong? (attributes.map Prod.fst) then
    throw (.unhashable typeName)
  match name with
  | .text s =>
    if s.isEmpty then
      throw (.badName name.written)
    let wanted ← attributes.foldlM (fun a e ↦ putLiteral a e.1 e.2) Attributes.empty
    return .element s wanted
  | v => throw (.badName v.written)

/-- A node with the number of a kind and nothing else. -/
def newBare (type : Literal) : Except NodeError Content :=
  let found : Option NodeType :=
    type.number?.bind fun n ↦
      NodeType.all.find? fun t ↦ Literal.sameNumber n (.finite false t.code 0)
  match found with
  | some t => .ok (.bare t)
  | none => .error (.badType type.written)

/-- A run of text; nothing is the empty text. -/
def newText (data : Option String) : Content :=
  .text (data.getD "")

/-- A comment; nothing is the empty text. -/
def newComment (data : Option String) : Content :=
  .comment (data.getD "")

end Content

/-! ### Asking nodes -/

namespace Forest

/-- The attributes of a node, asked for by way of a feature. -/
def attributesFor (f : Forest) (i : NodeId) (feature : String) : Except NodeError Attributes :=
  match (f.content i).attributes? with
  | some a => .ok a
  | none => .error (.lacks (f.content i).className feature)

/-- Puts other attributes in the place of an element's. -/
def withAttributes (f : Forest) (i : NodeId) (a : Attributes) : Forest :=
  f.update i fun n ↦
    match n.content with
    | .element name _ => { n with content := .element name a }
    | _ => n

/-- Sets an attribute. -/
def setAttribute (f : Forest) (i : NodeId) (key value : Literal) : Except NodeError Forest := do
  let a ← f.attributesFor i "set_attribute"
  return f.withAttributes i (← Content.putLiteral a key value)

/-- A key to look attributes up by; only a text can be found. -/
def lookupKey (key : Literal) : Except NodeError (Option String) :=
  match key with
  | .text k => .ok (some k)
  | v =>
    match v.unhashable? with
    | some typeName => .error (.unhashable typeName)
    | none => .ok none

/-- The value of an attribute, if it is there. -/
def getAttribute (f : Forest) (i : NodeId) (key : Literal) : Except NodeError (Option String) := do
  let a ← f.attributesFor i "get_attribute"
  return (← lookupKey key).bind a.get?

/-- Whether an attribute is there. -/
def hasAttribute (f : Forest) (i : NodeId) (key : Literal) : Except NodeError Bool := do
  let a ← f.attributesFor i "has_attribute"
  return ((← lookupKey key).map a.has).getD false

/-- Removes an attribute, if it is there. Where there is none at all, any key will do. -/
def removeAttribute (f : Forest) (i : NodeId) (key : Literal) : Except NodeError Forest := do
  let a ← f.attributesFor i "remove_attribute"
  if a.isEmpty then
    return f
  match ← lookupKey key with
  | some k => return f.withAttributes i (a.drop k)
  | none => return f

/-- Whether there are any attributes. -/
def hasAttributes (f : Forest) (i : NodeId) : Except NodeError Bool := do
  return !(← f.attributesFor i "has_attributes").isEmpty

/-- The text that a text or a comment holds. -/
def data (f : Forest) (i : NodeId) : Except NodeError String :=
  match f.content i with
  | .text s => .ok s
  | .comment s => .ok s
  | c => .error (.lacks c.className "data")

/-- Whether a text is nothing but blanks. -/
def isBlankText (f : Forest) (i : NodeId) : Except NodeError Bool :=
  match f.content i with
  | .text s => .ok (Text.allBlank s)
  | c => .error (.lacks c.className "is_whitespace")

/-- The first element at the top level of a document. -/
def documentElement (f : Forest) (i : NodeId) : Except NodeError (Option NodeId) :=
  match f.content i with
  | .document _ => .ok (f.firstElement? i)
  | c => .error (.lacks c.className "document_element")

/-- The problems recorded while a document was built. -/
def errors (f : Forest) (i : NodeId) : Except NodeError (List String) :=
  match f.content i with
  | .document es => .ok es
  | c => .error (.lacks c.className "get_errors")

/-- The report of a problem with a document. -/
def errorRecord (message : String) : Record :=
  .plain "path_engine.dom.document" .warning message

/-- Records a problem with a document, which is reported as well. -/
def recordError (f : Forest) (i : NodeId) (message : String) : Except NodeError (Forest × Record) :=
  match f.content i with
  | .document _ =>
    let f' := f.update i fun n ↦
      match n.content with
      | .document es => { n with content := .document (es ++ [message]) }
      | _ => n
    .ok (f', errorRecord message)
  | c => .error (.lacks c.className "handle_error")

/-- The outline of a document, down to a level. -/
def debugText (f : Forest) (i : NodeId) (maxLevel : Int) : Except NodeError String :=
  match f.content i with
  | .document _ =>
    match f.outline? maxLevel i with
    | some s => .ok s
    | none => .error (.lacks (Content.bare .element).className "tag_name")
  | c => .error (.lacks c.className "debug_structure")

/-- The deepest level within a limit, in a tree of at most so many nodes. What is no number leaves
every level within the limit. -/
def deepestWithin (size : Nat) : Decimal.Binary → Int
  | .nan => size
  | .infinite negative => if negative then -1 else size
  | n => ((n.toRat?).map Rat.floor).getD size

/-- The outline of a document, down to a limit given as a literal. The limit is looked at only if
there is an element at the top. -/
def debugTextTo (f : Forest) (i : NodeId) (limit : Literal) : Except NodeError String :=
  match limit.number? with
  | some n => f.debugText i (deepestWithin f.size n)
  | none =>
    match f.debugText i 0 with
    | .error (.lacks c "debug_structure") => .error (.lacks c "debug_structure")
    | r => if (f.elementChildren i).isEmpty then r else .error (.badLimit limit.typeName)

end Forest

end TreePath
