import TreePath.Literal.Error

/-!
# Source trees

What a reader of markup hands on: tags with their attributes, and strings of several kinds, in the
order of the text. A source tree is not yet a document: its attribute values may be anything that a
literal can be, and it holds strings that no document keeps.

The attributes of a tag are a mapping, so their names are distinct, and the type says so
(`TagAttributes`). Their values are put into words one by one (`Source.attributeText`). Not every
value has a text: a whole number with too many digits and a path whose steps were taken away have no
written form (`Literal.writingFault?`), and then neither has a list in which they stand.

Every reader ends in this type, and assembling (`TreePath.Markup.Assembly`) begins with it, so a
theorem about documents need not know how markup is read. Source trees that no reader makes are
included: tags without a name, and attributes that hold something else than texts.
-/

namespace TreePath

/-- What a string of the source is. -/
inductive StringKind where
  /-- Character data of any sort. -/
  | text
  /-- A comment. -/
  | comment
  /-- A document type declaration. -/
  | doctype
  /-- Another declaration. -/
  | declaration
  /-- A processing instruction. -/
  | instruction
  /-- A processing instruction of XML. -/
  | xmlInstruction
deriving DecidableEq, Repr

/-- The name of the class of a kind of string. -/
def StringKind.className : StringKind → String
  | text => "NavigableString"
  | comment => "Comment"
  | doctype => "Doctype"
  | declaration => "Declaration"
  | instruction => "ProcessingInstruction"
  | xmlInstruction => "XMLProcessingInstruction"

/-- The attributes of a tag: values by distinct names, in order. -/
structure TagAttributes where
  /-- The names and values, in order of first assignment. -/
  entries : Entries Literal
  /-- No name occurs twice. -/
  nodup_keys : entries.keys.Nodup

namespace TagAttributes

/-- No attributes. -/
def empty : TagAttributes := ⟨[], List.nodup_nil⟩

instance : Inhabited TagAttributes := ⟨empty⟩

/-- The attributes that a list of assignments, made in order, leaves behind. -/
def ofPairs (pairs : List (String × Literal)) : TagAttributes :=
  ⟨Entries.ofPairs pairs, Entries.nodup_keys_ofPairs pairs⟩

end TagAttributes

/-- A tag with what is inside it, or a string. -/
inductive Source where
  /-- A tag by name, attributes and contents. -/
  | tag (name : String) (attributes : TagAttributes) (contents : List Source)
  /-- A string. -/
  | string (kind : StringKind) (text : String)

namespace Source

instance : Inhabited Source := ⟨string .text ""⟩

/-- To prove a property of every list of sources, prove it of the empty one, of a tag in front when
it holds of the tag's contents and of what follows, and of a string in front. -/
@[elab_as_elim] theorem list_induction {motive : List Source → Prop} (nil : motive [])
    (tag : ∀ name attributes contents rest, motive contents → motive rest →
      motive (.tag name attributes contents :: rest))
    (string : ∀ kind text rest, motive rest → motive (.string kind text :: rest)) :
    ∀ sources, motive sources
  | [] => nil
  | .tag name attributes contents :: rest =>
    tag name attributes contents rest (list_induction nil tag string contents)
      (list_induction nil tag string rest)
  | .string kind text :: rest => string kind text rest (list_induction nil tag string rest)

/-- The number of tags. -/
def countTags : List Source → Nat
  | [] => 0
  | .tag _ _ contents :: rest => countTags contents + 1 + countTags rest
  | .string .. :: rest => countTags rest

/-- A literal as plain text: a text is itself, anything else is written, if it can be. -/
def plainText : Literal → Except LiteralError String
  | .text s => .ok s
  | v =>
    match v.writingFault? with
    | some e => .error e
    | none => .ok v.written

/-- The texts of several literals, side by side with blanks between them. The first that cannot be
written counts. -/
def joinedText (items : List Literal) : Except LiteralError String :=
  (items.mapM plainText).map (" ".intercalate ·)

/-- The text of an attribute value: nothing is empty, the items of a list or tuple are put side by
side, anything else is plain text. -/
def attributeText : Literal → Except LiteralError String
  | .none => .ok ""
  | .list items => joinedText items
  | .tuple items => joinedText items
  | v => plainText v

end Source

end TreePath
