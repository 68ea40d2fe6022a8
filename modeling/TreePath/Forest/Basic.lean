import TreePath.Attributes
import TreePath.Text.Quoted

/-!
# Forests of linked nodes

A forest is a store of nodes that are named by their place in it. Each node records its own parent,
its children in order, and the sibling on either side; the four kinds of link say the same thing
several times over, and `Forest.WellLinked` states that they agree. The operations that keep them in
agreement are in `TreePath.Forest.Edit`; here are the data and its look-ups.

A look-up never fails: a number that names no node is treated as a node without links.

That the links agree is stated as a property of forests and not built into the type. The operations
set one link after the other, so that in the middle of each of them the links disagree, and an
operation that fails there would have to leave such a forest behind. That none does is a theorem
(`TreePath.Proofs.Forest.Reachable`), and it is the reason for having the checks first.

What a node *is* (`Content`) is kept apart from where it stands. A bare node of the element kind is
possible, which has neither name nor attributes; `Content.isNamed` tells it from an element.
-/

namespace TreePath

/-! ### Kinds of node -/

/-- The kinds of node that markup knows. -/
inductive NodeType where
  /-- An element. -/
  | element
  /-- An attribute. -/
  | attributeValue
  /-- A run of text. -/
  | text
  /-- A section of unparsed character data. -/
  | characterData
  /-- A processing instruction. -/
  | processingInstruction
  /-- A comment. -/
  | comment
  /-- A document. -/
  | document
  /-- A document type declaration. -/
  | documentType
  /-- A fragment of a document. -/
  | fragment
deriving DecidableEq, Repr

namespace NodeType

/-- The number of a kind. -/
def code : NodeType → Nat
  | element => 1
  | attributeValue => 2
  | text => 3
  | characterData => 4
  | processingInstruction => 7
  | comment => 8
  | document => 9
  | documentType => 10
  | fragment => 11

/-- Every kind, in order of its number. -/
def all : List NodeType :=
  [element, attributeValue, text, characterData, processingInstruction, comment, document,
    documentType, fragment]

/-- The kind with a given number. -/
def ofCode? (n : Int) : Option NodeType :=
  all.find? fun t ↦ (t.code : Int) == n

end NodeType

/-- What a node is, apart from its place among other nodes. -/
inductive Content where
  /-- A document, with the problems recorded while it was built. -/
  | document (errors : List String)
  /-- A named element with its attributes. -/
  | element (name : String) (attributes : Attributes)
  /-- A run of text. -/
  | text (data : String)
  /-- A comment. -/
  | comment (data : String)
  /-- A node that has a kind and nothing else. -/
  | bare (type : NodeType)
deriving DecidableEq

namespace Content

instance : Inhabited Content := ⟨bare .fragment⟩

/-- The kind of a node. -/
def type : Content → NodeType
  | document _ => .document
  | element .. => .element
  | text _ => .text
  | comment _ => .comment
  | bare t => t

/-- Whether a node may be selected: it is of the element kind. -/
def isElement (c : Content) : Bool :=
  c.type == .element

/-- Whether a node of the element kind is a named element; true of every other node. -/
def isNamed : Content → Bool
  | bare .element => false
  | _ => true

/-- A node of the element kind is an element unless it lacks a name. -/
theorem exists_eq_element {c : Content} (h : c.isElement = true) (hnamed : c.isNamed = true) :
    ∃ name attributes, c = .element name attributes := by
  cases c with
  | element name attributes => exact ⟨name, attributes, rfl⟩
  | bare type =>
    cases type with
    | element => cases hnamed
    | _ => cases h
  | _ => cases h

/-- The name by which a node's class is known in messages. -/
def className : Content → String
  | document _ => "Document"
  | element .. => "Element"
  | text _ => "Text"
  | comment _ => "Comment"
  | bare _ => "Node"

/-- The general name of a node: an element's own, or the name of its kind. -/
def nodeName : Content → String
  | document _ => "#document"
  | element name _ => name
  | text _ => "#text"
  | comment _ => "#comment"
  | bare _ => "#node"

/-- The text a node holds itself. -/
def value? : Content → Option String
  | text data => some data
  | comment data => some data
  | _ => none

/-- An element's name. -/
def name? : Content → Option String
  | element name _ => some name
  | _ => none

/-- An element's attributes. -/
def attributes? : Content → Option Attributes
  | element _ attributes => some attributes
  | _ => none

/-- The first characters of a text, quoted. -/
def excerpt (s : String) : String :=
  Text.quoted (String.ofList (Text.front 30 s.toList))

/-- A one-line description: the tag with its attributes, values as they are, or the start of the
text. -/
def describe : Content → String
  | element name attributes =>
    "<Element " ++ name ++
      String.join (attributes.entries.map fun e ↦ " " ++ e.1 ++ "=\"" ++ e.2 ++ "\"") ++ ">"
  | text data => "<Text " ++ excerpt data ++ ">"
  | comment data => "<Comment " ++ excerpt data ++ ">"
  | document _ => "<Document>"
  | bare _ => "<Node>"

end Content

/-! ### Nodes and their store -/

/-- The number of a node in its forest. -/
abbrev NodeId := Nat

/-- A node with its links. -/
structure Node where
  /-- What the node is. -/
  content : Content
  /-- The document that the node was made for or first attached under. -/
  owner : Option NodeId
  /-- The node above. -/
  parent : Option NodeId
  /-- The nodes below, in order. -/
  children : List NodeId
  /-- The child of the same parent just before this one. -/
  previous : Option NodeId
  /-- The child of the same parent just after this one. -/
  next : Option NodeId
deriving DecidableEq

instance : Inhabited Node := ⟨⟨default, none, none, [], none, none⟩⟩

/-- Nodes by number, in order of creation. -/
structure Forest where
  /-- The nodes. -/
  nodes : Array Node

namespace Forest

/-- The forest without nodes. -/
def empty : Forest := ⟨#[]⟩

instance : Inhabited Forest := ⟨empty⟩

variable (f : Forest)

/-- How many nodes there are. -/
def size : Nat := f.nodes.size

/-- The node with a given number. -/
def node (i : NodeId) : Node := f.nodes[i]?.getD default

/-- What a node is. -/
def content (i : NodeId) : Content := (f.node i).content

/-- The document a node belongs to. -/
def owner (i : NodeId) : Option NodeId := (f.node i).owner

/-- The node above a node. -/
def parent (i : NodeId) : Option NodeId := (f.node i).parent

/-- The nodes just below a node. -/
def children (i : NodeId) : List NodeId := (f.node i).children

/-- The sibling before a node. -/
def previous (i : NodeId) : Option NodeId := (f.node i).previous

/-- The sibling after a node. -/
def next (i : NodeId) : Option NodeId := (f.node i).next

/-- Whether a node may be selected. -/
def isElement (i : NodeId) : Bool := (f.content i).isElement

/-- The children that are elements. -/
def elementChildren (i : NodeId) : List NodeId :=
  (f.children i).filter f.isElement

/-- Changes one node; a number that names no node changes nothing. -/
def update (i : NodeId) (g : Node → Node) : Forest :=
  ⟨f.nodes.modify i g⟩

/-- Adds a node without links: the forest with it. Its number is the size of the forest before. -/
def add (content : Content) (owner : Option NodeId) : Forest :=
  ⟨f.nodes.push ⟨content, owner, none, [], none, none⟩⟩

/-! ### What a change does to the look-ups -/

/-- To change a node makes none. -/
@[simp] theorem size_update (i : NodeId) (g : Node → Node) : (f.update i g).size = f.size := by
  simp [size, update]

/-- A new node makes the forest larger by one. -/
@[simp] theorem size_add (content : Content) (owner : Option NodeId) :
    (f.add content owner).size = f.size + 1 := by
  simp [size, add]

/-- A node that is changed is what it was changed to. -/
theorem node_update_self {i : NodeId} (g : Node → Node) (h : i < f.size) :
    (f.update i g).node i = g (f.node i) := by
  have h' : i < f.nodes.size := h
  simp [node, update, h', Array.getElem_modify_self]

/-- Other nodes stay what they were. -/
theorem node_update_of_ne {i j : NodeId} (g : Node → Node) (h : j ≠ i) :
    (f.update i g).node j = f.node j := by
  simp [node, update, Array.getElem?_modify, h.symm]

/-- Both cases together: the form in which the changes of links are computed. -/
theorem node_update {i : NodeId} (g : Node → Node) (j : NodeId) (h : i < f.size) :
    (f.update i g).node j = if j = i then g (f.node j) else f.node j := by
  split
  · next heq => rw [heq, node_update_self f g h]
  · next hne => exact node_update_of_ne f g hne

/-- A number that no node has stands for a node without anything. -/
theorem node_of_size_le {i : NodeId} (h : f.size ≤ i) : f.node i = default := by
  have h' : f.nodes.size ≤ i := h
  simp [node, Array.getElem?_eq_none h']

/-- A change that leaves the children of a node alone leaves all children alone. -/
theorem children_update {g : Node → Node} (hg : ∀ n, (g n).children = n.children) (i j : NodeId) :
    (f.update i g).children j = f.children j := by
  by_cases hi : i < f.size
  · rw [children, node_update f g j hi]
    split
    · exact hg _
    · rfl
  · by_cases hj : j = i
    · have hle : f.size ≤ j := hj ▸ Nat.le_of_not_lt hi
      rw [children, node_of_size_le _ (by simpa using hle), children, node_of_size_le f hle]
    · rw [children, node_update_of_ne f g hj]
      rfl

/-- A new node has a content, perhaps an owner, and no links. -/
theorem node_add_self (content : Content) (owner : Option NodeId) :
    (f.add content owner).node f.size = ⟨content, owner, none, [], none, none⟩ := by
  simp [node, add, size]

/-- The nodes that were there stay what they were. -/
theorem node_add_of_lt {i : NodeId} (content : Content) (owner : Option NodeId) (h : i < f.size) :
    (f.add content owner).node i = f.node i := by
  have h' : i < f.nodes.size := h
  simp [node, add, Array.getElem?_push, Nat.ne_of_lt h']

/-! ### Agreement of the links -/

/-- The links agree: a node is listed among the children of its parent and nowhere else, no list
names a node twice or names a number without a node, the siblings of a node are its neighbours in
its parent's list, a node without parent has no siblings, and no node lies above itself. -/
structure WellLinked : Prop where
  /-- Children are nodes. -/
  child_lt_size : ∀ {p c : NodeId}, c ∈ f.children p → c < f.size
  /-- To be listed by a node is to have it for parent. -/
  mem_children_iff : ∀ {p c : NodeId}, c ∈ f.children p ↔ f.parent c = some p
  /-- No child is listed twice. -/
  nodup_children : ∀ p : NodeId, (f.children p).Nodup
  /-- The sibling before the child at a place is the child at the place before. -/
  previous_eq : ∀ {p i c : Nat}, (f.children p)[i]? = some c →
    f.previous c = if i = 0 then none else (f.children p)[i - 1]?
  /-- The sibling after the child at a place is the child at the place after. -/
  next_eq : ∀ {p i c : Nat}, (f.children p)[i]? = some c → f.next c = (f.children p)[i + 1]?
  /-- A node without parent has no sibling before it. -/
  previous_eq_none : ∀ {c : NodeId}, f.parent c = none → f.previous c = none
  /-- A node without parent has no sibling after it. -/
  next_eq_none : ∀ {c : NodeId}, f.parent c = none → f.next c = none
  /-- Heights exist: every parent is strictly higher than its children. -/
  acyclic : ∃ height : NodeId → Nat, ∀ {p c : NodeId}, f.parent c = some p → height c < height p

/-- The links of no nodes agree. -/
theorem wellLinked_empty : empty.WellLinked := by
  have hnode (i : NodeId) : empty.node i = default := by simp [node, empty]
  have hparent (i : NodeId) : empty.parent i = none := by simp [parent, hnode]; rfl
  have hchildren (i : NodeId) : empty.children i = [] := by simp [children, hnode]; rfl
  refine ⟨?_, ?_, ?_, ?_, ?_, ?_, ?_, fun _ ↦ 0, ?_⟩
  · simp [hchildren]
  · simp [hchildren, hparent]
  · simp [hchildren]
  · simp [hchildren]
  · simp [hchildren]
  · intro c _; simp [previous, hnode]; rfl
  · intro c _; simp [next, hnode]; rfl
  · simp [hparent]

end Forest

end TreePath
