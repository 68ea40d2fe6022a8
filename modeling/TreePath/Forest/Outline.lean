import TreePath.Forest.Walk

/-!
# The outline of a document

A summary of what lies below a node: how many elements, texts and comments, and one line for each
element, indented by its level, down to a given level. Only elements are counted through and only
elements have lines.

A node of the element kind without a name has no line; an outline that reaches one fails.

The census is computed on the tree that a node has below it, with the search for elements done again
in the counting; that both agree is `TreePath.Proofs.Forest.Outlining`. Text below something that is
no element, such as a bare node of another kind, is neither counted nor shown.
-/

namespace TreePath

/-- How many nodes of three kinds a grove has. -/
structure Census where
  /-- The elements. -/
  elements : Nat
  /-- The runs of text. -/
  texts : Nat
  /-- The comments. -/
  comments : Nat
deriving DecidableEq, Repr

instance : Add Census :=
  ⟨fun a b ↦ ⟨a.elements + b.elements, a.texts + b.texts, a.comments + b.comments⟩⟩

/-- Two counts are added kind by kind. -/
theorem Census.mk_add_mk (a b c a' b' c' : Nat) :
    Census.mk a b c + Census.mk a' b' c' = ⟨a + a', b + b', c + c'⟩ := rfl

namespace Outline

/-- Counts a grove, going down through elements only. -/
def census : Grove Content → Census
  | [] => ⟨0, 0, 0⟩
  | .node c ts :: rest =>
    (match c.type with
      | .element => ⟨1, 0, 0⟩ + census ts
      | .text => ⟨0, 1, 0⟩
      | .comment => ⟨0, 0, 1⟩
      | _ => ⟨0, 0, 0⟩) + census rest

/-- The elements of a grove with their levels, down to `maxLevel`, each before those below it. -/
def levels (maxLevel : Int) : Nat → Grove Content → List (Nat × Content)
  | _, [] => []
  | level, .node c ts :: rest =>
    (if c.isElement && decide ((level : Int) ≤ maxLevel) then
      (level, c) :: levels maxLevel (level + 1) ts
    else []) ++ levels maxLevel level rest

/-- The line of an element: two spaces a level, and its name. -/
def line? (e : Nat × Content) : Option String :=
  e.2.name?.map fun name ↦ String.ofList (List.replicate (2 * e.1) ' ') ++ name

/-- The lines of the outline, or nothing if it reaches an element without a name. The heading of the
tree stands whenever there is an element at the top level. -/
def lines? (maxLevel : Int) (g : Grove Content) : Option (List String) := do
  let c := census g
  let counts := [
    "Document Structure:",
    "Element count: " ++ toString c.elements,
    "Text node count: " ++ toString c.texts,
    "Comment count: " ++ toString c.comments]
  if g.any fun t ↦ t.label.isElement then
    let tree ← (levels maxLevel 0 g).mapM line?
    return counts ++ "\nElement tree:" :: tree
  else
    return counts

/-- The outline as one text. -/
def text? (maxLevel : Int) (g : Grove Content) : Option String :=
  (lines? maxLevel g).map ("\n".intercalate ·)

end Outline

/-- The outline of what lies below a node. -/
def Forest.outline? (f : Forest) (maxLevel : Int) (i : NodeId) : Option String :=
  Outline.text? maxLevel (f.shape i).branches

end TreePath
