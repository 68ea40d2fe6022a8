import TreePath.Markup.HtmlToken
import TreePath.Markup.Nesting

/-!
# Reading HTML

`Html.read` keeps the structure of the text as it is: nothing is implied, tags nest as they are
written, a tag of the void kind closes at once.

The tokens (`TreePath.Markup.HtmlToken`) carry no structure, and the stack of open tags
(`TreePath.Markup.Nesting`) knows nothing of HTML but which tags preserve blanks and which are void.
The end tag of a void tag may come once for each tag that was closed by itself.
-/

namespace TreePath.Markup

/-- The tags that have no contents. -/
def voidTags : List String :=
  ["area", "base", "basefont", "bgsound", "br", "col", "command", "embed", "frame", "hr", "image",
    "img", "input", "isindex", "keygen", "link", "menuitem", "meta", "nextid", "param", "source",
    "spacer", "track", "wbr"]

/-- The tags that preserve their blanks. -/
def preservingTags : List String := ["pre", "textarea"]

/-- The attributes of a tag: of two with the same name the last counts, at the place of the
first. -/
def literalAttributes (attributes : List (String × String)) : TagAttributes :=
  .ofPairs (attributes.map fun a ↦ (a.1, Literal.text a.2))

namespace Html

/-- The state of reading: the nesting, and the void tags whose end tag may still come. -/
structure State where
  /-- The open tags and what was read. -/
  nesting : Nesting
  /-- The names of void tags that were closed on their own. -/
  closedVoids : List String

/-- Takes in a token. The end tag of a void tag that was closed on its own is passed over. -/
def step (s : State) : HtmlToken → State
  | .start name attributes closed =>
    let opened := s.nesting.openTag name name (literalAttributes attributes)
    if closed then { s with nesting := opened.closeTag name }
    else if voidTags.contains name then
      ⟨opened.closeTag name, name :: s.closedVoids⟩
    else { s with nesting := opened }
  | .finish name =>
    if s.closedVoids.contains name then { s with closedVoids := s.closedVoids.erase name }
    else { s with nesting := s.nesting.closeTag name }
  | .text chars => { s with nesting := s.nesting.addText chars }
  | .string kind chars => { s with nesting := s.nesting.addString kind chars }

/-- The source tree of a text. -/
def read (s : List Char) : Except MarkupError (List Source) := do
  let tokens ← HtmlToken.ofText s
  return (tokens.foldl step ⟨.start preservingTags, []⟩).nesting.finish

end Html

end TreePath.Markup
