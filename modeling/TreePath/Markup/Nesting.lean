import TreePath.Markup.Source
import TreePath.Text.Blank

/-!
# Nesting

Between the tokens of a text and its source tree stands the stack of open tags. `Nesting` is that
stack with what has been read so far: character data is collected until something else comes up, and
then becomes one string; an end tag closes the innermost open tag of its key and all inside it, and
does nothing if there is none; what is open at the end is closed.

A string of nothing but markup blanks, or of nothing at all, shrinks to a single line feed or blank,
unless it stands in a tag that preserves its blanks.

The stack holds what stands in each open tag in the order of the text, so that closing a tag is to
put it into the tag below. Which tags an end tag closes is the same for all backends that read tags
as they are written; the one that reads pages (`TreePath.Markup.Page.Reader`) has rules of its own.
-/

namespace TreePath.Markup

/-- An open tag. -/
structure OpenTag where
  /-- What an end tag has to spell to close it. -/
  key : String
  /-- The name that the tag has in the source tree. -/
  name : String
  /-- Its attributes. -/
  attributes : TagAttributes
  /-- What is inside it so far, last first. -/
  contents : List Source

/-- The stack of open tags with what was read so far. -/
structure Nesting where
  /-- The names of tags that preserve their blanks. -/
  preserving : List String
  /-- The open tags, innermost first. -/
  stack : List OpenTag
  /-- What is complete at the top level, last first. -/
  done : List Source
  /-- Character data that has not become a string yet, last character first. -/
  pending : Option (List Char)

namespace Nesting

/-- Nothing read yet. -/
def start (preserving : List String) : Nesting :=
  ⟨preserving, [], [], none⟩

/-- A string as it is kept: blanks alone shrink to one. -/
def shrink (preserve : Bool) (s : List Char) : List Char :=
  if !preserve && s.all Text.isMarkupBlank then
    if s.contains '\n' then ['\n'] else [' ']
  else s

/-- Whether the innermost place preserves its blanks. -/
def preserves (n : Nesting) : Bool :=
  n.stack.any fun t ↦ n.preserving.contains t.name

/-- Puts a source into the innermost open tag. -/
def put (n : Nesting) (s : Source) : Nesting :=
  match n.stack with
  | [] => { n with done := s :: n.done }
  | t :: rest => { n with stack := { t with contents := s :: t.contents } :: rest }

/-- Makes a string of the character data collected so far. -/
def flush (n : Nesting) : Nesting :=
  match n.pending with
  | none => n
  | some reversed =>
    { n with pending := none }.put
      (.string .text (String.ofList (shrink n.preserves reversed.reverse)))

/-- Collects character data. -/
def addText (n : Nesting) (s : List Char) : Nesting :=
  { n with pending := some (s.reverse ++ n.pending.getD []) }

/-- Adds a string of a kind, on its own. -/
def addString (n : Nesting) (kind : StringKind) (s : List Char) : Nesting :=
  let n := n.flush
  n.put (.string kind (String.ofList (shrink n.preserves s)))

/-- Opens a tag. -/
def openTag (n : Nesting) (key name : String) (attributes : TagAttributes) : Nesting :=
  let n := n.flush
  { n with stack := ⟨key, name, attributes, []⟩ :: n.stack }

/-- Closes the innermost tag. -/
def closeInnermost (n : Nesting) : Nesting :=
  match n.stack with
  | [] => n
  | t :: rest => { n with stack := rest }.put (.tag t.name t.attributes t.contents.reverse)

/-- Closes so many tags. -/
def closeMany : Nat → Nesting → Nesting
  | 0, n => n
  | k + 1, n => closeMany k n.closeInnermost

/-- Closes the innermost tag of a key and all inside it, if there is one. -/
def closeTag (n : Nesting) (key : String) : Nesting :=
  let n := n.flush
  match n.stack.findIdx? fun t ↦ t.key == key with
  | none => n
  | some k => closeMany (k + 1) n

/-- Closes everything: the sources of the whole text. -/
def finish (n : Nesting) : List Source :=
  let n := n.flush
  (closeMany n.stack.length n).done.reverse

end Nesting

end TreePath.Markup
