import TreePath.Json.Reader
import TreePath.Text.Quoted

/-!
# Markup that cannot be read

Readers of markup are lenient: nearly every text has a source tree. What they refuse is listed here.
A rejection keeps the complaint of the reader; its message says what else could be tried.

Two of the four come from marked sections, and are raised as errors of the reader. The others come
from a reference and from a page, and are errors about a value.
-/

namespace TreePath

/-- Why markup cannot be read. -/
inductive MarkupError where
  /-- A marked section does not begin with a name; the text there. -/
  | noSectionName (shown : String)
  /-- A marked section has a keyword that nobody knows; the keyword as it is written. -/
  | unknownSection (keyword : String)
  /-- A numbered reference has more digits than are read. -/
  | longNumber (digits : Nat)
  /-- An element of a page is looked for where it does not stand. -/
  | misplaced
deriving DecidableEq, Repr

namespace MarkupError

/-- The class under which an error is raised. -/
def kindName : MarkupError → String
  | noSectionName _ => "ParserRejectedMarkup"
  | unknownSection _ => "ParserRejectedMarkup"
  | longNumber _ => "ValueError"
  | misplaced => "ValueError"

/-- A rejection of markup for a complaint of its reader. -/
def rejection (complaint : String) : String :=
  "The markup you provided was rejected by the parser. Trying a different parser or a different " ++
    "encoding may help.\n\nOriginal error(s) from parser:\n AssertionError: " ++ complaint

/-- The wording of an error. -/
def message : MarkupError → String
  | noSectionName shown => rejection ("expected name token at " ++ Text.quoted shown)
  | unknownSection keyword =>
    rejection ("unknown status keyword " ++ Text.quoted keyword ++ " in marked section")
  | longNumber digits => (Json.ReadError.tooLong digits).message
  | misplaced => "Tag.index: element not in tag"

end MarkupError

end TreePath
