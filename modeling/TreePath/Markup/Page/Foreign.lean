import TreePath.Markup.Page.Table

/-!
# Drawings and formulas in a page

Inside a drawing or a formula, tags open elements of that vocabulary, with no contents left out.
Some places in them hold HTML again (`holdsHtml`, `holdsText`). A tag of HTML that cannot stand in a
drawing ends it.

Names in a drawing or a formula are compared without regard to capitals, while the elements keep the
capitals that their vocabulary asks for (`properName`). An end tag ends the innermost element with
its name, unless one of HTML is open inside of that; then it is taken as the mode of the page has
it, as if there were no drawing.
-/

namespace TreePath.Markup.Page.Foreign

/-- Whether an element of a drawing or a formula holds HTML. -/
def holdsHtml (e : Element) : Bool :=
  match e.vocabulary with
  | .html => false
  | .svg => svgScopeNames.contains e.name
  | .math =>
    e.name == "annotation-xml" &&
      (e.attributes.lookup "encoding").any fun encoding ↦
        ["text/html", "application/xhtml+xml"].contains encoding.toLower

/-- Whether an element of a formula holds plain text with elements of HTML. -/
def holdsText (e : Element) : Bool :=
  e.vocabulary == .math && mathTextNames.contains e.name

/-- Whether a token in an element is one of HTML. -/
def isHtml (e : Element) (t : Token) : Bool :=
  let isData := match t with
    | .text _ => true
    | .blank _ => true
    | _ => false
  match e.vocabulary, t with
  | .html, _ => true
  | _, .start tag =>
    (holdsText e && tag.name != "mglyph" && tag.name != "malignmark") ||
      (e.vocabulary == .math && e.name == "annotation-xml" && tag.name == "svg") || holdsHtml e
  | _, .ending => true
  | _, _ => isData && (holdsText e || holdsHtml e)

/-- Whether a start tag ends a drawing or a formula. -/
def breaksOut (t : Tag) : Bool :=
  breakoutNames.contains t.name ||
    (t.name == "font" && t.attributes.any fun a ↦ ["color", "face", "size"].contains a.1)

/-- Closes the open elements of a drawing or a formula, up to one that holds HTML. -/
def breakOut : Building Unit :=
  modify fun p ↦
    { p with stack := p.stack.dropWhile fun i ↦
        let e := p.element i
        e.vocabulary != .html && !holdsHtml e && !holdsText e }

/-- A start tag in a drawing or a formula. -/
def start (t : Tag) : Building Bool :=
  if breaksOut t then retry breakOut
  else done do
    let p ← get
    let v := (p.element p.current).vocabulary
    insertAs v (properName v t.name) (properAttributes v t.attributes)
    if t.closed then pop

/-- The number of the innermost open element that an end tag in a drawing or a formula ends, if no
element of HTML stands between. -/
def ended? (p : Page) (name : String) : Option Nat :=
  (p.stack.takeWhile fun i ↦ (p.element i).vocabulary != .html).find? fun i ↦
    (p.nameAt i).toLower == name

/-- An end tag in a drawing or a formula. -/
def finish (act : Handler) (name : String) : Building Bool := do
  let p ← get
  match ended? p name with
  | some i => done do
    if p.mode == .inTableText then Table.endText
    popElement i
  | none => act p.mode (.finish name)

/-- In a drawing or a formula. -/
def inForeign (act : Handler) : Token → Building Bool
  | .blank s => done (insertText s)
  | .text s => done do
    unless s.all isSpace || s == ['\x00'] do forbidFrames
    insertText (if s == ['\x00'] then ['\ufffd'] else s)
  | .comment s => done (insertComment s)
  | .start t => start t
  | .finish name => finish act name
  | .doctype _ => return false
  | .ending => return false

end TreePath.Markup.Page.Foreign
