import TreePath.Markup.Page.Foreign
import TreePath.Markup.Page.Frames

/-!
# Reading pages

A page is read token by token (`readFrom`). Each token is taken in as the mode of the page has it
(`handle`), and again for as long as that only prepares its place; how the text goes on to be read
depends on what was taken in.

Bytes are read by the encoding that they tell, or else by that of Windows. A page that tells another
one later on is read again from the beginning (`readBytes`).
-/

namespace TreePath.Markup.Page

/-! ### Tokens -/

/-- Ends raw contents. -/
def leaveRaw : Building Unit := do
  pop
  modify fun p ↦ { p with mode := p.rawReturn }

/-- Raw contents and their end tag. -/
def inRaw : Token → Building Bool
  | .finish _ => done leaveRaw
  | .ending => retry leaveRaw
  | .blank s => done (insertText s)
  | .text s => done (insertText s)
  | .comment s => done (insertComment s)
  | .start _ => return false
  | .doctype _ => return false

/-- What the body does with a token. -/
def inBody (act : Handler) : Token → Building Bool
  | .blank s => done (Body.blank s)
  | .text s => done (Body.text s)
  | .comment s => done (insertComment s)
  | .start t => Body.start act t
  | .finish name => Body.finish name
  | .doctype _ => return false
  | .ending => return false

/-- What a mode does with a token, by a handler for tokens that are taken in on the way. -/
def handle (act : Handler) : Handler
  | .initial => initial
  | .beforeHtml => beforeHtml
  | .beforeHead => beforeHead
  | .inHead => inHead
  | .inHeadNoscript => inHeadNoscript
  | .afterHead => afterHead
  | .inBody => inBody act
  | .raw => inRaw
  | .inTable => Table.inTable act
  | .inTableText => Table.inTableText
  | .inCaption => Table.inCaption act
  | .inColumnGroup => Table.inColumnGroup
  | .inTableBody => Table.inTableBody act
  | .inRow => Table.inRow act
  | .inCell => Table.inCell act
  | .inSelect => Select.inSelect
  | .inSelectInTable => Select.inSelectInTable
  | .afterBody => afterBody
  | .inFrameset => inFrameset
  | .afterFrameset => afterFrameset
  | .afterAfterBody => afterAfterBody
  | .afterAfterFrameset => afterAfterFrameset

/-- Takes in an end tag that is met on the way of another tag. It needs no other in turn. -/
def onTheWay : Handler :=
  handle fun _ _ ↦ return false

/-- Takes in a token, at most so many times. -/
def takeIn (t : Token) : Nat → Building Unit
  | 0 => return
  | n + 1 => do
    let p ← get
    let again ←
      if Foreign.isHtml (p.element p.current) t then handle onTheWay p.mode t
      else Foreign.inForeign onTheWay t
    if again then takeIn t n

/-- A number of times that is enough for any token: preparing its place closes an element or goes on
to another mode. -/
def enough (p : Page) : Nat :=
  2 * p.stack.length + 32

/-! ### Texts -/

/-- Reads a text. Each token takes at least a character; after a tag nothing is raw, unless the tag
is taken in as one with raw contents. -/
def readFrom : Nat → List Char → Building Unit
  | 0, _ => return
  | fuel + 1, s => do
    let p ← get
    if s.isEmpty then takeIn .ending (enough p)
    else
      match token? p.scanning ((p.element p.current).vocabulary != .html) s with
      | .error e => throw e
      | .ok (none, rest) => readFrom fuel rest
      | .ok (some t, rest) =>
        match t with
        | .start _ | .finish _ => modify fun p ↦ { p with scanning := .ordinary }
        | _ => pure ()
        takeIn t (enough p)
        readFrom fuel rest

/-- The page of a text, and an error if one ends it. -/
def ofText (s : List Char) : Option MarkupError × Page :=
  let s := normalizeLines s
  match readFrom (s.length + 1) s empty with
  | .ok _ p => (none, p)
  | .error e p => (some e, p)

/-- The source trees of the page of a text. -/
def finished : Option MarkupError × Page → Except MarkupError (List Source)
  | (none, p) => .ok p.sources
  | (some e, _) => .error e

/-- Reads a text as a page. -/
def read (s : List Char) : Except MarkupError (List Source) :=
  finished (ofText s)

/-! ### Bytes -/

/-- The encoding that the labels in a page tell against the one that it was read by, if the first of
them that can be right is another. -/
def corrected? (c : Charset) (labels : List (List Char)) : Option Charset :=
  ((labels.filterMap Charset.ofLabel?).find? fun d ↦ !d.isWide).filter (· != c)

/-- Reads bytes as a page. -/
def readBytes (s : List UInt8) : Except MarkupError (List Source) :=
  match Charset.ofMark? s with
  | some (c, rest) => read (c.text rest)
  | none =>
    let c := (Charset.ofBytes? s).getD .usual
    let first := ofText (c.text s)
    match corrected? c first.2.labels with
    | some d => read (d.text s)
    | none => finished first

end TreePath.Markup.Page
