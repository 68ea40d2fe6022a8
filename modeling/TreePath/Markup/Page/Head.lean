import TreePath.Markup.Page.Building
import TreePath.Markup.Page.Charset

/-!
# The head of a page

What comes before the body: the document type, the root element, and the head with what belongs into
it. None of its tags need be there. What can only stand in the body ends the head, and the elements
left out are made then.

Each function takes a token in one mode and answers whether it is to be taken again. If something
before it was left out, that is made first, and the token is taken again in the mode that this has
led to; so a text without any of these tags has a root, a head and a body by the time its first word
is put in.
-/

namespace TreePath.Markup.Page

/-! ### The document type -/

/-- The text of a document type declaration. -/
def Doctype.text (d : Doctype) : List Char :=
  let quoted (s : String) : String := " \"" ++ s ++ "\""
  let ids := match d.publicId, d.systemId with
    | some p, s => " PUBLIC" ++ quoted p ++ (s.map quoted).getD ""
    | none, some s => " SYSTEM" ++ quoted s
    | none, none => ""
  (d.name ++ ids).toList

/-- The public descriptions of document types whose tables may stand in paragraphs. -/
def oldDescriptions : List String :=
  ["html", "html 2.0", "html 2.0 level 1", "html 2.0 level 2", "html 2.0 strict",
    "html 2.0 strict level 1", "html 2.0 strict level 2", "html 2.1e", "html 3",
    "html 3 1995-03-24", "html 3.0", "html 3.2", "html 3.2 draft", "html 3.2 final",
    "html 3.2s draft", "html 4.0 frameset", "html 4.0 transitional", "html experimental 19960712",
    "html experimental 970421", "html level 0", "html level 1", "html level 2", "html level 3",
    "html strict", "html strict level 0", "html strict level 1", "html strict level 2",
    "html strict level 3"]

/-- The public descriptions of document types whose tables may stand in paragraphs if no system
identifier is given. -/
def looseDescriptions : List String := ["html 4.01 frameset", "html 4.01 transitional"]

/-- The description in a public identifier: what follows its owner and the kind of document. -/
def description? (publicId : String) : Option String :=
  match publicId.toLower.splitOn "//" with
  | "-" :: _ :: kind :: _ :: _ =>
    if kind.startsWith "dtd " then some (kind.drop 4).toString else none
  | _ => none

/-- Whether a document type is so old or so wrong that tables may stand in paragraphs. -/
def Doctype.isOld (d : Doctype) : Bool :=
  let described (names : List String) : Bool :=
    ((d.publicId.bind description?).map names.contains).getD false
  !d.correct || d.name != "html" || d.publicId.map String.toLower == some "html" ||
    described oldDescriptions || (d.systemId.isNone && described looseDescriptions)

/-- Allows tables in paragraphs or not, and goes on to the root element. -/
def beginPage (tolerant : Bool) : Building Unit := do
  modify fun p ↦ { p with tolerant := tolerant }
  expect .beforeHtml

/-- At the beginning. Only here a document type declaration counts. -/
def initial : Token → Building Bool
  | .blank _ => return false
  | .comment s => done (appendString 0 .comment s)
  | .doctype d => done do
    appendString 0 .doctype d.text
    beginPage d.isOld
  | _ => retry (beginPage true)

/-! ### The root element -/

/-- The elements whose end tags make elements that were left out. -/
def outerNames : List String := ["head", "body", "html", "br"]

/-- Makes the root element. -/
def openRoot : Building Unit := do
  let i ← make .html "html" []
  push i
  append 0 i
  expect .beforeHead

/-- Gives the root element those attributes of a tag that it does not have. -/
def mergeRoot (t : Tag) : Building Unit := do
  addAttributes (← get).root t.attributes

/-- Before the root element. -/
def beforeHtml : Token → Building Bool
  | .blank _ => return false
  | .doctype _ => return false
  | .comment s => done (appendString 0 .comment s)
  | .finish name => retryIf (outerNames.contains name) openRoot
  | _ => retry openRoot

/-! ### The head -/

/-- Makes the head. -/
def openHead (attributes : List (String × String)) : Building Unit := do
  insertAs .html "head" attributes
  modify fun p ↦ { p with head := p.current }
  expect .inHead

/-- Before the head. -/
def beforeHead : Token → Building Bool
  | .blank _ => return false
  | .doctype _ => return false
  | .comment s => done (insertComment s)
  | .start t =>
    if t.name == "html" then done (mergeRoot t)
    else if t.name == "head" then done (openHead t.attributes)
    else retry (openHead [])
  | .finish name => retryIf (outerNames.contains name) (openHead [])
  | _ => retry (openHead [])

/-- Ends the head. -/
def leaveHead : Building Unit := do
  pop
  expect .afterHead

/-- The elements that belong into the head, wherever they stand. -/
def headNames : List String :=
  ["base", "basefont", "bgsound", "command", "link", "meta", "script", "style", "title"]

/-- The elements of the head that have no contents. -/
def headVoidNames : List String := ["base", "basefont", "bgsound", "command", "link", "meta"]

/-- Keeps the label of an encoding that a tag gives. -/
def declare (t : Tag) : Building Unit :=
  modify fun p ↦ { p with labels := p.labels ++ (Charset.labelOf? t).toList }

/-- A start tag in the head. -/
def startInHead (t : Tag) : Building Bool :=
  if headVoidNames.contains t.name then done do
    insertVoid t
    if t.name == "meta" then declare t
  else if t.name == "html" then done (mergeRoot t)
  else if t.name == "head" then return false
  else if t.name == "title" then done (insertRaw t (.escapable t.name))
  else if t.name == "noframes" || t.name == "style" then done (insertRaw t (.raw t.name))
  else if t.name == "script" then done (insertRaw t .script)
  else if t.name == "noscript" then done do
    insert t
    expect .inHeadNoscript
  else retry leaveHead

/-- In the head. -/
def inHead : Token → Building Bool
  | .blank s => done (insertText s)
  | .doctype _ => return false
  | .comment s => done (insertComment s)
  | .start t => startInHead t
  | .finish name =>
    if name == "head" then done leaveHead else retryIf (outerNames.contains name) leaveHead
  | _ => retry leaveHead

/-- Ends what is in the head for readers without scripts. -/
def leaveNoscript : Building Unit := do
  pop
  expect .inHead

/-- The elements that may stand in the head for readers without scripts. -/
def noscriptNames : List String := ["basefont", "bgsound", "link", "meta", "noframes", "style"]

/-- In the head, for readers without scripts. -/
def inHeadNoscript : Token → Building Bool
  | .blank s => done (insertText s)
  | .doctype _ => return false
  | .comment s => done (insertComment s)
  | .start t =>
    if t.name == "html" then done (mergeRoot t)
    else if noscriptNames.contains t.name then startInHead t
    else if t.name == "head" || t.name == "noscript" then return false
    else retry leaveNoscript
  | .finish name =>
    if name == "noscript" then done leaveNoscript else retryIf (name == "br") leaveNoscript
  | _ => retry leaveNoscript

/-- The elements that go into the head even after it. -/
def lateHeadNames : List String :=
  ["base", "basefont", "bgsound", "link", "meta", "noframes", "script", "style", "title"]

/-- Makes the body. -/
def openBody (attributes : List (String × String)) : Building Unit := do
  insertAs .html "body" attributes
  expect .inBody

/-- Makes the body that was left out. -/
def implyBody : Building Unit := do
  openBody []
  modify fun p ↦ { p with framesAllowed := true }

/-- After the head. -/
def afterHead : Token → Building Bool
  | .blank s => done (insertText s)
  | .doctype _ => return false
  | .comment s => done (insertComment s)
  | .start t =>
    if t.name == "html" then done (mergeRoot t)
    else if t.name == "body" then done do
      forbidFrames
      openBody t.attributes
    else if t.name == "frameset" then done do
      insert t
      expect .inFrameset
    else if lateHeadNames.contains t.name then done do
      let head := (← get).head
      push head
      let _ ← startInHead t
      unstack head
    else if t.name == "head" then return false
    else retry implyBody
  | .finish name => retryIf (["body", "html", "br"].contains name) implyBody
  | _ => retry implyBody

end TreePath.Markup.Page
