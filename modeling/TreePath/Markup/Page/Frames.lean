import TreePath.Markup.Page.Body

/-!
# Frames, and the end of a page

A page may have a set of frames in place of a body. After a body or a frame set nothing more should
come: what comes after a body goes into the body all the same, what comes after frames is lost.

These are modes of the page in which little is expected. A token that is not meant for one of them
is taken again in the body (`backToBody`), or it is passed over.
-/

namespace TreePath.Markup.Page

/-! ### After the body -/

/-- Takes a token again in the body. -/
def backToBody : Building Bool :=
  retry (expect .inBody)

/-- After the body. A comment goes to the end of the root element. -/
def afterBody : Token → Building Bool
  | .blank s => done (insertText s)
  | .comment s => done do appendString (← get).root .comment s
  | .start t => if t.name == "html" then done (mergeRoot t) else backToBody
  | .finish name => if name == "html" then done (expect .afterAfterBody) else backToBody
  | .text _ => backToBody
  | .doctype _ => return false
  | .ending => return false

/-- After the root element. A comment goes to the end of the document. -/
def afterAfterBody : Token → Building Bool
  | .blank s => done (Body.blank s)
  | .comment s => done (appendString 0 .comment s)
  | .start t => if t.name == "html" then done (mergeRoot t) else backToBody
  | .finish _ => backToBody
  | .text _ => backToBody
  | .doctype _ => return false
  | .ending => return false

/-! ### Frames -/

/-- Ends a frame set. -/
def endFrameset : Building Unit := do
  unless (← get).currentName == "html" do pop
  unless (← get).currentName == "frameset" do expect .afterFrameset

/-- In a frame set. -/
def inFrameset : Token → Building Bool
  | .blank s => done (insertText s)
  | .comment s => done (insertComment s)
  | .start t =>
    match t.name with
    | "html" => done (mergeRoot t)
    | "frameset" => done (insert t)
    | "frame" => done (insertVoid t)
    | "noframes" => startInHead t
    | _ => return false
  | .finish name => done (if name == "frameset" then endFrameset else return)
  | _ => return false

/-- A start tag after frames. -/
def startAfterFrames (t : Tag) : Building Bool :=
  match t.name with
  | "html" => done (mergeRoot t)
  | "noframes" => startInHead t
  | _ => return false

/-- After a frame set. -/
def afterFrameset : Token → Building Bool
  | .blank s => done (insertText s)
  | .comment s => done (insertComment s)
  | .start t => startAfterFrames t
  | .finish name => done (if name == "html" then expect .afterAfterFrameset else return)
  | _ => return false

/-- After the root element, with frames. -/
def afterAfterFrameset : Token → Building Bool
  | .blank s => done (Body.blank s)
  | .comment s => done (appendString 0 .comment s)
  | .start t => startAfterFrames t
  | _ => return false

end TreePath.Markup.Page
