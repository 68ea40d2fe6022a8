import TreePath.Markup.Page.Body
import TreePath.Markup.Page.Select

/-!
# Tables of a page

A table holds captions, columns and groups of rows, a group rows, a row cells. A tag of a part opens
the parts around it that were left out, and ends those that it cannot stand in. Anything else that
turns up between the parts goes before the table; character data there is collected first, because
blanks may stay.

The modes of a table follow the parts: between rows, in a row, in a cell. To leave a part is to
close it and to take the token again, so a tag that ends several parts at once closes them one after
the other.
-/

namespace TreePath.Markup.Page.Table

/-! ### What goes before a table -/

/-- A step that puts what cannot stand in a table before it. -/
def fostering (b : Building Unit) : Building Unit := do
  modify fun p ↦ { p with foster := true }
  b
  modify fun p ↦ { p with foster := false }

/-- Begins to collect character data. -/
def collect : Building Unit :=
  modify fun p ↦ { p with textReturn := p.mode, mode := .inTableText }

/-- Gives collected character data its place. -/
def flush : Building Unit := do
  let s := (← get).tableText.reverse.flatten
  modify fun p ↦ { p with tableText := [] }
  unless s.isEmpty do
    if s.all isSpace then insertText s else fostering (Body.text s)

/-- Gives collected character data its place, and goes on with what was expected before. -/
def endText : Building Unit := do
  flush
  modify fun p ↦ { p with mode := p.textReturn }

/-- Among character data in a table. -/
def inTableText : Token → Building Bool
  | .blank s => done (modify fun p ↦ { p with tableText := s :: p.tableText })
  | .text s => done do
    unless s == ['\x00'] do modify fun p ↦ { p with tableText := s :: p.tableText }
  | .doctype _ => return false
  | _ => retry endText

/-! ### The table -/

/-- Opens a part of a table. -/
def openPart (within : List String) (t : Tag) (m : Mode) : Building Unit := do
  popTo ("html" :: within)
  insert t
  expect m

/-- A part of a table that was left out. -/
def implied (name : String) : Tag := ⟨name, [], false⟩

/-- A start tag in a table. -/
def start (act : Handler) (t : Tag) : Building Bool :=
  let openHere (t : Tag) (m : Mode) : Building Unit := openPart ["table"] t m
  let other : Building Unit := fostering do
    let _ ← Body.start act t
  match t.name with
  | "html" => done (mergeRoot t)
  | "caption" => done do
    openHere t .inCaption
    markFormatting
  | "colgroup" => done (openHere t .inColumnGroup)
  | "col" => retry (openHere (implied "colgroup") .inColumnGroup)
  | "tbody" | "tfoot" | "thead" => done (openHere t .inTableBody)
  | "td" | "th" | "tr" => retry (openHere (implied "tbody") .inTableBody)
  | "table" => retry (Body.finishAsExpected act "table")
  | "style" | "script" => startInHead t
  | "input" => done (if Body.isHidden t then insertVoid t else other)
  | "form" => done do
    if (← get).form.isNone then
      insert t
      modify fun p ↦ { p with form := some p.current }
      pop
  | _ => done other

/-- An end tag in a table. -/
def finish (name : String) : Building Unit := do
  if name == "table" then
    if (← get).inScope .table "table" then
      closeImplied none
      popThrough ["table"]
      resetMode
  else unless ("body" :: "html" :: tablePartNames).contains name do
    fostering do
      let _ ← Body.finish name

/-- In a table, between its parts. -/
def inTable (act : Handler) : Token → Building Bool
  | .blank _ => retry collect
  | .text _ => retry collect
  | .comment s => done (insertComment s)
  | .start t => start act t
  | .finish name => done (finish name)
  | .doctype _ => return false
  | .ending => return false

/-! ### Captions and columns -/

/-- Ends a caption. -/
def endCaption : Building Unit := do
  if (← get).inScope .table "caption" then
    closeImplied none
    popThrough ["caption"]
    clearFormatting
    expect .inTable

/-- Ends a caption, and takes the tag again if there was one. -/
def afterCaption : Building Bool := do
  retryIf ((← get).inScope .table "caption") endCaption

/-- In a caption. -/
def inCaption (act : Handler) : Token → Building Bool
  | .blank s => done (insertText s)
  | .text s => done (Body.text s)
  | .comment s => done (insertComment s)
  | .start t =>
    if t.name == "html" then done (mergeRoot t)
    else if tablePartNames.contains t.name then afterCaption
    else Body.start act t
  | .finish name =>
    if name == "caption" then done endCaption
    else if name == "table" then afterCaption
    else if ("body" :: "html" :: tablePartNames).contains name then return false
    else Body.finish name
  | .doctype _ => return false
  | .ending => return false

/-- Ends a group of columns, and takes the token again if there was one. -/
def afterColumns : Building Bool := do
  if (← get).currentName == "html" then return false
  retry do
    pop
    expect .inTable

/-- In a group of columns. -/
def inColumnGroup : Token → Building Bool
  | .blank s => done (insertText s)
  | .comment s => done (insertComment s)
  | .start t =>
    if t.name == "html" then done (mergeRoot t)
    else if t.name == "col" then done (insertVoid t)
    else afterColumns
  | .finish name =>
    if name == "col" then return false
    else if name == "colgroup" then done do
      let _ ← afterColumns
    else afterColumns
  | .doctype _ => return false
  | _ => afterColumns

/-! ### Rows -/

/-- Whether a group of rows is open. -/
def hasRowGroup (p : Page) : Bool :=
  rowGroupNames.any fun name ↦ p.inScope .table name

/-- Ends a group of rows. -/
def endRowGroup : Building Unit := do
  popTo ("html" :: rowGroupNames)
  pop
  expect .inTable

/-- The parts of a table other than rows and cells. -/
def outerPartNames : List String := ["caption", "col", "colgroup", "tbody", "tfoot", "thead"]

/-- A start tag in a group of rows. -/
def startInBody (act : Handler) (t : Tag) : Building Bool := do
  let openHere (t : Tag) : Building Unit := openPart rowGroupNames t .inRow
  if t.name == "tr" then done (openHere t)
  else if t.name == "td" || t.name == "th" then retry (openHere (implied "tr"))
  else if outerPartNames.contains t.name then retryIf (hasRowGroup (← get)) endRowGroup
  else start act t

/-- An end tag in a group of rows. -/
def finishInBody (name : String) : Building Bool := do
  if rowGroupNames.contains name then
    done (if (← get).inScope .table name then endRowGroup else return)
  else if name == "table" then retryIf (hasRowGroup (← get)) endRowGroup
  else done (finish name)

/-- In a group of rows. -/
def inTableBody (act : Handler) : Token → Building Bool
  | .start t => startInBody act t
  | .finish name => finishInBody name
  | other => inTable act other

/-- Ends a row, and takes the tag again if there was one. -/
def afterRow : Building Bool := do
  retryIf ((← get).inScope .table "tr") do
    popTo ["tr", "html"]
    pop
    expect .inTableBody

/-- In a row. -/
def inRow (act : Handler) : Token → Building Bool
  | .start t =>
    if t.name == "td" || t.name == "th" then done do
      openPart ["tr"] t .inCell
      markFormatting
    else if t.name == "tr" || outerPartNames.contains t.name then afterRow
    else start act t
  | .finish name => do
    if name == "tr" then done do
      let _ ← afterRow
    else if name == "table" then afterRow
    else if rowGroupNames.contains name then
      if (← get).inScope .table name then
        let _ ← afterRow
        return true
      else return false
    else done (finish name)
  | other => inTable act other

/-! ### Cells -/

/-- Ends a cell of a name. -/
def endCell (name : String) : Building Unit := do
  if (← get).inScope .table name then
    closeImplied (some name)
    popThrough [name]
    clearFormatting
    expect .inRow

/-- Ends the cell that is open. -/
def closeCell : Building Unit := do
  if (← get).inScope .table "td" then endCell "td" else endCell "th"

/-- In a cell. -/
def inCell (act : Handler) : Token → Building Bool
  | .blank s => done (insertText s)
  | .text s => done (Body.text s)
  | .comment s => done (insertComment s)
  | .start t => do
    if t.name == "html" then done (mergeRoot t)
    else if tablePartNames.contains t.name then
      let p ← get
      retryIf (p.inScope .table "td" || p.inScope .table "th") closeCell
    else Body.start act t
  | .finish name => do
    if name == "td" || name == "th" then done (endCell name)
    else if ["body", "caption", "col", "colgroup", "html"].contains name then return false
    else if tableNames.contains name then retryIf ((← get).inScope .table name) closeCell
    else Body.finish name
  | .doctype _ => return false
  | .ending => return false

end TreePath.Markup.Page.Table
