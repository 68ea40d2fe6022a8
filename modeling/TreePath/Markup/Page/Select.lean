import TreePath.Markup.Page.Head

/-!
# Options of a page

In a list of options stand only options, groups of them, and scripts. Most other tags count for
nothing; some end the list, as do the parts of a table around it.

When a list ends, the mode is found again by looking for the innermost open element that asks for
one (`resetMode`). A table that ends goes the same way.
-/

namespace TreePath.Markup.Page

/-- The mode that an open element asks for, if it asks for one. -/
def modeOf? (name : String) : Option Mode :=
  match name with
  | "select" => some .inSelect
  | "td" | "th" => some .inCell
  | "tr" => some .inRow
  | "tbody" | "thead" | "tfoot" => some .inTableBody
  | "caption" => some .inCaption
  | "colgroup" => some .inColumnGroup
  | "table" => some .inTable
  | "head" | "body" => some .inBody
  | "frameset" => some .inFrameset
  | "html" => some .beforeHead
  | _ => none

/-- Sets what is expected next by the innermost open element that asks for something. -/
def resetMode : Building Unit :=
  modify fun p ↦
    let asked := p.stack.findSome? fun i ↦
      let e := p.element i
      if e.vocabulary == .html then modeOf? e.name else none
    { p with mode := asked.getD p.mode }

namespace Select

/-- Ends the list of options. -/
def leave : Building Unit := do
  if (← get).inScope .select "select" then
    popThrough ["select"]
    resetMode

/-- Closes the innermost open element if it has a name. -/
def popIf (name : String) : Building Unit := do
  if (← get).currentName == name then pop

/-- Fields that end a list of options. -/
def fieldNames : List String := ["input", "keygen", "textarea"]

/-- A start tag among options. -/
def start (t : Tag) : Building Bool :=
  match t.name with
  | "html" => done (mergeRoot t)
  | "option" => done do
    popIf "option"
    insert t
  | "optgroup" => done do
    popIf "option"
    popIf "optgroup"
    insert t
  | "select" => done leave
  | "script" => startInHead t
  | name => do
    retryIf (fieldNames.contains name && (← get).inScope .select "select") leave

/-- An end tag among options. -/
def finish (name : String) : Building Unit :=
  match name with
  | "option" => popIf "option"
  | "optgroup" => do
    let p ← get
    if p.currentName == "option" && p.nameAt ((p.stack.drop 1).headD 0) == "optgroup" then pop
    popIf "optgroup"
  | "select" => leave
  | _ => return

/-- Among options. -/
def inSelect : Token → Building Bool
  | .blank s => done (insertText s)
  | .text s => done do unless s == ['\x00'] do insertText s
  | .comment s => done (insertComment s)
  | .start t => start t
  | .finish name => done (finish name)
  | .doctype _ => return false
  | .ending => return false

/-- The parts of a table that end a list of options in it. -/
def endingNames : List String :=
  ["caption", "table", "tbody", "tfoot", "thead", "tr", "td", "th"]

/-- Among options in a table. -/
def inSelectInTable : Token → Building Bool
  | .start t => if endingNames.contains t.name then retry leave else start t
  | .finish name => do
    if endingNames.contains name then retryIf ((← get).inScope .table name) leave
    else done (finish name)
  | other => inSelect other

end Select

end TreePath.Markup.Page
