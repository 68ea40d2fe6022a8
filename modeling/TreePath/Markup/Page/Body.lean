import TreePath.Markup.Page.Formatting
import TreePath.Markup.Page.Head

/-!
# The body of a page

Start tags and end tags of the body. Many tags close what is open before they open something: a
paragraph ends where a block begins, an item of a list where the next one begins.

Some of these closings are left to whatever mode the page is in, so the functions here take a
handler for tokens that are to be taken in on the way.

The table of start tags is one match on the name, in which a family of tags that are treated alike
is one case. A tag that no case names opens an element in which nothing is special.
-/

namespace TreePath.Markup.Page.Body

/-! ### Character data -/

/-- Character data that is not all blanks. -/
def text (s : List Char) : Building Unit := do
  unless s == ['\x00'] do
    reopen
    insertText s
    unless s.all isSpace do forbidFrames

/-- Blanks. A line feed right after some start tags is dropped. -/
def blank (s : List Char) : Building Unit := do
  let p ← get
  let drops := p.dropsNewline && s.head? == some '\n' &&
    ["pre", "listing", "textarea"].contains p.currentName && (p.element p.current).contents.isEmpty
  let shown := if drops then s.drop 1 else s
  modify fun p ↦ { p with dropsNewline := false }
  unless shown.isEmpty do
    reopen
    insertText shown

/-- Has a line feed dropped that comes next. -/
def dropNewline : Building Unit :=
  modify fun p ↦ { p with dropsNewline := true }

/-- Sets how the text is to be read. -/
def scan (scanning : Scanning) : Building Unit :=
  modify fun p ↦ { p with scanning := scanning }

/-! ### Tags taken in on the way -/

/-- Takes in an end tag as the mode of the page has it. -/
def finishAsExpected (act : Handler) (name : String) : Building Unit := do
  let _ ← act (← get).mode (.finish name)

/-- Closes a paragraph that is open. -/
def closeParagraph : Building Unit :=
  popNamed .button (some "p") "p"

/-! ### Start tags -/

/-- The elements that an item of a list ends. -/
def endedBy (name : String) : List String :=
  if name == "li" then ["li"] else ["dt", "dd"]

/-- Opens an item of a list, which ends the item before it. -/
def startItem (act : Handler) (t : Tag) : Building Unit := do
  forbidFrames
  let p ← get
  let ended := endedBy t.name
  let bound (i : Nat) : Bool :=
    (p.element i).isSpecial && !(["address", "div", "p"].contains (p.nameAt i))
  match p.stack.find? fun i ↦ ended.contains (p.nameAt i) || bound i with
  | some i => if ended.contains (p.nameAt i) then finishAsExpected act (p.nameAt i)
  | none => pure ()
  if (← get).inScope .button "p" then finishAsExpected act "p"
  insert t

/-- Opens a heading; another heading ends. -/
def startHeading (t : Tag) : Building Unit := do
  closeParagraph
  if headingNames.contains (← get).currentName then pop
  insert t

/-- Opens a form, if none is open. -/
def startForm (t : Tag) : Building Unit := do
  if (← get).form.isNone then
    closeParagraph
    insert t
    modify fun p ↦ { p with form := some p.current }

/-- Opens a link; another link ends. -/
def startLink (t : Tag) : Building Unit := do
  match (← get).formatting? t.name with
  | some i =>
    endFormatting t.name
    unstack i
    unformat i
  | none => pure ()
  reopen
  insertFormatting t

/-- Adds an element without contents among formatting elements. -/
def startVoid (t : Tag) : Building Unit := do
  reopen
  insertVoid t
  forbidFrames

/-- Whether a field is hidden. -/
def isHidden (t : Tag) : Bool :=
  (t.attributes.lookup "type").any fun kind ↦ kind.toLower == "hidden"

/-- Adds a field. A hidden one still leaves the place to frames. -/
def startInput (t : Tag) : Building Unit := do
  let allowed := (← get).framesAllowed
  startVoid t
  if isHidden t then modify fun p ↦ { p with framesAllowed := allowed }

/-- Adds a line across. -/
def startRule (t : Tag) : Building Unit := do
  closeParagraph
  insertVoid t
  forbidFrames

/-- Opens an element of no particular kind. -/
def startOther (t : Tag) : Building Unit := do
  reopen
  insert t

/-- Ends the form that is open. What is open in it stays open. -/
def endForm : Building Unit := do
  let p ← get
  modify fun p ↦ { p with form := none }
  match p.form with
  | some i =>
    if p.isInScope i then
      closeImplied none
      unstack i
  | none => return

/-- What an index asks for if it does not say. -/
def indexPrompt : String := "This is a searchable index. Enter search keywords: "

/-- Attributes with a value for a name, at its place or else at the end. -/
def withAttribute (attributes : List (String × String)) (name value : String) :
    List (String × String) :=
  if attributes.any fun a ↦ a.1 == name then
    attributes.map fun a ↦ if a.1 == name then (name, value) else a
  else attributes ++ [(name, value)]

/-- Opens an index: a form with a labelled field between two lines. -/
def startIndex (t : Tag) : Building Unit := do
  if (← get).form.isNone then
    let plain (name : String) : Tag := ⟨name, [], false⟩
    startForm ⟨"form", t.attributes.filter fun a ↦ a.1 == "action", false⟩
    startRule (plain "hr")
    startOther (plain "label")
    text ((t.attributes.lookup "prompt").getD indexPrompt).toList
    let kept := t.attributes.filter fun a ↦ a.1 != "action" && a.1 != "prompt"
    startInput ⟨"input", withAttribute kept "name" "isindex", t.closed⟩
    popAny "label"
    startRule (plain "hr")
    endForm

/-- Opens a list of options. -/
def startSelect (t : Tag) : Building Unit := do
  startOther t
  forbidFrames
  let mode := (← get).mode
  let tableModes := [Mode.inTable, .inCaption, .inColumnGroup, .inTableBody, .inRow, .inCell]
  expect (if tableModes.contains mode then .inSelectInTable else .inSelect)

/-- Opens a drawing or a formula. -/
def startForeign (v : Vocabulary) (t : Tag) : Building Unit := do
  reopen
  insertAs v t.name (properAttributes v t.attributes)
  if t.closed then pop

/-- Opens a frame set in place of the body. -/
def startFrameset (t : Tag) : Building Unit := do
  let p ← get
  if p.framesAllowed then
    match p.second? with
    | some body => detach body
    | none => pure ()
    popTo ["html"]
    insert t
    expect .inFrameset

/-- Opens a formatting element that does not stand in itself. -/
def startUnbroken (t : Tag) : Building Unit := do
  reopen
  if (← get).inScope .usual t.name then
    endFormatting t.name
    reopen
  insertFormatting t

/-- Opens a button. An open one ends first. -/
def startButton (t : Tag) : Building Bool := do
  if (← get).inScope .usual t.name then retry (popNamed .usual none t.name)
  else done do
    startOther t
    forbidFrames

/-- Gives the body those attributes of a tag that it does not have. -/
def mergeBody (t : Tag) : Building Unit := do
  forbidFrames
  match (← get).second? with
  | some i => addAttributes i t.attributes
  | none => return

/-- Elements without contents that stand among formatting elements. -/
def inlineVoidNames : List String := ["area", "br", "embed", "img", "keygen", "wbr"]

/-- Elements that count for nothing outside tables, frame sets and the head. -/
def misplacedNames : List String := "frame" :: "head" :: tablePartNames

/-- A start tag in the body. -/
def start (act : Handler) (t : Tag) : Building Bool :=
  let isOneOf (names : List String) : Bool := names.contains t.name
  if isOneOf blockNames then done do
    closeParagraph
    insert t
  else if isOneOf formattingNames then done do
    reopen
    insertFormatting t
  else if isOneOf headNames then startInHead t
  else if isOneOf headingNames then done (startHeading t)
  else if isOneOf inlineVoidNames then done (startVoid t)
  else if isOneOf misplacedNames then return false
  else
    match t.name with
    | "html" => done (mergeRoot t)
    | "body" => done (mergeBody t)
    | "frameset" => done (startFrameset t)
    | "pre" | "listing" => done do
      closeParagraph
      insert t
      forbidFrames
      dropNewline
    | "form" => done (startForm t)
    | "li" | "dd" | "dt" => done (startItem act t)
    | "plaintext" => done do
      closeParagraph
      insert t
      scan .plain
    | "a" => done (startLink t)
    | "nobr" => done (startUnbroken t)
    | "button" => startButton t
    | "applet" | "marquee" | "object" => done do
      startOther t
      markFormatting
      forbidFrames
    | "xmp" => done do
      closeParagraph
      reopen
      forbidFrames
      insertRaw t (.raw t.name)
    | "table" => done do
      unless (← get).tolerant do closeParagraph
      insert t
      forbidFrames
      expect .inTable
    | "param" | "source" | "track" => done (insertVoid t)
    | "input" => done (startInput t)
    | "hr" => done (startRule t)
    | "image" => done (startVoid { t with name := "img" })
    | "isindex" => done (startIndex t)
    | "textarea" => done do
      insert t
      scan (.escapable t.name)
      dropNewline
      forbidFrames
    | "iframe" => done do
      forbidFrames
      insertRaw t (.raw t.name)
    | "noembed" | "noframes" => done (insertRaw t (.raw t.name))
    | "select" => done (startSelect t)
    | "rp" | "rt" => done do
      if (← get).inScope .usual "ruby" then closeImplied none
      insert t
    | "option" | "optgroup" => done do
      if (← get).currentName == "option" then finishAsExpected act "option"
      startOther t
    | "math" => done (startForeign .math t)
    | "svg" => done (startForeign .svg t)
    | _ => done (startOther t)

/-! ### End tags -/

/-- Whether a heading is open. -/
def hasHeading (p : Page) : Bool :=
  headingNames.any fun name ↦ p.inScope .usual name

/-- Elements whose contents are closed in themselves. -/
def closedNames : List String := ["applet", "marquee", "object"]

/-- An end tag in the body. -/
def finish (name : String) : Building Bool :=
  let isOneOf (names : List String) : Bool := names.contains name
  if isOneOf closingNames then done do
    if name == "pre" then modify fun p ↦ { p with dropsNewline := false }
    popNamed .usual none name
  else if isOneOf formattingNames then done (endFormatting name)
  else if isOneOf headingNames then done do
    if hasHeading (← get) then
      closeImplied none
      popThrough headingNames
  else if isOneOf closedNames then done do
    if (← get).inScope .usual name then
      closeImplied none
      popThrough [name]
      clearFormatting
  else
    match name with
    | "body" => done do
      if (← get).inScope .usual "body" then expect .afterBody
    | "html" => do
      if (← get).inScope .usual "body" then retry (expect .afterBody) else return false
    | "form" => done endForm
    | "p" => done do
      unless (← get).inScope .button "p" do insertNamed "p"
      closeParagraph
    | "dd" | "dt" => done (popNamed .usual (some name) name)
    | "li" => done (popNamed .list (some name) name)
    | "a" | "nobr" => done (endFormatting name)
    | "br" => done do
      reopen
      insertNamed "br"
      pop
    | _ => done (popAny name)

end TreePath.Markup.Page.Body
