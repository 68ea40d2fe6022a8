import TreePath.Markup.Page.Basic

/-!
# Building pages

The steps that a page is built in: elements are made, put into one another and moved; character data
next to character data becomes one text; open elements are closed.

Two steps look after badly nested markup. What cannot stand in a table goes before it
(`fosterPlace`), and formatting elements that were closed with an element around them are opened
again (`reopen`).

A step that takes in a token answers whether the token is to be taken again. Where that may happen
in any mode, a function is handed a `Handler` for it, since the modes are defined later
(`TreePath.Markup.Page.Reader`).
-/

namespace TreePath.Markup

/-- A computation that builds a page. -/
abbrev Building := EStateM MarkupError Page

namespace Page

/-! ### Tokens taken in -/

/-- What is done with a token in a mode. It answers whether the token is to be taken again. -/
abbrev Handler := Mode → Token → Building Bool

/-- A step after which the token is done with. -/
def done (b : Building Unit) : Building Bool := do
  b
  return false

/-- A step after which the token is taken again. -/
def retry (b : Building Unit) : Building Bool := do
  b
  return true

/-- A step after which the token is taken again, for a token that counts only under a condition. -/
def retryIf (counts : Bool) (b : Building Unit) : Building Bool :=
  if counts then retry b else return false

/-! ### Elements -/

/-- Changes the element of a number. -/
def change (i : Nat) (f : Element → Element) : Building Unit :=
  modify fun p ↦ { p with elements := p.elements.modify i f }

/-- Makes an element that stands nowhere. -/
def make (v : Vocabulary) (name : String) (attributes : List (String × String)) : Building Nat :=
  modifyGet fun p ↦
    (p.elements.size, { p with elements := p.elements.push ⟨name, v, attributes, [], none, none⟩ })

/-- Takes an element out of the one that it stands in. -/
def detach (i : Nat) : Building Unit := do
  match ((← get).element i).home with
  | none => return
  | some j =>
    change j fun e ↦ { e with contents := e.contents.filter (· != .element i) }
    change i fun e ↦ { e with home := none }

/-- Puts an element at the end of another. -/
def append (host i : Nat) : Building Unit := do
  detach i
  change i fun e ↦ { e with home := some host, host := some host }
  change host fun e ↦ { e with contents := e.contents ++ [.element i] }

/-- Items with character data after them, which joins a text at their end. -/
def joinText (items : List Item) (s : List Char) : List Item :=
  match items.getLast? with
  | some (.text t) => items.dropLast ++ [.text (t ++ s)]
  | _ => items ++ [.text s]

/-- Puts character data at the end of an element. -/
def appendText (host : Nat) (s : List Char) : Building Unit :=
  change host fun e ↦ { e with contents := joinText e.contents s }

/-- Puts a string of a kind at the end of an element. -/
def appendString (host : Nat) (kind : StringKind) (s : List Char) : Building Unit :=
  change host fun e ↦ { e with contents := e.contents ++ [.string kind s] }

/-- The place of an element in another. -/
def placeIn (host i : Nat) : Building Nat := do
  match ((← get).element host).contents.findIdx? (· == .element i) with
  | some k => return k
  | none => throw .misplaced

/-- Puts an element before one that stands in another. -/
def insertBefore (host i next : Nat) : Building Unit := do
  detach i
  let k ← placeIn host next
  change i fun e ↦ { e with home := some host, host := some host }
  change host fun e ↦ { e with contents := e.contents.take k ++ .element i :: e.contents.drop k }

/-- Puts character data before an element that stands in another. It joins a text there; a first
place looks for that text at the end. -/
def insertTextBefore (host next : Nat) (s : List Char) : Building Unit := do
  let k ← placeIn host next
  change host fun e ↦
    let before := e.contents.take k
    let after := e.contents.drop k
    let join (items : List Item) : Option (List Item) :=
      match items.getLast? with
      | some (.text _) => some (joinText items s)
      | _ => none
    let contents :=
      if k == 0 then (join after).getD (.text s :: after)
      else (join before).getD (before ++ [.text s]) ++ after
    { e with contents := contents }

/-- Moves all that stands in an element to the end of another. -/
def moveContents (source target : Nat) : Building Unit := do
  let items := ((← get).element source).contents
  for item in items do
    match item with
    | .element i => change i fun e ↦ { e with home := some target }
    | _ => pure ()
  change source fun e ↦ { e with contents := [] }
  change target fun e ↦ { e with contents := e.contents ++ items }

/-- Makes an element like another, with nothing in it. -/
def copy (i : Nat) : Building Nat := do
  let e := (← get).element i
  make e.vocabulary e.name e.attributes

/-- Gives an element those attributes that it does not have. -/
def addAttributes (i : Nat) (attributes : List (String × String)) : Building Unit :=
  change i fun e ↦
    { e with attributes := e.attributes ++
        attributes.filter fun a ↦ e.attributes.all fun b ↦ b.1 != a.1 }

/-! ### Open elements -/

/-- Sets what is expected next. -/
def expect (m : Mode) : Building Unit :=
  modify fun p ↦ { p with mode := m }

/-- Forbids frames. -/
def forbidFrames : Building Unit :=
  modify fun p ↦ { p with framesAllowed := false }

/-- Opens an element that has its place. -/
def push (i : Nat) : Building Unit :=
  modify fun p ↦ { p with stack := i :: p.stack }

/-- Closes the innermost open element. -/
def pop : Building Unit :=
  modify fun p ↦ { p with stack := p.stack.drop 1 }

/-- Closes open elements up to this one and itself. -/
def popElement (i : Nat) : Building Unit :=
  modify fun p ↦ { p with stack := (p.stack.dropWhile (· != i)).drop 1 }

/-- Takes an element from the open ones. -/
def unstack (i : Nat) : Building Unit :=
  modify fun p ↦ { p with stack := p.stack.erase i }

/-- Closes open elements up to one of given names, which stays open. -/
def popTo (names : List String) : Building Unit :=
  modify fun p ↦ { p with stack := p.stack.dropWhile fun i ↦ !names.contains (p.nameAt i) }

/-- Closes open elements up to one of given names and this one. -/
def popThrough (names : List String) : Building Unit := do
  popTo names
  pop

/-- Closes elements whose end tag may be left out, except of a name. -/
def closeImplied (except : Option String) : Building Unit :=
  modify fun p ↦
    { p with stack := p.stack.dropWhile fun i ↦
        let name := p.nameAt i
        impliedNames.contains name && except != some name }

/-- Closes the innermost open element of a name and all in it, if it is open within a bound.
Elements whose end tag may be left out are closed first, except of a name. -/
def popNamed (b : Bound) (except : Option String) (name : String) : Building Unit := do
  if (← get).inScope b name then
    closeImplied except
    popThrough [name]

/-- Closes the innermost open element of a name and all in it, unless an element that is more than a
run of text stands between. -/
def popAny (name : String) : Building Unit := do
  let p ← get
  match p.stack.find? fun i ↦ p.nameAt i == name || (p.element i).isSpecial with
  | none => return
  | some i =>
    if p.nameAt i == name then
      closeImplied (some name)
      popElement i

/-! ### Places -/

/-- Where that goes which cannot stand in the innermost open table: an element, and the table in it
that it goes before. -/
def fosterPlace (p : Page) : Nat × Option Nat :=
  match p.stack.find? fun i ↦ p.nameAt i == "table" with
  | none => (p.root, none)
  | some t =>
    match (p.element t).host with
    | some host => (host, some t)
    | none => (((p.stack.dropWhile (· != t)).drop 1).headD 0, none)

/-- Whether what comes next goes before a table. -/
def fosters (p : Page) : Bool :=
  p.foster && tableNames.contains p.currentName

/-- Puts an element where that goes which cannot stand in the innermost open table. -/
def placeFostered (i : Nat) : Building Unit := do
  match (← get).fosterPlace with
  | (host, some next) => insertBefore host i next
  | (host, none) => append host i

/-- Makes an element in its place and opens it. -/
def insertAs (v : Vocabulary) (name : String) (attributes : List (String × String)) :
    Building Unit := do
  let i ← make v name attributes
  let p ← get
  if p.fosters then placeFostered i else append p.current i
  push i

/-- Makes the element of a tag in its place and opens it. -/
def insert (t : Tag) : Building Unit :=
  insertAs .html t.name t.attributes

/-- Makes an element of a name in its place and opens it. -/
def insertNamed (name : String) : Building Unit :=
  insertAs .html name []

/-- Makes the element of a tag in its place; it has no contents. -/
def insertVoid (t : Tag) : Building Unit := do
  insert t
  pop

/-- Puts character data in its place. -/
def insertText (s : List Char) : Building Unit := do
  let p ← get
  if p.fosters then
    match p.fosterPlace with
    | (host, some next) => insertTextBefore host next s
    | (host, none) => appendText host s
  else appendText p.current s

/-- Puts a comment at the end of the innermost open element. -/
def insertComment (s : List Char) : Building Unit := do
  appendString (← get).current .comment s

/-- Makes the element of a tag whose contents are raw. -/
def insertRaw (t : Tag) (scanning : Scanning) : Building Unit := do
  insert t
  modify fun p ↦ { p with scanning := scanning, rawReturn := p.mode, mode := .raw }

/-! ### Formatting elements -/

/-- Takes an element from the formatting ones. -/
def unformat (i : Nat) : Building Unit :=
  modify fun p ↦ { p with formatting := p.formatting.erase (some i) }

/-- Marks the begin of a part that is closed in itself. -/
def markFormatting : Building Unit :=
  modify fun p ↦ { p with formatting := none :: p.formatting }

/-- Forgets the formatting elements of the last part that is closed in itself. -/
def clearFormatting : Building Unit :=
  modify fun p ↦ { p with formatting := (p.formatting.dropWhile (·.isSome)).drop 1 }

/-- The last formatting element of a name in the last part that is closed in itself. -/
def formatting? (p : Page) (name : String) : Option Nat :=
  ((p.formatting.takeWhile (·.isSome)).filterMap id).find? fun i ↦ p.nameAt i == name

/-- Opens again a formatting element and puts it into the list in place of the old one. -/
def reopenOne (i : Nat) : Building Unit := do
  let e := (← get).element i
  insertAs e.vocabulary e.name e.attributes
  modify fun p ↦
    { p with formatting := p.formatting.map fun f ↦ if f == some i then some p.current else f }

/-- Opens again the formatting elements after the last that is still open. -/
def reopen : Building Unit := do
  let p ← get
  let lost := p.formatting.takeWhile fun f ↦ f.elim false fun i ↦ !p.stack.contains i
  for i in (lost.filterMap id).reverse do
    reopenOne i

/-- Makes the formatting element of a tag in its place and opens it. -/
def insertFormatting (t : Tag) : Building Unit := do
  insert t
  modify fun p ↦ { p with formatting := some p.current :: p.formatting }

end Page

end TreePath.Markup
