import TreePath.Journal.Template
import TreePath.Json.Value

/-!
# Formatters

A formatter makes a line of a record: its template filled in, and below it the exception that the
record is about. A colouring formatter then colours the name of the level where it first occurs in
that text, wherever that is.

The place where the level is coloured is looked for in the finished text, so a message that contains
the name of its level before the template shows it is coloured in its place. A record of a level
without a name has no colour.
-/

namespace TreePath

/-! ### Colours -/

/-- What switches every colour off. -/
def Level.plainColor : String := "\x1b[0m"

/-- What switches the colour of a level on; only levels with names have one. -/
def Level.color? (l : Level) : Option String :=
  if l = debug then some "\x1b[34m"
  else if l = info then some "\x1b[32m"
  else if l = warning then some "\x1b[33m"
  else if l = error then some "\x1b[31m"
  else if l = critical then some "\x1b[31m\x1b[1m"
  else none

/-- A text with the first occurrence of a word replaced. -/
def Text.replaceFirst (word other : List Char) : List Char → List Char
  | [] => if word.isEmpty then other else []
  | c :: rest =>
    if word.isPrefixOf (c :: rest) then other ++ (c :: rest).drop word.length
    else c :: replaceFirst word other rest

/-! ### Formatters -/

/-- A way of making lines. -/
structure Formatter where
  /-- The template. -/
  template : Template
  /-- The pattern of moments, if there is one. -/
  timePattern : Option String
  /-- Whether levels are coloured, as it was asked for; nothing for a formatter that does not know
  of colours. -/
  colored : Option Json

namespace Formatter

/-- A formatter with a template in writing. A missing or empty one stands for the message alone. -/
def ofText (colored : Option Json) (template timePattern : Option String) :
    Except TemplateError Formatter :=
  let written := template.getD ""
  let t : Template := ⟨if written = "" then "%(message)s" else written⟩
  if t.namesField then .ok ⟨t, timePattern, colored⟩ else .error (.noField t.written)

/-- A formatter with a template and a pattern of moments as literals. What does not count as true is
like nothing; what is no text otherwise is refused, the pattern only if the template asks for the
moment. -/
def given (colored : Option Json) (template timePattern : Literal) :
    Except TemplateError Formatter := do
  let text? (refuse : String → TemplateError) (v : Literal) :
      Except TemplateError (Option String) :=
    match v with
    | .text s => .ok (some s)
    | v => if v.truthy then .error (refuse v.typeName) else .ok none
  let f ← ofText colored (← text? .notAText template) none
  if f.template.asksMoment then
    return { f with timePattern := ← text? .notAPattern timePattern }
  else
    return f

/-- The formatter of lines for the console. All that counts as true asks for colours alike; what
does not is kept as it is. -/
def forConsole (colored : Json) : Formatter :=
  ⟨⟨"%(asctime)s [%(levelname)s] %(name)s: %(message)s"⟩, some "%H:%M:%S",
    some (if colored.truthy then .bool true else colored)⟩

/-- The formatter of lines for a file. -/
def forFile : Formatter :=
  ⟨⟨"%(asctime)s [%(levelname)s] %(name)s (%(filename)s:%(lineno)d): %(message)s"⟩,
    some "%Y-%m-%d %H:%M:%S", none⟩

/-- The name of a formatter's class. -/
def className (f : Formatter) : String :=
  if f.colored.isSome then "LogFormatter" else "Formatter"

/-- The text of a record without colours: an exception starts a line of its own. -/
def body (f : Formatter) (o : Occasion) (r : Record) : Except TemplateError (List Char) := do
  if f.template.asksMoment && (f.timePattern.getD "").toList.contains '\x00' then
    throw .nullInPattern
  let filled ← f.template.fill f.timePattern o r
  match r.exception with
  | none => return filled
  | some e =>
    let separator := if filled.getLast? = some '\n' then [] else ['\n']
    return filled ++ separator ++ e.report.toList

/-- A text with the name of a level coloured where it first occurs. -/
def highlight (l : Level) (body : List Char) : List Char :=
  match l.color? with
  | some color =>
    Text.replaceFirst l.name.toList (color ++ l.name ++ Level.plainColor).toList body
  | none => body

/-- The text of a record. -/
def line (f : Formatter) (o : Occasion) (r : Record) : Except TemplateError String := do
  let body ← f.body o r
  return String.ofList (if f.colored.any Json.truthy then highlight r.level body else body)

end Formatter

end TreePath
