import TreePath.Calendar.Pattern
import TreePath.Decimal.Reading
import TreePath.Entries
import TreePath.Journal.Record
import TreePath.Literal.Directive
import TreePath.Literal.Operations
import TreePath.Text.Word

/-!
# Line templates

A line of a log is a template with the fields of a record filled in. A field is written as a percent
sign, a name in parentheses and a letter, with flags, a width and a precision between: `%(name)-8s`
is a name filled up with blanks to eight characters (`TreePath.Literal.Directive`). Two percent
signs stand for one, everything else for itself.

Any text can be taken apart into pieces, faulty ones among them (`Template.pieces`), and a fault
counts only when its turn comes. So of two faults the first in the text is reported, and a template
is refused from the start only if nothing in it looks like a field (`Template.namesField`).
-/

namespace TreePath

/-! ### Fields of records -/

/-- When and where a record was given. -/
structure Occasion where
  /-- When. -/
  moment : Moment
  /-- The name of the file. -/
  fileName : String
  /-- The number of the line. -/
  line : Nat
deriving DecidableEq, Repr

/-- The name of a file without what follows its last dot. -/
def Occasion.moduleName (o : Occasion) : String :=
  let reversed := o.fileName.toList.reverse
  match reversed.dropWhile (· != '.') with
  | '.' :: rest => if rest.isEmpty then o.fileName else String.ofList rest.reverse
  | _ => o.fileName

/-- A moment in writing: by a pattern, if there is one that is not empty. -/
def Occasion.momentText (o : Occasion) (timePattern : Option String) : String :=
  let pattern := timePattern.getD ""
  if pattern = "" then o.moment.text else o.moment.format pattern

/-- The class of an exception, the exception itself, and nothing for where it was thrown. -/
def Thrown.parts (e : Thrown) : Literal :=
  .tuple [.other "type" ("<class '" ++ e.fullKind ++ "'>"),
    .other e.kind (e.kind ++ "(" ++ e.argument ++ ")"), .none]

/-- The fields of a record by name. Of the process that gave it nothing is known but the names. -/
def Record.fields (o : Occasion) (r : Record) : Entries Literal := [
  ("name", .text r.source), ("msg", .text r.message), ("args", .none),
  ("levelname", .text r.level.name), ("levelno", .int r.level.rank),
  ("pathname", .text o.fileName), ("filename", .text o.fileName), ("module", .text o.moduleName),
  ("exc_info", (r.exception.map Thrown.parts).getD .none), ("exc_text", .none),
  ("stack_info", .none), ("lineno", .int o.line), ("funcName", .none),
  ("created", .float (Float.ofInt o.moment.secondsSinceEpoch)),
  ("msecs", .float (Float.ofNat o.moment.millisecond)), ("relativeCreated", .float 0.0),
  ("thread", .int 0), ("threadName", .text "MainThread"), ("processName", .text "MainProcess"),
  ("process", .int 0), ("message", .text r.message)]

/-! ### Faults -/

/-- Why a template cannot be filled in. -/
inductive TemplateError where
  /-- Nothing in the template looks like a field. -/
  | noField (template : String)
  /-- A record has no field of this name. -/
  | unknownField (name : String)
  /-- The name of a field does not end. -/
  | openName
  /-- A field does not end. -/
  | openField
  /-- A width is too large a number. -/
  | widthTooBig
  /-- A precision is too large a number. -/
  | precisionTooBig
  /-- A width or precision is to be taken from a value that is no whole number. -/
  | starNotWhole
  /-- A width or precision is to be taken from too large a number for its sort. -/
  | starTooLarge (sort : String)
  /-- A field without a name comes after one that has used its value up. -/
  | notEnough
  /-- The value of a field does not suit its letter. -/
  | directive (e : DirectiveError)
  /-- The pattern of moments has the character with number zero in it. -/
  | nullInPattern
  /-- The template is no text but of this class. -/
  | notAText (typeName : String)
  /-- The pattern of moments is no text but of this class. -/
  | notAPattern (typeName : String)
deriving DecidableEq, Repr

namespace TemplateError

/-- The class under which a fault is raised. -/
def kindName : TemplateError → String
  | starNotWhole | notEnough | notAText _ | notAPattern _ => "TypeError"
  | starTooLarge _ => "OverflowError"
  | directive e => e.kindName
  | _ => "ValueError"

/-- The wording of a fault. -/
def message : TemplateError → String
  | noField template => "Invalid format '" ++ template ++ "' for '%' style"
  | unknownField name => "Formatting field not found in record: " ++ Text.quoted name
  | openName => "incomplete format key"
  | openField => "incomplete format"
  | widthTooBig => "width too big"
  | precisionTooBig => "precision too big"
  | starNotWhole => "* wants int"
  | starTooLarge sort => "Python int too large to convert to C " ++ sort
  | notEnough => "not enough arguments for format string"
  | directive e => e.message
  | nullInPattern => "embedded null character"
  | notAText typeName => "expected string or bytes-like object, got '" ++ typeName ++ "'"
  | notAPattern typeName => "strftime() argument 1 must be str, not " ++ typeName

end TemplateError

/-! ### Pieces -/

/-- A width or a precision. -/
inductive FieldSize where
  /-- None. -/
  | absent
  /-- A number. -/
  | given (n : Nat)
  /-- A number that is to be taken from the value. -/
  | taken
deriving DecidableEq, Repr

/-- A field of a template, as far as it can be made out. -/
structure Slot where
  /-- The name, if there is one. -/
  name : Option String
  /-- The flags. -/
  flags : List Char
  /-- The width. -/
  width : FieldSize
  /-- The precision. -/
  precision : FieldSize
  /-- The code point of the letter and its place, or what is wrong before it. -/
  letter : Except TemplateError (Nat × Nat)

/-- A piece of a template. -/
inductive Piece where
  /-- A character that stands for itself. -/
  | plain (c : Char)
  /-- A field. -/
  | slot (s : Slot)
  /-- A name of a field that does not end. -/
  | openName

/-- A template. -/
structure Template where
  /-- As it is written. -/
  written : String
deriving DecidableEq, Repr

namespace Template

/-! ### Taking a template apart -/

/-- The name up to its closing parenthesis, parentheses within counted, and the text after it. -/
def name? : Nat → List Char → Option (List Char × List Char)
  | _, [] => none
  | 0, ')' :: rest => some ([], rest)
  | depth + 1, ')' :: rest => (name? depth rest).map fun r ↦ (')' :: r.1, r.2)
  | depth, '(' :: rest => (name? (depth + 1) rest).map fun r ↦ ('(' :: r.1, r.2)
  | depth, c :: rest => (name? depth rest).map fun r ↦ (c :: r.1, r.2)

/-- Whether a character is a flag of a field. -/
def isFlag (c : Char) : Bool :=
  "#0+- ".toList.contains c

/-- A size at the front of a text, and the text after it. -/
def size (s : List Char) : FieldSize × List Char :=
  match s with
  | '*' :: rest => (.taken, rest)
  | s =>
    let digits := s.takeWhile Char.isDigit
    if digits.isEmpty then (.absent, s)
    else (.given (digits.foldl (fun n c ↦ 10 * n + (c.toNat - 48)) 0), s.dropWhile Char.isDigit)

/-- Whether a size is larger than a limit. -/
def exceeds (limit : Nat) : FieldSize → Bool
  | .given n => limit < n
  | _ => false

/-- The largest width. -/
def widthLimit : Nat := 0x7fffffffffffffff

/-- The largest precision. -/
def precisionLimit : Nat := 0x7fffffff

/-- The precision at the front of a text; a point alone stands for zero. -/
def precision (s : List Char) : FieldSize × List Char :=
  match s with
  | '.' :: rest =>
    match size rest with
    | (.absent, rest) => (.given 0, rest)
    | r => r
  | s => (.absent, s)

/-- The letter at the front of a text, before which a mark of size may stand, with its place in a
template of so many code points; and the text after it. -/
def letter (total : Nat) (s : List Char) : Except TemplateError (Nat × Nat) × List Char :=
  let s := match s with
    | c :: rest => if c == 'h' || c == 'l' || c == 'L' then rest else s
    | [] => s
  match Text.points s with
  | n :: rest => (.ok (n, total - (rest.length + 1)), Text.ofPoints rest)
  | [] => (.error .openField, [])

/-- The field that starts after its percent sign and its name, and the text after it. -/
def slot (total : Nat) (name : Option String) (s : List Char) : Slot × List Char :=
  let flags := s.takeWhile isFlag
  let (width, rest) := size (s.dropWhile isFlag)
  if exceeds widthLimit width then
    (⟨name, flags, .absent, .absent, .error .widthTooBig⟩, rest)
  else
    let (places, rest) := precision rest
    if exceeds precisionLimit places then
      (⟨name, flags, width, .absent, .error .precisionTooBig⟩, rest)
    else
      let (found, rest) := letter total rest
      (⟨name, flags, width, places, found⟩, rest)

/-- The pieces of a text that is the rest of a template of so many code points. Every piece takes at
least one character, so a fuel of the number of characters is enough. -/
def scan (total : Nat) : Nat → List Char → List Piece
  | 0, _ => []
  | _ + 1, [] => []
  | fuel + 1, '%' :: rest =>
    match rest with
    | '(' :: inside =>
      match name? 0 inside with
      | some (name, rest) =>
        let (found, rest) := slot total (some (String.ofList name)) rest
        .slot found :: scan total fuel rest
      | none => [.openName]
    | '%' :: rest => .plain '%' :: scan total fuel rest
    | rest =>
      let (found, rest) := slot total none rest
      .slot found :: scan total fuel rest
  | fuel + 1, c :: rest => .plain c :: scan total fuel rest

/-- The pieces of a template. -/
def pieces (t : Template) : List Piece :=
  scan (Text.size t.written.toList) t.written.length t.written.toList

/-! ### What looks like a field -/

/-- The letters that a field is looked for by; three characters of other scripts have one of them
for their small or capital letter. -/
def fieldLetters : List Char := "diouxefgcrsa%DIOUXEFGCRSA\u0130\u0131\u017f".toList

/-- A decimal digit of any script. -/
def isAnyDigit (c : Char) : Bool :=
  (Decimal.digitValue? c).isSome

/-- The text after a size, if there is one. -/
def dropSize (s : List Char) : List Char :=
  match s with
  | '*' :: rest => rest
  | s => s.dropWhile isAnyDigit

/-- Whether a text starts with what looks like a field: a name of letters, digits and underscores,
flags, sizes and a letter. -/
def startsField (s : List Char) : Bool :=
  match s with
  | '%' :: '(' :: rest =>
    match rest.takeWhile Text.isWordChar, rest.dropWhile Text.isWordChar with
    | _ :: _, ')' :: rest =>
      let rest := dropSize (rest.dropWhile isFlag)
      let rest := match rest with
        | '.' :: places => if dropSize places = places then rest else dropSize places
        | rest => rest
      match rest with
      | c :: _ => fieldLetters.contains c
      | [] => false
    | _, _ => false
  | _ => false

/-- Whether anything in a text looks like a field. -/
def holdsField : List Char → Bool
  | [] => false
  | c :: rest => startsField (c :: rest) || holdsField rest

/-- Whether anything in a template looks like a field. -/
def namesField (t : Template) : Bool :=
  holdsField t.written.toList

/-- Whether a template asks for the moment, which is no field of a record otherwise. -/
def asksMoment (t : Template) : Bool :=
  Text.occurs "%(asctime)".toList t.written.toList

/-! ### Filling in -/

/-- The number that a size within a limit stands for, and what is left of the value it may be taken
from. -/
def sizeOf (limit : Nat) (sort : String) (value : Option Literal) :
    FieldSize → Except TemplateError (Option Int × Option Literal)
  | .absent => .ok (none, value)
  | .given n => .ok (some n, value)
  | .taken =>
    match value.map fun v ↦ v.whole? with
    | none => .error .notEnough
    | some none => .error .starNotWhole
    | some (some i) =>
      if i < -(limit : Int) - 1 || (limit : Int) < i then .error (.starTooLarge sort)
      else .ok (some i, none)

/-- A field filled in. A field without a name goes on with the value of the field before it, if that
has not used it up. -/
def fillSlot (fields : Entries Literal) (value : Option Literal) (s : Slot) :
    Except TemplateError (List Char) := do
  let value ← match s.name with
    | none => pure value
    | some name =>
      match fields.get? name with
      | some v => pure (some v)
      | none => throw (.unknownField name)
  let (width, value) ← sizeOf widthLimit "ssize_t" value s.width
  let (precision, value) ← sizeOf precisionLimit "int" value s.precision
  let (letter, place) ← s.letter
  match value with
  | none => throw .notEnough
  | some v =>
    let w := width.getD 0
    let has (c : Char) : Bool := s.flags.contains c
    if letter ≠ (Char.ofNat letter).toNat then
      throw (.directive (.unknownLetter letter place))
    let d : Directive :=
      ⟨has '-' || w < 0, has '+', has ' ', has '#', has '0', w.natAbs, precision.map Int.toNat,
        Char.ofNat letter, place⟩
    match d.write v with
    | .ok text => return text
    | .error e => throw (.directive e)

/-- Pieces with fields filled in. -/
def fillAll (fields : Entries Literal) : Option Literal → List Piece →
    Except TemplateError (List Char)
  | _, [] => .ok []
  | value, .plain c :: rest => (fillAll fields value rest).map (c :: ·)
  | _, .openName :: _ => .error .openName
  | value, .slot s :: rest => do
    let text ← fillSlot fields value s
    return text ++ (← fillAll fields none rest)

/-- The template with the fields of a record filled in. Before the first name the record as a whole
is the value. -/
def fill (t : Template) (timePattern : Option String) (o : Occasion) (r : Record) :
    Except TemplateError (List Char) :=
  let moment := if t.asksMoment then [("asctime", .text (o.momentText timePattern))] else []
  let fields := r.fields o ++ moment
  fillAll fields (some (.mapping (fields.map fun e ↦ (.text e.1, e.2)))) t.pieces

end Template

end TreePath
