import TreePath.Decimal.Fixed
import TreePath.Journal.LevelName
import TreePath.Timer

/-!
# Stopwatches

A stopwatch times the operations of a component and reports to a logger how long they took. The
level of a report is looked at only when there is something to report, and before the duration.

The operations are texts as a rule, but any literal that can be a key will do, and two that are
equal are one operation. To end an operation that was not started is reported and gives no duration.
-/

namespace TreePath

/-- Why a duration cannot be reported. -/
inductive StopwatchError where
  /-- The level is no text. -/
  | level (e : LiteralError)
  /-- The duration is a value of this class. -/
  | notANumber (typeName : String)
  /-- The duration is a text. -/
  | textual
  /-- The duration is too large a number. -/
  | tooLarge
deriving DecidableEq, Repr

namespace StopwatchError

/-- The class under which the problem is raised. -/
def kindName : StopwatchError → String
  | level e => e.kindName
  | notANumber _ => "TypeError"
  | textual => "ValueError"
  | tooLarge => "OverflowError"

/-- The wording of the problem. -/
def message : StopwatchError → String
  | level e => e.message
  | notANumber typeName => "unsupported format string passed to " ++ typeName ++ ".__format__"
  | textual => "Unknown format code 'f' for object of type 'str'"
  | tooLarge => "int too large to convert to float"

end StopwatchError

/-- A stopwatch. -/
structure Stopwatch where
  /-- The name of the logger. -/
  logger : String
  /-- The operations that were started. -/
  timer : Timer Float

namespace Stopwatch

/-- The name of an operation that a literal is, which has to be able to be a key: a text, or else
what is written for it. -/
def operation (name : Literal) : Except LiteralError String :=
  match name, name.unhashable? with
  | .text s, _ => .ok s
  | _, some typeName => .error (.unhashable typeName)
  | v, none => .ok v.written

/-- A stopwatch with nothing started. -/
def new (logger component : String) : Stopwatch :=
  ⟨logger, .new component⟩

/-- Starts an operation. -/
def start (w : Stopwatch) (name : String) (now : Float) : Stopwatch :=
  { w with timer := w.timer.start name now }

/-- A duration in writing, in seconds with four places. -/
def seconds : Literal → Except StopwatchError String
  | .float x => .ok (Decimal.fixedFloat 4 x)
  | .bool b => .ok (Decimal.fixedFloat 4 (if b then 1.0 else 0.0))
  | .int i =>
    match Decimal.Binary.ofFloat (Float.ofInt i) with
    | .infinite _ => .error .tooLarge
    | _ => .ok (Decimal.fixedFloat 4 (Float.ofInt i))
  | .text _ => .error .textual
  | v => .error (.notANumber v.typeName)

/-- The report of a duration, at a level by name. -/
def took (w : Stopwatch) (name : String) (duration level : Literal) :
    Except StopwatchError Record := do
  match Level.ofLiteral .debug level with
  | .error e => throw (.level e)
  | .ok l => return .plain w.logger l (Timer.took w.timer.component name (← seconds duration))

/-- Ends an operation: its duration with the report, and the stopwatch without the operation. What
was not started took no time, and that is reported as a warning. -/
def finish (w : Stopwatch) (name : String) (now : Float) (level : Literal) :
    Except StopwatchError (Float × Record) × Stopwatch :=
  match w.timer.finish? name now with
  | none => (.ok (0.0, .plain w.logger .warning (Timer.notStarted name)), w)
  | some (duration, timer) =>
    ((w.took name (.float duration) level).map fun r ↦ (duration, r), { w with timer })

end Stopwatch

end TreePath
