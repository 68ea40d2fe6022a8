/-!
# Log records

What the library reports while it works: a record has the name of the logger it was given to, a
level, a message, and possibly the exception that it is about. Levels are whole numbers, of which
five have names. Nothing here decides whether a record is shown; that is for the loggers.

The text of an exception is taken when the record is made. That an exception has a text at all is
taken for granted here; one without a text would be no record but another exception.
-/

namespace TreePath

/-- How serious a record is. -/
structure Level where
  /-- The number by which levels are compared. -/
  rank : Int
deriving DecidableEq, Repr, Inhabited

namespace Level

/-- Details of interest to a developer. -/
def debug : Level := ⟨10⟩

/-- The ordinary course of events. -/
def info : Level := ⟨20⟩

/-- Something doubtful. -/
def warning : Level := ⟨30⟩

/-- Something that went wrong. -/
def error : Level := ⟨40⟩

/-- Something that cannot go on. -/
def critical : Level := ⟨50⟩

/-- The levels that have names. -/
def named : List (String × Level) :=
  [("DEBUG", debug), ("INFO", info), ("WARNING", warning), ("ERROR", error), ("CRITICAL", critical)]

/-- How a level is written; one without a name by its number. -/
def name (l : Level) : String :=
  match named.find? fun e ↦ e.2 == l with
  | some e => e.1
  | none => if l.rank == 0 then "NOTSET" else "Level " ++ toString l.rank

instance : LE Level := ⟨fun a b ↦ a.rank ≤ b.rank⟩

instance (a b : Level) : Decidable (a ≤ b) := inferInstanceAs (Decidable (a.rank ≤ b.rank))

end Level

/-- The exception that a record is about. -/
structure Thrown where
  /-- The name of the class. -/
  kind : String
  /-- The text, possibly empty. -/
  text : String
  /-- What the exception was made of, in writing. -/
  argument : String
deriving DecidableEq, Repr

namespace Thrown

/-- The classes of exceptions of this library. -/
def ownKinds : List String :=
  ["PathEngineError", "MalformedPath", "PredicateFailure"]

/-- The name of the class, with the module if it is one of the library's own. -/
def fullKind (e : Thrown) : String :=
  if ownKinds.contains e.kind then "path_engine.errors." ++ e.kind else e.kind

/-- An exception in one line: the name of its class and its text unless that is empty. -/
def report (e : Thrown) : String :=
  if e.text = "" then e.fullKind else e.fullKind ++ ": " ++ e.text

end Thrown

/-- A report. -/
structure Record where
  /-- The name of the logger that the report was given to. -/
  source : String
  /-- How serious it is. -/
  level : Level
  /-- What it says. -/
  message : String
  /-- The exception it is about, if there is one. -/
  exception : Option Thrown
deriving DecidableEq, Repr

/-- The name above all loggers of the library. -/
def Record.root : String := "path_engine"

/-- A report without an exception. -/
def Record.plain (source : String) (level : Level) (message : String) : Record :=
  ⟨source, level, message, none⟩

/-- What is said of an exception when nothing better is known. -/
def Record.unexplained : String := "An exception occurred"

/-- The report of an exception: what is said of it, and its text. -/
def Record.ofThrown (source message : String) (e : Thrown) : Record :=
  ⟨source, .error, message ++ ": " ++ e.text, some e⟩

end TreePath
