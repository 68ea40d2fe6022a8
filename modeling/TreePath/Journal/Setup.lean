import TreePath.Config.Basic
import TreePath.Journal.Logger
import TreePath.Journal.LevelName
import TreePath.Literal.OfJson

/-!
# Setting up a logger

Setting up gives a logger a level and a handler for the console, and one for a file if a file is
named. A logger that has handlers is left alone.

The steps are taken one after the other. The directory of the log file is made, and the file opened,
only when the logger has its level and its handler for the console already; if that fails, both
stay, and since the logger then has a handler, setting it up again does nothing.

The settings are literals, as callers and configurations give them: what counts as true asks for a
component or for a file, and a level that is no text is refused. Both levels are looked at before
anything is done.
-/

namespace TreePath

/-- How a logger is to be set up. The settings are as a caller or a configuration gives them. -/
structure Setup where
  /-- The path of the log file, if there is to be one. -/
  logFile : Json
  /-- The level of the console. -/
  consoleLevel : Json
  /-- The level of the file. -/
  fileLevel : Json
  /-- The component whose logger is meant, if it is not the one of the whole library. -/
  component : Json
  /-- Whether the console shows colours. -/
  colored : Json

namespace Setup

/-- The setup that is used when nothing is asked for. -/
def standard : Setup :=
  ⟨.null, .string "INFO", .string "DEBUG", .null, .bool true⟩

/-- The setup that a configuration asks for. A log file may be named, or else be the one of the
day. -/
def ofConfig (c : Config) (e : Environment) (today : Date) : Setup :=
  let named := c.get "logging.file" .null
  let byDay := (c.get "logging.to_default_file" (.bool false)).truthy
  { standard with
    logFile := if !named.truthy && byDay then .string (e.defaultLogFile today) else named
    consoleLevel := c.get "logging.console_level" standard.consoleLevel
    fileLevel := c.get "logging.file_level" standard.fileLevel }

/-- The name of the logger that is meant. -/
def loggerName (s : Setup) : String :=
  if s.component.truthy then
    Record.root ++ "." ++
      match s.component with
      | .string name => name
      | v => (Literal.ofJson v).written
  else Record.root

end Setup

/-- Why a logger cannot be set up. -/
inductive SetupError where
  /-- A level is no text. -/
  | level (e : LiteralError)
  /-- The path of the log file is a value of this class. -/
  | notAPath (typeName : String)
  /-- The log file cannot be opened. -/
  | file (e : FileError)
  /-- There is no setting of this name. -/
  | unknownSetting (name : String)
deriving DecidableEq, Repr

namespace SetupError

/-- The class under which the problem is raised. -/
def kindName : SetupError → String
  | level e => e.kindName
  | notAPath _ | unknownSetting _ => "TypeError"
  | file e => e.kindName

/-- The wording of the problem. -/
def message : SetupError → String
  | level e => e.message
  | notAPath typeName => "expected str, bytes or os.PathLike object, not " ++ typeName
  | file e => e.message
  | unknownSetting name =>
    "setup_logging() got an unexpected keyword argument " ++ "'" ++ name ++ "'"

end SetupError

/-- The setup with the given settings by name; what is not given is as in the standard setup. -/
def Setup.given (settings : List (String × Json)) : Except SetupError Setup :=
  settings.foldlM (fun s e ↦
    match e.1 with
    | "log_file" => .ok { s with logFile := e.2 }
    | "console_level" => .ok { s with consoleLevel := e.2 }
    | "file_level" => .ok { s with fileLevel := e.2 }
    | "component" => .ok { s with component := e.2 }
    | "colored" => .ok { s with colored := e.2 }
    | name => .error (.unknownSetting name)) standard

namespace Journal

/-- A computation that sets loggers up. It keeps what it did when it fails. -/
abbrev Arranging := EStateM SetupError Journal

/-- The level that a setting names. -/
def chosenLevel (otherwise : Level) (v : Json) : Arranging Level :=
  match Level.ofLiteral otherwise (.ofJson v) with
  | .ok l => pure l
  | .error e => throw (.level e)

/-- Uses the files. -/
def withFiles {α : Type} (w : FileStore.Storing α) : Arranging α := fun j ↦
  match w j.files with
  | .ok a files => .ok a { j with files }
  | .error e files => .error (.file e) { j with files }

/-- Gives a logger another handler. -/
def addHandler (name : String) (h : Handler) : Arranging Unit :=
  modify fun j ↦
    let l := j.logger name
    j.withLogger name { l with handlers := l.handlers ++ [h] }

/-- Gives a logger a level. -/
def assignLevel (name : String) (l : Level) : Arranging Unit :=
  modify fun j ↦ j.withLogger name { j.logger name with level := some l }

/-- Opens the log file of a setting and gives it to a logger. -/
def addFile (name : String) (logFile : Json) (l : Level) : Arranging Unit := do
  match logFile with
  | .string path =>
    let address ← withFiles do
      FileStore.makeRoom path
      FileStore.openFile path false
    addHandler name (.file address l .forFile)
  | v => throw (.notAPath (Literal.ofJson v).typeName)

/-- Sets a logger up, unless it has handlers. -/
def arrange (s : Setup) : Arranging Unit := do
  let name := s.loggerName
  if ((← get).logger name).handlers.isEmpty then
    -- both levels are looked up first, the second even if no file is named
    let consoleLevel ← chosenLevel .info s.consoleLevel
    let fileLevel ← chosenLevel .debug s.fileLevel
    let lower := if fileLevel.rank < consoleLevel.rank then fileLevel else consoleLevel
    assignLevel name (if s.logFile.truthy then lower else consoleLevel)
    addHandler name (.console consoleLevel (.forConsole s.colored))
    -- the file comes last, so that the rest has been done if it cannot be opened
    if s.logFile.truthy then
      addFile name s.logFile fileLevel

end Journal

end TreePath
