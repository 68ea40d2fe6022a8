import TreePath.Entries
import TreePath.FileStore
import TreePath.Journal.Formatter

/-!
# Loggers

Loggers form a tree by their names: what stands before a dot names the logger above. A record given
to a logger is dropped if its level is below the logger's, where a logger without a level of its own
has the one of the nearest logger above it that has; above all loggers the level is `debug`. What is
not dropped goes to the handlers of the logger and of all loggers above it, and each handler drops
what is below its own level.

A `Journal` holds the loggers with what came of all that: the records that were not dropped, the
text on the console, and the files.

The level of the loggers above is not asked again on the way up: a record that its own logger lets
through goes to every handler above, whatever the levels of the loggers there. Handlers write in the
order in which they were added, those of the lower logger first. A line that cannot be made, or not
be written, is left out; the loggers go on.
-/

namespace TreePath

/-- Where records go. -/
inductive Handler where
  /-- Nowhere. -/
  | silent
  /-- To the console. -/
  | console (level : Level) (formatter : Formatter)
  /-- To the end of an open file. -/
  | file (address : List String) (level : Level) (formatter : Formatter)

namespace Handler

/-- The name of a handler's class. -/
def className : Handler → String
  | silent => "NullHandler"
  | console .. => "StreamHandler"
  | file .. => "FileHandler"

/-- The lowest level that a handler lets through. -/
def level : Handler → Level
  | silent => ⟨0⟩
  | console l _ => l
  | file _ l _ => l

/-- The formatter of a handler that has one. -/
def formatter? : Handler → Option Formatter
  | silent => none
  | console _ f => some f
  | file _ _ f => some f

end Handler

/-- A logger: its own level, if it has one, and its handlers. -/
structure Logger where
  /-- The level. -/
  level : Option Level
  /-- The handlers, oldest first. -/
  handlers : List Handler

instance : Inhabited Logger := ⟨⟨none, []⟩⟩

/-- The loggers and what they did. -/
structure Journal where
  /-- The loggers that were changed, by name. -/
  loggers : Entries Logger
  /-- The files. -/
  files : FileStore
  /-- What stands on the console. -/
  console : String
  /-- The records that were not dropped. -/
  records : Array Record

namespace Journal

/-- The journal to start with: the logger of the library has a handler that does nothing. -/
def initial (files : FileStore) : Journal :=
  ⟨[(Record.root, ⟨none, [.silent]⟩)], files, "", #[]⟩

instance : Inhabited Journal := ⟨initial .empty⟩

/-- The logger of a name. -/
def logger (j : Journal) (name : String) : Logger :=
  (j.loggers.get? name).getD default

/-- Changes a logger. -/
def withLogger (j : Journal) (name : String) (l : Logger) : Journal :=
  { j with loggers := j.loggers.put name l }

/-- The names of a logger and of those above it, from the bottom up. -/
def lineage (name : String) : List String :=
  let parts := Text.split '.' name
  (List.range parts.length).map fun k ↦ ".".intercalate (parts.take (parts.length - k))

/-- The level that holds for a logger. -/
def effectiveLevel (j : Journal) (name : String) : Level :=
  ((lineage name).findSome? fun n ↦ (j.logger n).level).getD .debug

/-- The handlers that a record of a logger goes to, in order. -/
def handlersFor (j : Journal) (name : String) : List Handler :=
  (lineage name).flatMap fun n ↦ (j.logger n).handlers

/-- The line that a formatter makes of a record, with its end; nothing if it makes none. -/
def lineOf (f : Formatter) (o : Occasion) (r : Record) : String :=
  match f.line o r with
  | .ok line => line ++ "\n"
  | .error _ => ""

/-- Hands a record to a handler. -/
def deliver (o : Occasion) (r : Record) (j : Journal) (h : Handler) : Journal :=
  if r.level.rank < h.level.rank then j
  else
    match h with
    | .silent => j
    | .console _ f => { j with console := j.console ++ lineOf f o r }
    | .file address _ f => { j with files := j.files.append address (lineOf f o r) }

/-- Gives a record to its logger. -/
def give (o : Occasion) (j : Journal) (r : Record) : Journal :=
  if r.level.rank < (j.effectiveLevel r.source).rank then j
  else
    let j := { j with records := j.records.push r }
    (j.handlersFor r.source).foldl (deliver o r) j

/-- Gives several records to their loggers. -/
def giveAll (o : Occasion) (j : Journal) (rs : List Record) : Journal :=
  rs.foldl (give o) j

end Journal

end TreePath
