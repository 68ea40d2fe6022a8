import TreePath.Calendar
import TreePath.FileStore

/-!
# Where configuration and log files are

Without further word the configuration is in a hidden directory below the user's home directory,
and so are the log files, one a day.

The surroundings are a parameter, with what they say of the home directory and of the file to use. A
path that is given counts before what the surroundings say, and that counts before the hidden
directory; an empty one does not count at all.
-/

namespace TreePath

/-- What the user's surroundings say. -/
structure Environment where
  /-- The home directory. -/
  home : String
  /-- The path of the configuration, if it is given. -/
  configPath : Option String
deriving DecidableEq, Repr

namespace Environment

/-- The home directory without slashes at its end; the top of all directories if nothing is left. -/
def homeDirectory (e : Environment) : String :=
  let short := FilePath.dropSlashes e.home.toList
  if short.isEmpty then "/" else String.ofList short

/-- The directory of the program's own files. -/
def ownDirectory (e : Environment) : String :=
  FilePath.join e.homeDirectory ".path_engine"

/-- The path of the configuration: as given, unless that is empty. -/
def defaultConfigPath (e : Environment) : String :=
  let path := e.configPath.getD ""
  if path = "" then FilePath.join e.ownDirectory "config.json" else path

/-- The path of the log file of a day. -/
def defaultLogFile (e : Environment) (today : Date) : String :=
  FilePath.join (FilePath.join e.ownDirectory "logs") ("path_engine_" ++ today.text ++ ".log")

end Environment

end TreePath
