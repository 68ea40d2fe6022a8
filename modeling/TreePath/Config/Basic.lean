import TreePath.Config.Key
import TreePath.Config.Location
import TreePath.Journal.Record
import TreePath.Json.Reader
import TreePath.Json.Writer
import TreePath.Text.Encoding

/-!
# Configurations

A configuration is a tree of settings together with the path of the file it belongs to. Loading lays
what the file holds over the defaults; if the file is missing, or cannot be understood, the defaults
stand alone. So what was in memory before has no influence on what is there after loading
(`Config.reload`).

Saving opens the file, which empties it, and then writes value by value. A value that cannot be
written is found out only when its turn comes; what was written before it stays in the file.

Whatever else may go wrong with a file, it is reported and the defaults are taken; loading itself
does not fail. Saving does, and says whether there was no file to write to or a value that could not
be written. A configuration does not remember which of its values the file had, so that those
that came from the defaults are saved like all others.
-/

namespace TreePath

/-! ### Reading a file -/

/-- Why a file holds no configuration. -/
inductive LoadError where
  /-- The file cannot be read. -/
  | file (e : FileError)
  /-- The bytes are not a text. -/
  | undecodable
  /-- The text does not stand for a value. -/
  | unreadable (e : Json.ReadError)
  /-- The value is not an object. -/
  | notAnObject
deriving DecidableEq, Repr

/-- The wording of the problem. -/
def LoadError.message : LoadError → String
  | file e => e.message
  | undecodable => "<invalid UTF-8>"
  | unreadable e => e.message
  | notAnObject => "top level of the configuration must be an object"

/-- The section that the bytes of a file spell. -/
def Section.ofBytes (bytes : ByteArray) : Except LoadError Section :=
  match Text.Encoding.utf8.decode? bytes.toList with
  | none => .error .undecodable
  | some text =>
    match Json.read (String.ofList text) with
    | .error e => .error (.unreadable e)
    | .ok (.object members) => .ok members
    | .ok _ => .error .notAnObject

/-- The section that a file holds. -/
def Section.ofFile (s : FileStore) (path : String) : Except LoadError Section :=
  match s.read path with
  | .ok bytes => ofBytes bytes
  | .error e => .error (.file e)

/-! ### Configurations -/

/-- A configuration. -/
structure Config where
  /-- The path of the file it belongs to. -/
  path : String
  /-- The settings. -/
  values : Section

namespace Config

/-- The settings that hold unless a file says otherwise. -/
def defaults : Section :=
  [("logging", .object
      [("console_level", .string "INFO"), ("file_level", .string "DEBUG"), ("file", .null),
        ("to_default_file", .bool false)]),
    ("engine", .object [("strategy", .string "recursive"), ("log_timing", .bool false)]),
    ("parser", .object [("backend", .null), ("keep_whitespace", .bool false)])]

/-- The logger that configurations report to. -/
def source : String := "path_engine.utils.config"

/-- A report about details. -/
def note (message : String) : Record :=
  .plain source .debug message

/-- The report that the defaults stand alone. -/
def defaultsRecord : Record :=
  note "Default configuration set"

/-- The configuration of a path as its file has it, with the reports about it. -/
def load (s : FileStore) (path : String) : Config × List Record :=
  if s.holds path then
    match Section.ofFile s path with
    | .ok members =>
      (⟨path, Section.merge defaults members⟩, [note ("Configuration loaded from " ++ path)])
    | .error e =>
      (⟨path, defaults⟩,
        [.plain source .error ("Error loading configuration: " ++ e.message), defaultsRecord])
  else
    (⟨path, defaults⟩,
      [note ("Configuration file not found at " ++ path ++ ", using defaults"), defaultsRecord])

/-- Loads a configuration again. -/
def reload (s : FileStore) (c : Config) : Config × List Record :=
  load s c.path

/-- The path that a literal is, if it counts as true. A number stands for itself in writing, any
other value is refused. -/
def givenPath (path : Literal) : Except LiteralError (Option String) :=
  if path.truthy then
    match path with
    | .text s => .ok (some s)
    | .int _ | .bool _ => .ok (some path.written)
    | v => .error (.notAPath v.typeName)
  else .ok none

/-- Makes the configuration of a path, or of the default path if the path is missing or empty. -/
def new (s : FileStore) (e : Environment) (path : Option String) : Config × List Record :=
  let path := if path.getD "" = "" then e.defaultConfigPath else path.getD ""
  let (c, records) := load s path
  (c, records ++ [note ("Configuration initialized (config_path: " ++ path ++ ")")])

/-- The value at a key, if there is one. -/
def get? (c : Config) (key : String) : Option Json :=
  c.values.get? (.ofText key)

/-- The value at a key, or else another. -/
def get (c : Config) (key : String) (otherwise : Json) : Json :=
  (c.get? key).getD otherwise

/-- Assigns a value at a key. -/
def set (c : Config) (key : String) (value : Json) : Config :=
  { c with values := c.values.put (.ofText key) value }

/-- The configuration without the value at a key, if there is one. -/
def remove? (c : Config) (key : String) : Option Config :=
  (c.values.drop? (.ofText key)).map fun left ↦ { c with values := left }

/-- Removes the value at a key, if there is one: whether there was one, and what is left. -/
def remove (c : Config) (key : String) : Bool × Config :=
  match c.remove? key with
  | some left => (true, left)
  | none => (false, c)

/-! ### Saving -/

/-- Why a configuration cannot be saved. -/
inductive SaveError where
  /-- The file cannot be written to. -/
  | file (e : FileError)
  /-- A value cannot be written. -/
  | unwritable (e : Json.Unwritable)
deriving DecidableEq, Repr

/-- The class under which the problem is raised. -/
def SaveError.kindName : SaveError → String
  | file e => e.kindName
  | unwritable e => e.kindName

/-- The wording of the problem. -/
def SaveError.message : SaveError → String
  | file e => e.message
  | unwritable e => e.message

/-- Writes a value to an open file, as far as it can be written. -/
def writeTo (address : List String) (v : Json) : EStateM SaveError FileStore Unit := do
  let (written, failure) := Json.text .indented v
  modify fun s ↦ s.append address written
  if let some e := failure then
    throw (.unwritable e)

/-- Saves a configuration to its file; makes the directories above it. -/
def save (c : Config) : EStateM SaveError FileStore Unit := do
  let address ← EStateM.adaptExcept SaveError.file do
    FileStore.makeRoom c.path
    -- what the file held is gone from here on, whatever becomes of the values
    FileStore.openFile c.path true
  writeTo address (.object c.values)

/-- The report of a saved configuration. -/
def savedRecord (c : Config) : Record :=
  note ("Configuration saved to " ++ c.path)

end Config

end TreePath
