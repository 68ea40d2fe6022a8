import TreePath.Text.Split
import TreePath.Text.Utf8

/-!
# Files and directories

What the program needs of a file system: places that hold bytes or are directories, a way to read,
and ways to write that may fail and keep what they did before they failed. A place is found by its
names one after the other, each of which has to be the one of a directory if another name comes
after it. An empty name does not count, a single dot stands for the place that is reached already,
and two dots for the one above it.

Opening a file for writing empties it at once. What is written afterwards is added to the file piece
by piece, so a file whose writer gives up half-way holds the first half.

A path may name a place in many ways, and every function resolves it first. What a path can be is
limited: it holds no null, its names have bytes, and neither they nor the whole are too long. Nobody
else changes the store, there are no permissions, and a disk has room for everything; what fails
here is what fails because of what is where.
-/

namespace TreePath

/-! ### Names of places -/

namespace FilePath

/-- A text without the slashes at its end. -/
def dropSlashes (s : List Char) : List Char :=
  (s.reverse.dropWhile (· == '/')).reverse

/-- The text up to the last slash, and the text after it. The first part loses its slashes at the
end unless it has nothing else. -/
def splitLast (path : String) : String × String :=
  let reversed := path.toList.reverse
  let tail := (reversed.takeWhile (· != '/')).reverse
  let head := (reversed.dropWhile (· != '/')).reverse
  let short := dropSlashes head
  (String.ofList (if short.isEmpty then head else short), String.ofList tail)

/-- The directory that a path names a place of; empty if it names none. -/
def parent (path : String) : String :=
  (splitLast path).1

/-- The path of a name in a directory. -/
def join (directory name : String) : String :=
  if directory.toList.getLast? = some '/' then directory ++ name else directory ++ "/" ++ name

/-- The names that lead to a place; the top of all places counts as a name. -/
def names (path : String) : List String :=
  (if path.toList.head? = some '/' then ["/"] else []) ++
    (Text.split '/' path).filter fun name ↦ name != ""

end FilePath

/-! ### Failures -/

/-- Why a place cannot be used. -/
inductive FileError where
  /-- Nothing is there. -/
  | notFound (path : String)
  /-- Something is there already. -/
  | occupied (path : String)
  /-- A directory on the way is none. -/
  | notDirectory (path : String)
  /-- A directory is there instead of a file. -/
  | isDirectory (path : String)
  /-- A name on the way, or the path as a whole, is too long. -/
  | tooLong (path : String)
  /-- No path has the character with number zero in it. -/
  | hasNull
  /-- No path has these halves of surrogate pairs in it. -/
  | hasHalves (r : Text.HalfRun)
deriving DecidableEq, Repr

namespace FileError

/-- The class under which a failure is raised. -/
def kindName : FileError → String
  | notFound _ => "FileNotFoundError"
  | occupied _ => "FileExistsError"
  | notDirectory _ => "NotADirectoryError"
  | isDirectory _ => "IsADirectoryError"
  | tooLong _ => "OSError"
  | hasNull => "ValueError"
  | hasHalves _ => "UnicodeEncodeError"

/-- The wording of a failure. -/
def message : FileError → String
  | notFound path => "[Errno 2] No such file or directory: " ++ Text.quoted path
  | occupied path => "[Errno 17] File exists: " ++ Text.quoted path
  | notDirectory path => "[Errno 20] Not a directory: " ++ Text.quoted path
  | isDirectory path => "[Errno 21] Is a directory: " ++ Text.quoted path
  | tooLong path => "[Errno 36] File name too long: " ++ Text.quoted path
  | hasNull => "embedded null byte"
  | hasHalves r => r.message

end FileError

/-! ### The store -/

/-- What is at a place. -/
inductive Place where
  /-- A file with its bytes. -/
  | file (bytes : ByteArray)
  /-- A directory. -/
  | directory

/-- Files and directories by the names that lead to them. -/
structure FileStore where
  /-- The places, oldest first. -/
  places : List (List String × Place)

instance : Inhabited FileStore := ⟨⟨[]⟩⟩

namespace FileStore

/-- A store with nothing in it. -/
def empty : FileStore := ⟨[]⟩

/-- What is at an address. The address without names is the directory where relative paths start;
it and what is above it are directories, and so is the top of all places. -/
def placeAt? (s : FileStore) (address : List String) : Option Place :=
  if address.all (· == "..") ∨ address = ["/"] then some .directory
  else (s.places.find? fun e ↦ e.1 == address).map Prod.snd

/-- Puts something at an address. -/
def putAt (s : FileStore) (address : List String) (p : Place) : FileStore :=
  if s.places.any fun e ↦ e.1 == address then
    ⟨s.places.map fun e ↦ if e.1 == address then (address, p) else e⟩
  else ⟨s.places ++ [(address, p)]⟩

/-- The most bytes that a name has. -/
def nameLimit : Nat := 255

/-- The most bytes that a path has. -/
def pathLimit : Nat := 4095

/-- The address that a name leads to from another. -/
def next (here : List String) (name : String) : List String :=
  if name = "." then here
  else if name ≠ ".." then here ++ [name]
  else if here = ["/"] then here
  else if here.all (· == "..") then here ++ [name]
  else here.dropLast

/-- The address that names lead to from another: every name but the last has to be the one of a
directory, and no name is too long. -/
def follow (s : FileStore) (path : String) : List String → List String →
    Except FileError (List String)
  | here, [] => .ok here
  | here, name :: rest =>
    if nameLimit < Text.byteLength name then .error (.tooLong path)
    else
    let next := next here name
    match rest with
    | [] => .ok next
    | _ :: _ =>
      match s.placeAt? next with
      | some .directory => s.follow path next rest
      | some (.file _) => .error (.notDirectory path)
      | none => .error (.notFound path)

/-- The address of a path, which must be fit to be one. -/
def resolve (s : FileStore) (path : String) : Except FileError (List String) :=
  let points := Text.points path.toList
  if let some r := Text.fileHalves? (points.length + 1) 0 points then .error (.hasHalves r)
  else if path.toList.contains '\x00' then .error .hasNull
  else if pathLimit < Text.byteLength path then .error (.tooLong path)
  else if path = "" then .error (.notFound path)
  else s.follow path [] (FilePath.names path)

/-- What is at a path. A path that ends in a slash is one of a directory. -/
def place? (s : FileStore) (path : String) : Except FileError (Option Place) := do
  match s.placeAt? (← s.resolve path) with
  | some (.file bytes) =>
    if path.toList.getLast? = some '/' then throw (.notDirectory path)
    else pure (some (.file bytes))
  | other => pure other

/-- Whether anything is at a path. -/
def holds (s : FileStore) (path : String) : Bool :=
  match s.place? path with
  | .ok p => p.isSome
  | .error _ => false

/-- Whether a directory is at a path. -/
def holdsDirectory (s : FileStore) (path : String) : Bool :=
  match s.place? path with
  | .ok (some .directory) => true
  | _ => false

/-- The bytes of a file. -/
def read (s : FileStore) (path : String) : Except FileError ByteArray := do
  match ← s.place? path with
  | some (.file bytes) => return bytes
  | some .directory => throw (.isDirectory path)
  | none => throw (.notFound path)

/-! ### Changes -/

/-- A computation that changes a store. It keeps what it did when it fails. -/
abbrev Storing := EStateM FileError FileStore

/-- Goes on with a result, or fails. -/
def lift {α : Type} : Except FileError α → Storing α
  | .ok a => pure a
  | .error e => throw e

/-- Puts something at an address. -/
def assign (address : List String) (p : Place) : Storing Unit :=
  modify fun s ↦ s.putAt address p

/-- Makes a directory. -/
def makeDirectory (path : String) : Storing Unit := do
  let address ← lift ((← get).resolve path)
  match (← get).placeAt? address with
  | some _ => throw (.occupied path)
  | none => assign address .directory

/-- Makes a directory, unless it is there. -/
def ensureDirectory (path : String) : Storing Unit :=
  tryCatch (makeDirectory path) fun e ↦ do
    unless (← get).holdsDirectory path do
      throw e

/-- The path above a path and the last name, even if the path ends in a slash. -/
def above (path : String) : String × String :=
  let parts := FilePath.splitLast path
  if parts.2 = "" then FilePath.splitLast parts.1 else parts

/-- Makes a directory and what is missing above it, from the top down. That it is there already is
no failure if `lenient` says so. The path above is shorter, so a fuel of more than the number of
characters is enough. -/
def makeDirectoriesWithin (lenient : Bool) : Nat → String → Storing Unit
  | 0, path => throw (.notFound path)
  | fuel + 1, path => do
    let (head, tail) := above path
    if head ≠ "" ∧ tail ≠ "" ∧ ¬ (← get).holds head then
      tryCatch (makeDirectoriesWithin lenient fuel head) fun
        | .occupied _ => pure ()
        | e => throw e
      -- the directory itself, which was made just now as the one above
      if tail = "." then
        return
    if lenient then ensureDirectory path else makeDirectory path

/-- Makes a directory and what is missing above it. What was made stays when a later one fails. -/
def makeDirectories (path : String) : Storing Unit :=
  makeDirectoriesWithin false (path.length + 1) path

/-- Makes a directory and what is missing above it, unless it is there. -/
def ensureDirectories (path : String) : Storing Unit :=
  makeDirectoriesWithin true (path.length + 1) path

/-- Makes the directories above a path. -/
def makeRoom (path : String) : Storing Unit := do
  let directory := FilePath.parent path
  unless directory = "" do
    ensureDirectories directory

/-- Opens a file to write to, and gives its address. A file that is there is emptied if that is
asked for; a file that is missing is made. A path that ends in a slash counts as one of a directory,
whatever is there. -/
def openFile (path : String) (emptied : Bool) : Storing (List String) := do
  let address ← lift ((← get).resolve path)
  if path.toList.getLast? = some '/' then
    throw (.isDirectory path)
  match (← get).placeAt? address with
  | some .directory => throw (.isDirectory path)
  | some (.file _) =>
    if emptied then
      assign address (.file .empty)
  | none => assign address (.file .empty)
  return address

/-- Adds a text to the end of an open file, if the text can be written. -/
def append (s : FileStore) (address : List String) (text : String) : FileStore :=
  match s.placeAt? address, Text.utf8? text with
  | some (.file bytes), .ok more => s.putAt address (.file (bytes ++ more))
  | _, _ => s

/-- Puts a file at a path, with the directories above it. -/
def place (path : String) (bytes : ByteArray) : Storing Unit := do
  makeRoom path
  assign (← openFile path true) (.file bytes)

end FileStore

end TreePath
