import Packfile.FileSystem.Path
import Packfile.Text.Lossy

/-!
# The file system as a value

Everything that the program reads from disk is a function of a `FileSystem`: the files and
directories by absolute location, and the current directory. Looking a path up walks it step by
step, as an operating system does: a step through something that is not a directory fails, and so
does a step to a name that does not exist.
-/

namespace Packfile

/-- Why a file operation or the start of a process failed. -/
inductive IoError where
  | notFound
  | notADirectory
  | isADirectory
  | permissionDenied
  | nameTooLong
  | notExecutableFormat
  /-- The path contains a NUL character. -/
  | nulInPath
  /-- An argument or variable for a process contains a NUL character. -/
  | nulInArgument
  | notUnicode
  deriving DecidableEq, Repr

/-- The text of the operating system for an error, with its number where it has one. -/
def IoError.message : IoError → String
  | .notFound => "No such file or directory (os error 2)"
  | .notADirectory => "Not a directory (os error 20)"
  | .isADirectory => "Is a directory (os error 21)"
  | .permissionDenied => "Permission denied (os error 13)"
  | .nameTooLong => "File name too long (os error 36)"
  | .notExecutableFormat => "Exec format error (os error 8)"
  | .nulInPath => "file name contained an unexpected NUL byte"
  | .nulInArgument => "nul byte found in provided data"
  | .notUnicode => "stream did not contain valid UTF-8"

/-- An absolute location: the names from the root down. -/
abbrev Location := List String

/-- What is found at a location. -/
inductive Entry where
  | file (content : ByteArray) (mode : Nat)
  | directory
  deriving DecidableEq

/-- A file that somebody may execute. -/
def Entry.isExecutable : Entry → Bool
  | .file _ mode => mode &&& 0o111 ≠ 0
  | .directory => false

/-- Files and directories by location. The root is always a directory. -/
structure FileSystem where
  entries : List (Location × Entry)
  /-- The current directory, from which relative paths start. -/
  current : Location

namespace FileSystem

/-- The longest name of a directory entry, in bytes. -/
def maxNameBytes : Nat := 255

/-- The longest path, in bytes. -/
def maxPathBytes : Nat := 4095

/-- What is at the location. -/
def entry? (fs : FileSystem) (location : Location) : Option Entry :=
  if location = [] then some .directory
  else (fs.entries.find? fun item => item.1 = location).map Prod.snd

/-- One step of a walk from `here`, which has to be a directory. -/
def step (fs : FileSystem) (here : Location) (part : String) : Except IoError Location :=
  match fs.entry? here with
  | none => .error .notFound
  | some (.file ..) => .error .notADirectory
  | some .directory =>
    if Path.isIdle part then .ok here
    else if part = ".." then .ok here.dropLast
    else if maxNameBytes < part.utf8ByteSize then .error .nameTooLong
    else if (fs.entry? (here ++ [part])).isSome then .ok (here ++ [part])
    else .error .notFound

/-- The location that a path leads to. -/
def locate (fs : FileSystem) (path : String) : Except IoError Location :=
  if path.toList.contains '\x00' then .error .nulInPath
  else if path = "" then .error .notFound
  else if maxPathBytes < path.utf8ByteSize then .error .nameTooLong
  else
    let start := if Path.isAbsolute path then [] else fs.current
    (Text.splitFields '/' path).foldlM fs.step start

/-- The entry that a path leads to. -/
def find (fs : FileSystem) (path : String) : Except IoError Entry := do
  match fs.entry? (← fs.locate path) with
  | some found => .ok found
  | none => .error .notFound

/-- The location that a path names if all directories on its way exist. -/
def place (fs : FileSystem) (path : String) : Location :=
  let start := if Path.isAbsolute path then [] else fs.current
  (Text.splitFields '/' path).foldl (fun here part =>
    if Path.isIdle part then here else if part = ".." then here.dropLast else here ++ [part]) start

/-- Whether a path leads to a file or a directory. -/
def pathExists (fs : FileSystem) (path : String) : Bool :=
  match fs.find path with
  | .ok _ => true
  | .error _ => false

/-- The bytes of the file at the path. The mode of a file does not keep anybody from reading it, as
for a user who may read everything; a file that cannot be read is a directory, or not there. -/
def read (fs : FileSystem) (path : String) : Except IoError ByteArray := do
  match ← fs.find path with
  | .file content _ => .ok content
  | .directory => .error .isADirectory

/-- The text of the file at the path, which has to be UTF-8. -/
def readText (fs : FileSystem) (path : String) : Except IoError String := do
  match String.fromUTF8? (← fs.read path) with
  | some text => .ok text
  | none => .error .notUnicode

/-- Whether the path leads to a file that somebody may execute. -/
def isExecutable (fs : FileSystem) (path : String) : Bool :=
  match fs.find path with
  | .ok found => found.isExecutable
  | .error _ => false

/-- The same files seen from another current directory. -/
def enter (fs : FileSystem) (path : String) : Except IoError FileSystem := do
  let location ← fs.locate path
  match fs.entry? location with
  | some .directory => .ok { fs with current := location }
  | some (.file ..) => .error .notADirectory
  | none => .error .notFound

/-- Puts an entry at a location, in place of what was there. -/
def set (fs : FileSystem) (location : Location) (entry : Entry) : FileSystem :=
  { fs with entries := (location, entry) :: fs.entries.filter fun item => item.1 ≠ location }

/-- Puts an entry at a location and makes the directories above it that do not exist yet. -/
def put (fs : FileSystem) (location : Location) (entry : Entry) : FileSystem :=
  let above := (List.range location.length).map location.take
  let missing := above.filter fun directory => (fs.entry? directory).isNone
  (missing.foldl (fun fs directory => fs.set directory .directory) fs).set location entry

/-- Removes a location and everything below it. -/
def remove (fs : FileSystem) (location : Location) : FileSystem :=
  { fs with entries := fs.entries.filter fun item => !location.isPrefixOf item.1 }

end FileSystem

end Packfile
