import Packfile.Dotenv.Entry
import Packfile.Dotenv.Expansion
import Packfile.Environment.Store
import Packfile.FileSystem.Basic

/-!
# Loading environment files

A file is read assignment by assignment into an environment store. Variables that the store already
has keep their value, so the first assignment to a name counts. A value that holds a dollar is
expanded against the assignments before it in the file, the latest first, and then against the
store; any other value is the text of its entry under the plain rules.

The file is gone through twice at the same pace: once for its entries, and once for its lines that
are neither blank nor comments, from which the raw values are taken. A line that is refused ends the
load, and what the lines before it assigned stays.
-/

namespace Packfile

namespace Dotenv

/-- Why an environment file cannot be loaded. -/
inductive Fault where
  | io (cause : IoError)
  | line (cause : LineError)
  | expansion (key : String) (cause : Expansion.Fault)
  deriving DecidableEq, Repr

/-- The text of a fault. -/
def Fault.message : Fault → String
  | .io cause => cause.message
  | .line cause => cause.message
  | .expansion key cause => key ++ ": " ++ cause.message

/-- An environment file that cannot be loaded. -/
structure FileError where
  path : String
  cause : Fault
  deriving DecidableEq, Repr

/-- The text of a file error. -/
def FileError.message (e : FileError) : String :=
  "Failed to load environment file " ++ e.path ++ ": " ++ e.cause.message

/-- How far a load has come. -/
structure Loading where
  store : EnvironmentStore
  /-- The assignments of this file with their final values, the latest first. -/
  assigned : List (String × String) := []
  /-- The number of variables added to the store. -/
  added : Nat := 0

namespace Loading

/-- What a reference in a value finds. -/
def lookup (state : Loading) (name : String) : Option String :=
  (firstValue? state.assigned name).or (state.store.get? name)

/-- The value of an entry: its raw value expanded if that holds a dollar, its own text otherwise. -/
def value (state : Loading) (entry : String × String) (raw : Option (List Char)) :
    Except Fault String :=
  match raw with
  | none => .ok entry.2
  | some text =>
    if text.contains '$' then
      match Expansion.expand state.lookup text with
      | .ok value => .ok (String.ofList value)
      | .error fault => .error (.expansion entry.1 fault)
    else .ok entry.2

/-- Records an assignment; the store takes it only if the name is new. -/
def assign (state : Loading) (key value : String) : Loading :=
  let known := state.store.contains key
  { store := if known then state.store else state.store.set key value
    assigned := (key, value) :: state.assigned
    added := if known then state.added else state.added + 1 }

/-- Takes up an entry, together with the line that is read beside it. -/
def addEntry (state : Loading) (entry : Except LineError (String × String))
    (line : Option (List Char)) : Except Fault Loading :=
  match entry with
  | .error e => .error (.line e)
  | .ok entry => do
    let value ← state.value entry (line.bind Line.rawValue?)
    .ok (state.assign entry.1 value)

/-- Takes up entries until one is refused, reading on by one line for each. -/
def addEntries (state : Loading) :
    List (Except LineError (String × String)) → List (List Char) → Loading × Option Fault
  | [], _ => (state, none)
  | entry :: rest, lines =>
    match state.addEntry entry lines.head? with
    | .ok next => addEntries next rest lines.tail
    | .error fault => (state, some fault)

/-- The result of a load: the number of variables added, or the fault that ended it, and the store
after it. -/
def result : Loading × Option Fault → Except Fault Nat × EnvironmentStore
  | (state, none) => (.ok state.added, state.store)
  | (state, some fault) => (.error fault, state.store)

end Loading

/-- Loads the text of a file. -/
def loadText (process : ProcessEnvironment) (store : EnvironmentStore) (text : String) :
    Except Fault Nat × EnvironmentStore :=
  let lines := Text.lines text.toList
  let entries := Entry.ofLines process [] lines
  Loading.result (Loading.addEntries { store } entries (lines.filter Line.isAssignment))

/-- Loads the file at a path. -/
def load (fs : FileSystem) (process : ProcessEnvironment) (store : EnvironmentStore)
    (path : String) : Except FileError Nat × EnvironmentStore :=
  match fs.readText path with
  | .error e => (.error ⟨path, .io e⟩, store)
  | .ok text =>
    match loadText process store text with
    | (.ok added, after) => (.ok added, after)
    | (.error fault, after) => (.error ⟨path, fault⟩, after)

end Dotenv

end Packfile
