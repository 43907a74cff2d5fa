import Packfile.Environment.Process
import Packfile.Executor.Error

/-!
# Starting processes

A host has a file system, an environment and programs. A request to start a program names it by a
path or by a bare name. A path is followed from the directory that the process starts in; a bare
name is looked for in the directories of the `PATH` that the process gets, or in two standard ones
if it gets none. Only native programs can be started, whoever asks for it. What a program does is up
to the host, and may depend on what has been started before it.
-/

namespace Packfile

/-- A program that has been started. -/
structure Launch where
  /-- The file that is executed. -/
  program : Location
  args : List String
  environment : ProcessEnvironment
  directory : Location
  deriving DecidableEq

/-- How a process ended and what it wrote to its error output. -/
structure Termination where
  status : ExitStatus
  stderr : ByteArray := .empty
  deriving DecidableEq

/-- What programs do. -/
structure Behaviour where
  /-- How a program ends that is started after the given others. -/
  ending : List Launch → Launch → Termination

/-- Programs that do not heed what has been started before them. -/
instance : Coe (Launch → Termination) Behaviour := ⟨fun ending => ⟨fun _ => ending⟩⟩

/-- The machine that processes run on. -/
structure Host where
  fs : FileSystem
  environment : ProcessEnvironment
  /-- What the programs do. -/
  behaviour : Behaviour
  /-- The programs that have been started, in order. -/
  started : List Launch := []

/-- A request to start a program. -/
structure SpawnRequest where
  program : String
  args : List String
  /-- The whole environment of the process; `none` to inherit that of the host. -/
  environment : Option ProcessEnvironment := none
  /-- The directory that the process starts in; `none` for the current one. -/
  workDir : Option String := none

namespace Host

/-- The directories that bare names are looked for in when there is no `PATH`. -/
def standardDirectories : List String := ["/bin", "/usr/bin"]

/-- What a native program begins with. -/
def executableMagic : List UInt8 := [0x7f, 0x45, 0x4c, 0x46]

/-- Whether a NUL in the request keeps it from being made. -/
def SpawnRequest.hasNul (request : SpawnRequest) : Bool :=
  let nul (s : String) : Bool := s.toList.contains '\x00'
  nul request.program || request.args.any nul || request.workDir.any nul
    || (request.environment.getD []).any fun entry => nul entry.1 || entry.2.hasNul

/-- The native program at a path. Other formats are not started here: a script that begins with `#!`
is one of them, for which a system would start its interpreter. Any of the three bits for execution
will do, since users are not told apart. -/
def executableAt (fs : FileSystem) (path : String) : Except IoError Location := do
  let location ← fs.locate path
  match ← fs.find path with
  | .directory => .error .permissionDenied
  | .file content mode =>
    if (Entry.file content mode).isExecutable then
      if executableMagic.isPrefixOf content.toList then .ok location
      else .error .notExecutableFormat
    else .error .permissionDenied

/-- The first directory in which a bare name can be executed. A file that must not be executed is
passed over, and remembered for the error. -/
def search (fs : FileSystem) (name : String) (denied : Bool) :
    List String → Except IoError Location
  | [] => .error (if denied then .permissionDenied else .notFound)
  | directory :: rest =>
    match executableAt fs (Path.join directory name) with
    | .ok location => .ok location
    | .error .permissionDenied => search fs name true rest
    | .error .notFound | .error .notADirectory => search fs name denied rest
    | .error e => .error e

/-- The file that a program name leads to. -/
def findProgram (fs : FileSystem) (environment : ProcessEnvironment) (program : String) :
    Except IoError Location :=
  if program.toList.contains '/' || program = "" then executableAt fs program
  else
    let directories :=
      match ProcessEnvironment.get? environment "PATH" with
      | some path => path.searchPath
      | none => standardDirectories
    search fs program false directories

/-- What a request starts. -/
def prepare (host : Host) (request : SpawnRequest) : Except IoError Launch := do
  if SpawnRequest.hasNul request then throw .nulInArgument
  let fs ← match request.workDir with
    | some directory => host.fs.enter directory
    | none => pure host.fs
  let environment := request.environment.getD host.environment
  let program ← findProgram fs environment request.program
  return { program, args := request.args, environment, directory := fs.current }

/-- Starts a program and waits for its end. -/
def run (host : Host) (request : SpawnRequest) : Except IoError Termination × Host :=
  match host.prepare request with
  | .error e => (.error e, host)
  | .ok launch =>
    (.ok (host.behaviour.ending host.started launch),
      { host with started := host.started ++ [launch] })

end Host

end Packfile
