import Packfile.Executor.Basic
import Packfile.Executor.Host
import Packfile.Text.Blank
import Packfile.Text.Lossy
import Packfile.Text.Quoted

/-!
# The pack tool

The executor that runs `nomad-pack`. Commands for releases run in the working directory of the
release and see nothing of the environment but `HOME`, `TERM` and the cluster of the release. Adding
a registry runs with the whole environment, since fetching it needs other tools. A dry run starts
nothing and only reports what would be started.
-/

namespace Packfile

/-- How `nomad-pack` is run. -/
structure NomadPack where
  /-- The path or name of the binary. -/
  binary : String
  /-- Whether commands are only reported. -/
  dryRun : Bool := false
  deriving DecidableEq, Repr

namespace NomadPack

/-- The usual name of the binary. -/
def defaultBinary : String := "nomad-pack"

/-- The variables that release commands see. -/
def forwardedVariables : List String := ["HOME", "TERM"]

/-- The directories that binaries are looked for in. Without a `PATH` there is one, the current. -/
def searchDirectories (environment : ProcessEnvironment) : List String :=
  match ProcessEnvironment.get? environment "PATH" with
  | some path => path.searchPath
  | none => [""]

/-- The path of a binary: one of more than one component stands for itself, another is looked for
in the search directories. It has to lead to a file that may be executed. -/
def resolveBinary (fs : FileSystem) (environment : ProcessEnvironment) (binary : String) :
    Except RunnerError String :=
  if 1 < Path.componentCount binary then
    if fs.isExecutable binary then .ok binary else .error (.binaryNotFound binary)
  else
    let candidates := (searchDirectories environment).map fun directory =>
      Path.join directory binary
    match candidates.find? fs.isExecutable with
    | some found => .ok found
    | none => .error (.binaryNotFound (binary ++ " (not found on PATH)"))

/-- The tool with the given binary, which has to exist, and what is reported about it. -/
def new (fs : FileSystem) (environment : ProcessEnvironment) (binary : String) :
    Except RunnerError (NomadPack × List LogEntry) := do
  let binary ← resolveBinary fs environment binary
  return ({ binary }, [.info ("Using nomad-pack binary: " ++ Text.quoted binary)])

/-- The arguments that add a registry. -/
def registryArgs (registry : Registry) : List String :=
  let version := registry.ref.toList.map fun ref => "--ref=" ++ ref
  let target := registry.target.toList.map fun target => "--target=" ++ target
  ["registry", "add", registry.name, registry.url] ++ version ++ target

/-- The arguments that a command begins with. A plan reports changes in its output, not in its exit
code. -/
def commandArgs (command : PackCommand) : List String :=
  match command with
  | .plan => [command.name, "--diff", "--exit-code-makes-changes=0"]
  | _ => [command.name]

/-- The arguments that apply a command to a release. -/
def releaseArgs (command : PackCommand) (invocation : Invocation) : List String :=
  commandArgs command
    ++ invocation.varFiles.flatMap (fun file => ["-var-file", file])
    ++ invocation.vars.flatMap (fun entry => ["-var", entry.1 ++ "=" ++ entry.2])
    ++ invocation.packArgs

/-- An argument as it is shown: in single quotes if it has a space or an equals sign. -/
def formatArg (arg : String) : String :=
  if arg.toList.contains ' ' || arg.toList.contains '=' then "'" ++ arg ++ "'" else arg

/-- The command line as it is shown. -/
def formatCommand (tool : NomadPack) (args : List String) : String :=
  tool.binary ++ String.join (args.map fun arg => " " ++ formatArg arg)

/-- The environment of a release command: what is forwarded, and the cluster of the release. -/
def releaseEnvironment (environment : ProcessEnvironment) (target : ClusterTarget) :
    ProcessEnvironment :=
  let setting (name value : String) : ProcessEnvironment :=
    if value = "" then [] else [(name, .text value)]
  ProcessEnvironment.only environment forwardedVariables
    ++ setting "NOMAD_ADDR" target.address ++ setting "NOMAD_TOKEN" target.token

/-- Adds a registry. Its error output is kept for the error. -/
def addRegistry (tool : NomadPack) (host : Host) (registry : Registry) : Reply Host :=
  let args := registryArgs registry
  let command := tool.formatCommand args
  if tool.dryRun then ⟨.ok (), [.info ("[dry-run] Would execute: " ++ command)], host⟩
  else
    let label := registry.name ++ " " ++ registry.url
    let start := LogEntry.info ("Adding registry " ++ label)
    match host.run { program := tool.binary, args } with
    | (.error e, host) => ⟨.error (.spawn command e), [start], host⟩
    | (.ok ended, host) =>
      if ended.status.isSuccess then
        ⟨.ok (), [start, .info ("Registry " ++ registry.name ++ " added")], host⟩
      else
        let stderr := Text.decodeLossy ended.stderr
        let log := [start, .error ("Error adding registry " ++ label),
          .error (String.ofList (Text.trimEnd stderr.toList))]
        ⟨.error (.commandFailed command ended.status stderr), log, host⟩

/-- Applies a command to a release. Its output goes to the terminal. -/
def release (tool : NomadPack) (host : Host) (command : PackCommand) (invocation : Invocation) :
    Reply Host :=
  let args := releaseArgs command invocation
  let line := tool.formatCommand args
  let place := Text.quoted invocation.workDir ++ ": " ++ line
  if tool.dryRun then ⟨.ok (), [.info ("[dry-run] Would execute in " ++ place)], host⟩
  else
    let start := LogEntry.info ("Running " ++ command.name ++ " in " ++ place)
    let request : SpawnRequest :=
      { program := tool.binary, args
        environment := some (releaseEnvironment host.environment invocation.target)
        workDir := some invocation.workDir }
    match host.run request with
    | (.error e, host) => ⟨.error (.spawn line e), [start], host⟩
    | (.ok ended, host) =>
      if ended.status.isSuccess then ⟨.ok (), [start], host⟩
      else
        ⟨.error (.commandFailed line ended.status ""),
          [start, .error ("Error running " ++ command.name)], host⟩

/-- The tool as an executor on a host. -/
def step (tool : NomadPack) : Executor Host := fun host call =>
  match call with
  | .addRegistry registry => tool.addRegistry host registry
  | .release command invocation => tool.release host command invocation

end NomadPack

end Packfile
