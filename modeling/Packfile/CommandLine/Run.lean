import Packfile.CommandLine.Failure
import Packfile.CommandLine.Parse
import Packfile.Compiler
import Packfile.Tree.Json
import Packfile.Tree.Yaml

/-!
# Running the program

The manifest is loaded and compiled against the environment of the process; then the compiled
releases are printed or handed to the pack tool. Whatever fails ends the run, and the exit code says
what kind of thing it was.
-/

namespace Packfile

/-- The result of a run. -/
structure RunResult where
  /-- What is printed, or what ended the run. -/
  outcome : Except Failure String
  log : List LogEntry
  host : Host

/-- The exit code of a run. -/
def RunResult.exitCode (result : RunResult) : ExitCode :=
  match result.outcome with
  | .ok _ => .success
  | .error failure => failure.exitCode

namespace CommandLine

/-- The compiled releases as they are printed. -/
def printed (compiler : Compiler) (format : OutputFormat) : String :=
  let text := match format with
    | .yaml => compiler.toTree.toYaml
    | .json => compiler.toTree.toPrettyJson
  String.ofList (Text.trimEnd text.toList) ++ "\n"

/-- Loads the manifest. -/
def load (line : CommandLine) (host : Host) : Except Failure Manifest :=
  (Manifest.load host.fs { environment := line.environment, release := line.release }
    line.file).mapError (.load line.file)

/-- The pack tool that is to be used, and what is reported about it. A dry run does not look for
it. -/
def tool (line : CommandLine) (host : Host) : Except Failure (NomadPack × List LogEntry) :=
  if line.dryRun then .ok ({ binary := line.binary, dryRun := true }, [])
  else (NomadPack.new host.fs host.environment line.binary).mapError .binary

/-- What is reported before a command is applied. -/
def announcement (line : CommandLine) (command : PackCommand) (compiler : Compiler) : LogEntry :=
  .info ("Executing " ++ command.name ++ " for " ++ toString compiler.actions.length
    ++ " releases from " ++ line.file)

/-- Hands the compiled releases to the pack tool. -/
def applyCommand (line : CommandLine) (host : Host) (command : PackCommand) (compiler : Compiler) :
    RunResult :=
  match line.tool host with
  | .error failure => ⟨.error failure, [], host⟩
  | .ok (tool, found) =>
    let execution := compiler.execute command tool.step host
    { outcome := match execution.outcome with
        | .ok () => .ok ""
        | .error e => .error (.command command e)
      log := found ++ line.announcement command compiler :: execution.log
      host := execution.state }

/-- Does what the command line asks for. -/
def run (line : CommandLine) (host : Host) : RunResult :=
  match line.load host with
  | .error failure => ⟨.error failure, [], host⟩
  | .ok manifest =>
    let store := EnvironmentStore.capture host.environment
    let compilation := (Compiler.new manifest store).compile host.fs host.environment
    match compilation.outcome with
    | .error e => ⟨.error (.compile line.file e), compilation.log, host⟩
    | .ok () =>
      match line.task with
      | .print format => ⟨.ok (printed compilation.compiler format), compilation.log, host⟩
      | .apply command =>
        let result := line.applyCommand host command compilation.compiler
        { result with log := compilation.log ++ result.log }

end CommandLine

end Packfile
