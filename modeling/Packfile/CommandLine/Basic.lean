import Packfile.Executor.Invocation
import Packfile.Executor.NomadPack
import Packfile.Log

/-!
# The command line

What a user can ask for: the commands, the forms of output, the levels of the log, and the settings
that every command takes.
-/

namespace Packfile

/-- The name of the program. -/
def programName : String := "nomad-packfile"

/-- The version of the program. -/
def programVersion : String := "0.1.0"

/-- The form in which compiled releases are printed. -/
inductive OutputFormat where
  | yaml
  | json
  deriving DecidableEq, Repr

/-- The form of a name. -/
def OutputFormat.ofName? (name : String) : Option OutputFormat :=
  if name = "yaml" then some .yaml else if name = "json" then some .json else none

/-- How much of the log is shown. -/
inductive LogLevel where
  | debug
  | info
  | warn
  | error
  | fatal
  deriving DecidableEq, Repr

namespace LogLevel

/-- The level of a name. -/
def ofName? (name : String) : Option LogLevel :=
  if name = "debug" then some .debug
  else if name = "info" then some .info
  else if name = "warn" then some .warn
  else if name = "error" then some .error
  else if name = "fatal" then some .fatal
  else none

/-- Whether an entry is shown. Nothing is more serious than an error, so the highest level shows
errors, too. -/
def shows (level : LogLevel) (entry : LogEntry) : Bool :=
  match level with
  | .debug | .info => true
  | .warn => entry.severity ≠ .info
  | .error | .fatal => entry.severity = .error

end LogLevel

/-- What the program is asked to do with the compiled releases. -/
inductive Task where
  /-- Hand them to the pack tool. -/
  | apply (command : PackCommand)
  /-- Print them. -/
  | print (format : OutputFormat)
  deriving DecidableEq, Repr

/-- A whole command line. -/
structure CommandLine where
  task : Task
  /-- The path of the manifest. -/
  file : String := "packfile.yaml"
  environment : Option String := none
  release : Option String := none
  binary : String := NomadPack.defaultBinary
  logLevel : LogLevel := .warn
  dryRun : Bool := false
  deriving DecidableEq, Repr

end Packfile
