import Packfile.CommandLine.Basic
import Packfile.Text.Lines

/-!
# Reading the command line

The arguments are read from left to right, first those before the command and then those after it.
Every option may stand in either part, but only once in each; after the command it counts more than
before. Reading stops at the first argument that does not fit, or at a request for help or for the
version.

A value that follows its option as an argument of its own is taken up only when the next option is
read or when its part is over.
-/

namespace Packfile

/-- A command. -/
inductive CommandName where
  | apply (command : PackCommand)
  | compile
  deriving DecidableEq, Repr

namespace CommandName

/-- The name of a command. -/
def name : CommandName → String
  | .apply command => command.name
  | .compile => "compile"

/-- The command of a name. -/
def ofName? (name : String) : Option CommandName :=
  if name = "compile" then some .compile else (PackCommand.ofName? name).map .apply

end CommandName

/-- An option that takes a value. -/
inductive ValueOption where
  | file
  | environment
  | release
  | binary
  | logLevel
  | format
  deriving DecidableEq, Repr

namespace ValueOption

/-- The option of a long name. The form of output is known only to the command that prints. -/
def ofName? (command : Option CommandName) (name : String) : Option ValueOption :=
  if name = "file" then some .file
  else if name = "environment" then some .environment
  else if name = "release" then some .release
  else if name = "nomad-pack-binary" then some .binary
  else if name = "log-level" then some .logLevel
  else if name = "format" && command = some .compile then some .format
  else none

/-- Whether the option may have the value. Paths must not be empty. -/
def accepts (option : ValueOption) (value : String) : Bool :=
  match option with
  | .file | .binary => value ≠ ""
  | .environment | .release => true
  | .logLevel => (LogLevel.ofName? value).isSome
  | .format => (OutputFormat.ofName? value).isSome

end ValueOption

/-- An option without a value. -/
inductive Flag where
  | dryRun
  | help
  | version
  deriving DecidableEq, Repr

/-- The flag of a long name. -/
def Flag.ofName? (name : String) : Option Flag :=
  if name = "dry-run" then some .dryRun
  else if name = "help" then some .help
  else if name = "version" then some .version
  else none

/-- Why there is nothing to run. -/
inductive CommandLine.Stop where
  /-- The arguments do not fit. -/
  | usage
  | help
  /-- The version is asked for, before or after a command. -/
  | version (command : Option CommandName)
  deriving DecidableEq, Repr

namespace CommandLine

/-- What has been read of one part of the command line. -/
structure Part where
  /-- The values given. -/
  values : List (ValueOption × String) := []
  dryRun : Bool := false
  /-- An option that has been read, with the value that has followed it. -/
  pending : Option (ValueOption × Option String) := none

namespace Part

/-- The value of an option. -/
def value? (part : Part) (option : ValueOption) : Option String :=
  (part.values.find? fun entry => entry.1 = option).map Prod.snd

/-- Whether an option waits for its value. -/
def isWaiting (part : Part) : Bool :=
  match part.pending with
  | some (_, none) => true
  | _ => false

/-- Takes up a value, which has to be the first of its option. -/
def add (part : Part) (option : ValueOption) (value : String) : Except Stop Part :=
  if (part.value? option).isSome || !option.accepts value then .error .usage
  else .ok { part with values := part.values ++ [(option, value)] }

/-- Takes up the value of the option that is pending. -/
def settle (part : Part) : Except Stop Part :=
  match part.pending with
  | none => .ok part
  | some (_, none) => .error .usage
  | some (option, some value) => { part with pending := none }.add option value

/-- Takes up a flag. -/
def addFlag (part : Part) (command : Option CommandName) (flag : Flag) : Except Stop Part := do
  let part ← part.settle
  match flag with
  | .dryRun => if part.dryRun then .error .usage else .ok { part with dryRun := true }
  | .help => .error .help
  | .version => .error (.version command)

/-- Takes up an option, whose value may be attached to it. -/
def addOption (part : Part) (option : ValueOption) (value : Option String) : Except Stop Part := do
  let part ← part.settle
  match value with
  | some value => part.add option value
  | none => .ok { part with pending := some (option, none) }

/-- Takes up an argument that starts with two dashes, given without them. -/
def addLong (part : Part) (command : Option CommandName) (text : List Char) : Except Stop Part :=
  let (name, value) := match Text.splitAtFirst '=' text with
    | some (name, value) => (String.ofList name, some (String.ofList value))
    | none => (String.ofList text, none)
  match Flag.ofName? name, ValueOption.ofName? command name with
  | some flag, _ => if value.isSome then .error .usage else part.addFlag command flag
  | none, some option => part.addOption option value
  | none, none => .error .usage

/-- Takes up an argument that starts with one dash, given without it. A value may follow its letter
directly or after an equals sign. -/
def addShort (part : Part) (command : Option CommandName) : List Char → Except Stop Part
  | 'f' :: [] => part.addOption .file none
  | 'f' :: '=' :: value => part.addOption .file (some (String.ofList value))
  | 'f' :: value => part.addOption .file (some (String.ofList value))
  | 'h' :: _ => part.addFlag command .help
  | 'V' :: _ => part.addFlag command .version
  | _ => .error .usage

/-- Takes up one argument. -/
def addArgument (part : Part) (command : Option CommandName) (argument : String) :
    Except Stop Part :=
  match argument.toList with
  | '-' :: '-' :: text => part.addLong command text
  | '-' :: c :: text => part.addShort command (c :: text)
  | _ =>
    match part.pending with
    | some (option, none) => .ok { part with pending := some (option, some argument) }
    | _ => .error .usage

end Part

/-- What asking for help with commands leads to; each must be known, and none has commands of its
own. -/
def helpOn : List String → Stop
  | [] => .help
  | [name] => if name = "help" || (CommandName.ofName? name).isSome then .help else .usage
  | _ => .usage

/-- Reads the arguments before the command. -/
def readBefore (part : Part) : List String → Except Stop (Part × CommandName × List String)
  | [] => .error .usage
  | argument :: rest =>
    match CommandName.ofName? argument with
    | some command =>
      if part.isWaiting then do readBefore (← part.addArgument none argument) rest
      else .ok (part, command, rest)
    | none =>
      if argument = "help" && !part.isWaiting then .error (helpOn rest)
      else if argument = "--" then .error .usage
      else do readBefore (← part.addArgument none argument) rest

/-- Reads the arguments after the command. Two dashes may end them. -/
def readAfter (command : CommandName) (part : Part) : List String → Except Stop Part
  | [] => part.settle
  | argument :: rest =>
    if argument = "--" then (if rest.isEmpty then part.settle else .error .usage)
    else do readAfter command (← part.addArgument (some command) argument) rest

/-- The command line that two parts amount to. -/
def ofParts (before : Part) (command : CommandName) (after : Part) : CommandLine :=
  let value (option : ValueOption) : Option String := (after.value? option).or (before.value? option)
  { task := match command with
      | .apply command => .apply command
      | .compile => .print (((value .format).bind OutputFormat.ofName?).getD .yaml)
    file := (value .file).getD "packfile.yaml"
    environment := value .environment
    release := value .release
    binary := (value .binary).getD NomadPack.defaultBinary
    logLevel := ((value .logLevel).bind LogLevel.ofName?).getD .warn
    dryRun := before.dryRun || after.dryRun }

/-- Reads the arguments of the program. -/
def parse (arguments : List String) : Except Stop CommandLine := do
  let (before, command, rest) ← readBefore {} arguments
  let after ← readAfter command {} rest
  return ofParts (← before.settle) command after

end CommandLine

/-- What is printed when the version is asked for. -/
def versionText (command : Option CommandName) : String :=
  programName ++ command.elim "" (fun command => "-" ++ command.name) ++ " " ++ programVersion

end Packfile
