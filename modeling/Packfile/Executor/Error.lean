import Packfile.FileSystem.Basic

/-!
# Executor errors

What can go wrong while the pack tool is looked for, started or waited for.
-/

namespace Packfile

/-- How a process ended. -/
inductive ExitStatus where
  | exited (code : Nat)
  | signaled (signal : Nat)
  deriving DecidableEq, Repr

namespace ExitStatus

/-- Whether the process ended well. -/
def isSuccess (status : ExitStatus) : Bool :=
  status = .exited 0

/-- The names of the signals, from number one on. -/
def signalNames : List String :=
  ["SIGHUP", "SIGINT", "SIGQUIT", "SIGILL", "SIGTRAP", "SIGABRT", "SIGBUS", "SIGFPE", "SIGKILL",
    "SIGUSR1", "SIGSEGV", "SIGUSR2", "SIGPIPE", "SIGALRM", "SIGTERM", "SIGSTKFLT", "SIGCHLD",
    "SIGCONT", "SIGSTOP", "SIGTSTP", "SIGTTIN", "SIGTTOU", "SIGURG", "SIGXCPU", "SIGXFSZ",
    "SIGVTALRM", "SIGPROF", "SIGWINCH", "SIGIO", "SIGPWR", "SIGSYS"]

/-- The name of a signal in brackets, nothing for a number without a name. -/
def signalSuffix (signal : Nat) : String :=
  if signal = 0 then ""
  else
    match signalNames[signal - 1]? with
    | some name => " (" ++ name ++ ")"
    | none => ""

/-- The text of a status. -/
def message : ExitStatus → String
  | .exited code => "exit status: " ++ toString code
  | .signaled signal => "signal: " ++ toString signal ++ signalSuffix signal

end ExitStatus

/-- Why an executor failed. -/
inductive RunnerError where
  | binaryNotFound (description : String)
  | spawn (command : String) (cause : IoError)
  | commandFailed (command : String) (status : ExitStatus) (stderr : String)
  | executionFailed (reason : String)
  deriving DecidableEq, Repr

/-- The text of an error. -/
def RunnerError.message : RunnerError → String
  | .binaryNotFound description => "nomad-pack binary not found: " ++ description
  | .spawn command cause => "Failed to spawn \x60" ++ command ++ "\x60: " ++ cause.message
  | .commandFailed command status _ =>
    "Command \x60" ++ command ++ "\x60 failed with " ++ status.message
  | .executionFailed reason => "Execution failed: " ++ reason

end Packfile
