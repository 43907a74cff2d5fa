/-!
# Log entries

What the program reports beside its results. Entries are values: a function that logs returns them,
and only the command line decides which are shown.
-/

namespace Packfile

/-- How serious a log entry is. -/
inductive Severity where
  | info
  | warn
  | error
  deriving DecidableEq, Repr

/-- The name under which a severity is shown. -/
def Severity.label : Severity → String
  | .info => "INFO"
  | .warn => "WARN"
  | .error => "ERROR"

/-- One reported event. -/
structure LogEntry where
  severity : Severity
  message : String
  deriving DecidableEq, Repr

namespace LogEntry

/-- An entry that informs. -/
def info (message : String) : LogEntry := ⟨.info, message⟩

/-- An entry that warns. -/
def warn (message : String) : LogEntry := ⟨.warn, message⟩

/-- An entry that reports a failure. -/
def error (message : String) : LogEntry := ⟨.error, message⟩

/-- The severity, a space and the message. -/
def render (entry : LogEntry) : String :=
  entry.severity.label ++ " " ++ entry.message

end LogEntry

end Packfile
