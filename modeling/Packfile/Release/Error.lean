import Packfile.Dotenv.Load
import Packfile.Executor.Error
import Packfile.Template.Error

/-!
# Errors of compiling and executing

Compiling stops at the first error of a release; executing stops at the first call that fails.
-/

namespace Packfile

/-- Why the releases of a manifest cannot be compiled. -/
inductive CompileError where
  | invalidPackReference (release reference : String)
  | registryNotFound (release registry : String)
  | template (release field : String) (cause : Template.Error)
  | environmentFile (release : String) (cause : Dotenv.FileError)
  deriving DecidableEq, Repr

namespace CompileError

/-- The text of an error. -/
def message : CompileError → String
  | .invalidPackReference release reference =>
    "Invalid pack reference " ++ Text.quoted reference ++ " in release " ++ release
      ++ ": expected registry://<registry>/<pack>"
  | .registryNotFound release registry =>
    "Registry " ++ registry ++ " not found (referenced by release " ++ release ++ ")"
  | .template release field cause =>
    "Template error in release " ++ release ++ " (" ++ field ++ "): " ++ cause.message
  | .environmentFile release cause =>
    "Environment file error in release " ++ release ++ ": " ++ cause.message

/-- Whether the contents of the manifest are at fault. -/
def isConfiguration : CompileError → Bool
  | .invalidPackReference .. | .registryNotFound .. => true
  | .template .. | .environmentFile .. => false

/-- Whether a template or an environment file is at fault. -/
def isTemplate : CompileError → Bool
  | .template .. | .environmentFile .. => true
  | .invalidPackReference .. | .registryNotFound .. => false

end CompileError

/-- Why a command was not applied to every release. -/
inductive ExecuteError where
  | notCompiled
  | execution (cause : RunnerError)
  deriving DecidableEq, Repr

/-- The text of an error. -/
def ExecuteError.message : ExecuteError → String
  | .notCompiled => "Packfile has not been compiled"
  | .execution cause => "Execution error: " ++ cause.message

end Packfile
