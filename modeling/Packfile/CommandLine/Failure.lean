import Packfile.Executor.Invocation
import Packfile.Manifest.Load
import Packfile.Release.Error

/-!
# Failures

A failure is kept as a chain of causes: what the program was doing, the error of the part that
failed, and what that error was caused by, from the outside in. The chain is what is reported, and
the exit code is that of the first cause in it that decides one.
-/

namespace Packfile

/-- How the program ends. -/
inductive ExitCode where
  | success
  /-- The manifest, or a reference in it, is wrong. -/
  | configuration
  /-- A template or an environment file is wrong. -/
  | template
  /-- The pack tool is missing or has failed. -/
  | execution
  /-- Anything else. -/
  | general
  deriving DecidableEq, Repr

/-- The number of an exit code. -/
def ExitCode.toNat : ExitCode → Nat
  | .success => 0
  | .general => 1
  | .configuration => 2
  | .template => 3
  | .execution => 4

/-- One cause of a failure. -/
inductive Cause where
  /-- What the program was doing. -/
  | context (text : String)
  | load (e : Manifest.LoadError)
  | compile (e : CompileError)
  | execute (e : ExecuteError)
  | template (e : Template.Error)
  | environmentFile (e : Dotenv.FileError)
  | runner (e : RunnerError)
  | io (e : IoError)
  deriving Repr

namespace Cause

/-- The text of a cause. -/
def message : Cause → String
  | .context text => text
  | .load e => e.message
  | .compile e => e.message
  | .execute e => e.message
  | .template e => e.message
  | .environmentFile e => e.message
  | .runner e => e.message
  | .io e => e.message

/-- The exit code that a cause decides on. What the program was doing decides nothing, and neither
does an error of the operating system. -/
def exitCode? : Cause → Option ExitCode
  | .compile e =>
    some (if e.isConfiguration then .configuration else if e.isTemplate then .template else .general)
  | .execute (.execution _) => some .execution
  | .execute .notCompiled => some .general
  | .load _ => some .configuration
  | .template _ | .environmentFile _ => some .template
  | .runner _ => some .execution
  | .context _ | .io _ => none

end Cause

/-- The error with what it was caused by. -/
def Manifest.LoadError.causes (e : Manifest.LoadError) : List Cause :=
  match e with
  | .io cause => [.load e, .io cause]
  | .notFound _ | .invalid .. => [.load e]

/-- The error with what it was caused by. -/
def CompileError.causes (e : CompileError) : List Cause :=
  match e with
  | .invalidPackReference .. | .registryNotFound .. => [.compile e]
  | .template _ _ cause => [.compile e, .template cause]
  | .environmentFile _ cause => [.compile e, .environmentFile cause]

/-- The error with what it was caused by. -/
def RunnerError.causes (e : RunnerError) : List Cause :=
  match e with
  | .spawn _ cause => [.runner e, .io cause]
  | .binaryNotFound _ | .commandFailed .. | .executionFailed _ => [.runner e]

/-- The error with what it was caused by. -/
def ExecuteError.causes (e : ExecuteError) : List Cause :=
  match e with
  | .notCompiled => [.execute e]
  | .execution cause => .execute e :: cause.causes

/-- What ended a run. -/
inductive Failure where
  | load (file : String) (cause : Manifest.LoadError)
  | compile (file : String) (cause : CompileError)
  | binary (cause : RunnerError)
  | command (command : PackCommand) (cause : ExecuteError)
  deriving Repr

namespace Failure

/-- The causes of a failure. That the binary is missing is reported without saying what for. -/
def causes : Failure → List Cause
  | .load file cause => .context ("Failed to load packfile " ++ file) :: cause.causes
  | .compile file cause => .context ("Failed to compile " ++ file) :: cause.causes
  | .binary cause => cause.causes
  | .command applied cause => .context (applied.name ++ " failed") :: cause.causes

/-- The exit code of a failure. -/
def exitCode (failure : Failure) : ExitCode :=
  (failure.causes.findSome? Cause.exitCode?).getD .general

/-- The line that reports the failure. -/
def message (failure : Failure) : String :=
  "Error: " ++ ": ".intercalate (failure.causes.map Cause.message) ++ "\n"

end Failure

end Packfile
