import Packfile.Executor.Error
import Packfile.Executor.Invocation
import Packfile.Log

/-!
# Executors

An executor is a state machine: each call changes its state, writes log entries and succeeds or
fails. The program knows executors only through their calls, so whatever is proved of an arbitrary
machine holds of the one that starts processes and of the one that records.
-/

namespace Packfile

/-- A call to an executor. -/
inductive Call where
  | addRegistry (registry : Registry)
  | release (command : PackCommand) (invocation : Invocation)
  deriving DecidableEq, Repr

namespace Call

/-- The name of the operation that is called. -/
def method : Call → String
  | .addRegistry _ => "add_registry"
  | .release command _ => command.name

/-- The registry that is added. -/
def registry? : Call → Option Registry
  | .addRegistry registry => some registry
  | .release .. => none

/-- The invocation that is passed. -/
def invocation? : Call → Option Invocation
  | .addRegistry _ => none
  | .release _ invocation => some invocation

end Call

/-- How an executor answers a call. -/
structure Reply (σ : Type) where
  outcome : Except RunnerError Unit
  log : List LogEntry
  state : σ

/-- An executor with states `σ`. -/
abbrev Executor (σ : Type) := σ → Call → Reply σ

namespace Executor

variable {σ : Type}

/-- The executor that also notes the calls it receives. -/
def tracing (executor : Executor σ) : Executor (σ × List Call) := fun (state, calls) call =>
  let reply := executor state call
  ⟨reply.outcome, reply.log, (reply.state, calls ++ [call])⟩

end Executor

end Packfile
