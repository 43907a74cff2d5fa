import Packfile.Executor.Basic

/-!
# The recording executor

An executor that starts nothing. It notes every call, and fails those that it has been told to: a
planned failure lets a number of calls to an operation succeed and fails every later one.
-/

namespace Packfile

/-- A failure that a recorder has been told to produce. -/
structure PlannedFailure where
  method : String
  /-- The number of calls to the operation that still succeed. -/
  successes : Nat
  message : String
  deriving DecidableEq, Repr

/-- The state of a recording executor. -/
structure Recorder where
  failures : List PlannedFailure := []
  /-- The calls since the last clearing, in order. -/
  calls : List Call := []
  deriving DecidableEq, Repr

namespace Recorder

/-- Plans the failure of every call to an operation after some successful ones. -/
def failAfter (recorder : Recorder) (method : String) (successes : Nat) (message : String) :
    Recorder :=
  { recorder with failures := recorder.failures ++ [⟨method, successes, message⟩] }

/-- Plans the failure of every call to an operation. -/
def fail (recorder : Recorder) (method message : String) : Recorder :=
  recorder.failAfter method 0 message

/-- Forgets the calls; planned failures stay. -/
def clear (recorder : Recorder) : Recorder :=
  { recorder with calls := [] }

/-- The calls to an operation. -/
def callsTo (recorder : Recorder) (method : String) : List Call :=
  recorder.calls.filter fun call => call.method = method

/-- Whether an operation was called. -/
def wasCalled (recorder : Recorder) (method : String) : Bool :=
  recorder.calls.any fun call => call.method = method

/-- The number of calls. -/
def callCount (recorder : Recorder) : Nat :=
  recorder.calls.length

/-- The names of the called operations, in order. -/
def methods (recorder : Recorder) : List String :=
  recorder.calls.map Call.method

/-- The failure that strikes the next call to an operation: the first planned one whose successes
are used up. -/
def failure? (recorder : Recorder) (method : String) : Option PlannedFailure :=
  recorder.failures.find? fun failure =>
    failure.method = method && failure.successes ≤ (recorder.callsTo method).length

/-- Notes a call and answers it. -/
def step : Executor Recorder := fun recorder call =>
  let outcome :=
    match recorder.failure? call.method with
    | some failure => .error (.executionFailed failure.message)
    | none => .ok ()
  ⟨outcome, [], { recorder with calls := recorder.calls ++ [call] }⟩

@[simp]
theorem calls_step (recorder : Recorder) (call : Call) :
    (step recorder call).state.calls = recorder.calls ++ [call] := rfl

@[simp]
theorem failures_step (recorder : Recorder) (call : Call) :
    (step recorder call).state.failures = recorder.failures := rfl

end Recorder

end Packfile
