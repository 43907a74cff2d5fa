import Packfile.Proofs.Compiler.Calls
import Packfile.Proofs.Executor.Processes

/-!
# The processes of a command

A command makes its calls until one fails, and each call starts at most one process. So the processes
that it starts are those that its calls request, in order and without a gap: the position of a
process tells the call that it belongs to.
-/

namespace Packfile

namespace NomadPack

variable {tool : NomadPack} {host : Host}

/-- The processes are those that the calls request, in order, up to some call. -/
def Requested (tool : NomadPack) (host : Host) (calls : List Call) (launches : List Launch) :
    Prop :=
  ∀ (i : Nat) (launch : Launch), launches[i]? = some launch → ∃ call : Call,
    calls[i]? = some call ∧ host.prepare (tool.request host.environment call) = .ok launch

theorem requested_nil {calls : List Call} : tool.Requested host calls [] := by
  intro i launch h
  cases h

/-- Equally many processes, requested alike at a position, are the same there. -/
theorem Requested.getElem?_eq {calls calls' : List Call} {launches launches' : List Launch} {i : Nat}
    (requested : tool.Requested host calls launches)
    (requested' : tool.Requested host calls' launches')
    (count : launches'.length = launches.length) (same : calls'[i]? = calls[i]?) :
    launches'[i]? = launches[i]? := by
  cases found : launches[i]? with
  | none =>
      rw [List.getElem?_eq_none_iff] at found ⊢
      omega
  | some launch =>
      have bound : i < launches'.length := by
        have bound := (List.getElem?_eq_some_iff.mp found).1
        omega
      have found' := List.getElem?_eq_getElem bound
      obtain ⟨call, planned, prepared⟩ := requested i launch found
      obtain ⟨call', planned', prepared'⟩ := requested' i _ found'
      obtain rfl : call' = call := by
        rw [same, planned] at planned'
        exact (Option.some.inj planned').symm
      rw [prepared] at prepared'
      rw [found', Except.ok.inj prepared']

theorem Requested.cons {call : Call} {calls : List Call} {launch : Launch} {launches : List Launch}
    (prepared : host.prepare (tool.request host.environment call) = .ok launch)
    (requested : tool.Requested host calls launches) :
    tool.Requested host (call :: calls) (launch :: launches) := by
  intro i launch' h
  cases i with
  | zero =>
      obtain rfl : launch = launch' := by simpa using h
      exact ⟨call, rfl, prepared⟩
  | succ i => exact requested i launch' h

end NomadPack

namespace Compiler

variable {tool : NomadPack} {host : Host} {script : List (LogEntry × Call)}
variable {compiler : Compiler} {command : PackCommand}

/-! ## The processes of a script -/

theorem play_of_dryRun (dry : tool.dryRun = true) :
    (play tool.step host script).state = host := by
  induction script with
  | nil => rfl
  | cons step rest ih =>
      obtain ⟨succeeded, same⟩ := NomadPack.step_of_dryRun dry host step.2
      rw [play_cons_of_ok succeeded, same]
      exact ih

/-- A script starts the processes that its calls request, one for each call, in order. -/
theorem play_state (tool : NomadPack) (host : Host) (script : List (LogEntry × Call)) :
    ∃ launches, (play tool.step host script).state = host.starting launches ∧
      tool.Requested host (script.map Prod.snd) launches := by
  cases dry : tool.dryRun with
  | true => exact ⟨[], by rw [play_of_dryRun dry, Host.starting_nil], NomadPack.requested_nil⟩
  | false =>
      induction script generalizing host with
      | nil => exact ⟨[], by rw [Host.starting_nil]; rfl, NomadPack.requested_nil⟩
      | cons step rest ih =>
          cases prepared : host.prepare (tool.request host.environment step.2) with
          | error _ =>
              obtain ⟨refused, same⟩ := NomadPack.step_of_refused dry prepared
              cases outcome : (tool.step host step.2).outcome with
              | ok _ => exact absurd outcome refused
              | error e =>
                  refine ⟨[], ?_, NomadPack.requested_nil⟩
                  rw [play_cons_of_error outcome, same, Host.starting_nil]
          | ok launch =>
              have started := (NomadPack.step_of_prepared dry prepared).2
              cases outcome : (tool.step host step.2).outcome with
              | error e =>
                  refine ⟨[launch], ?_, NomadPack.requested_nil.cons prepared⟩
                  rw [play_cons_of_error outcome, started]
              | ok _ =>
                  obtain ⟨later, final, requested⟩ := ih (host.starting [launch])
                  refine ⟨launch :: later, ?_, NomadPack.Requested.cons prepared requested⟩
                  rw [play_cons_of_ok outcome, started]
                  exact final.trans (Host.starting_starting _ _)

/-- How the first process of a script ends does not depend on the rest of the script. -/
theorem ended?_play_cons {step : LogEntry × Call} {launch : Launch} (real : tool.dryRun = false)
    (prepared : host.prepare (tool.request host.environment step.2) = .ok launch) :
    (play tool.step host (step :: script)).state.ended? host.started.length =
      some (host.behaviour.ending host.started launch) := by
  have started := (NomadPack.step_of_prepared real prepared).2
  cases outcome : (tool.step host step.2).outcome with
  | error e =>
      rw [play_cons_of_error outcome, started]
      exact Host.ended?_next launch []
  | ok _ =>
      obtain ⟨later, final, _⟩ := play_state tool (host.starting [launch]) script
      rw [play_cons_of_ok outcome, started]
      simp only [final, Host.starting_starting]
      exact Host.ended?_next launch later

/-! ## Executing a command -/

theorem execute_state_eq (compiled : compiler.compiled = true) :
    (compiler.execute command tool.step host).state =
      (play tool.step host (compiler.script command)).state := by
  simp only [execute, compiled, if_true]
  split <;> rfl

/-- A command starts the processes that its calls request, one for each call, in order. -/
theorem execute_state (tool : NomadPack) (host : Host) (compiler : Compiler)
    (command : PackCommand) :
    ∃ launches, (compiler.execute command tool.step host).state = host.starting launches ∧
      tool.Requested host (compiler.calls command) launches := by
  cases compiled : compiler.compiled with
  | false =>
      refine ⟨[], ?_, NomadPack.requested_nil⟩
      rw [execute_of_not_compiled compiled, Host.starting_nil]
  | true =>
      rw [execute_state_eq compiled, ← script_calls]
      exact play_state tool host (compiler.script command)

/-! ## The process of a release -/

theorem calls_release {j : Nat} {action : Action} (h : compiler.actions[j]? = some action) :
    (compiler.calls command)[compiler.catalog.toList.length + j]? =
      some (.release command action.invocation) := by
  simp [calls, List.getElem?_append_right, h]

/-- The process at the position of an action is the one that the action requests. -/
theorem release_of_requested {launches : List Launch} {j : Nat} {action : Action} {launch : Launch}
    (requested : tool.Requested host (compiler.calls command) launches)
    (found : compiler.actions[j]? = some action)
    (listed : launches[compiler.catalog.toList.length + j]? = some launch) :
    host.prepare (tool.request host.environment (.release command action.invocation)) =
      .ok launch := by
  obtain ⟨call, planned, prepared⟩ := requested _ launch listed
  rw [calls_release found] at planned
  rw [Option.some.inj planned]
  exact prepared

end Compiler

end Packfile
