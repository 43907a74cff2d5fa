import Packfile.Executor.NomadPack
import Packfile.Proofs.Executor.Calls
import Packfile.Proofs.Traversal

/-!
# The processes of the pack tool

Each call of the pack tool makes one request to the host. If the request starts a process, the call
succeeds exactly when that process ends well; a request that starts nothing makes the call fail. In
every case the host stays the same but for the process that has been added to those started.

A release sees a small environment of its own. No variable but `PATH` has a part in how a process is
started, so its token only adds an entry to that environment.
-/

namespace Packfile

namespace ProcessEnvironment

variable {environment : ProcessEnvironment} {name : String} {value : RawValue}

/-- An entry for another name does not bear on a look-up. -/
theorem get?_concat_of_ne {other : String} (different : other ≠ name) :
    get? (environment ++ [(other, value)]) name = get? environment name := by
  simp [get?, different]

theorem mem_only {names : List String} :
    (name, value) ∈ only environment names ↔ name ∈ names ∧ get? environment name = some value := by
  simp only [only, List.mem_filterMap, Option.map_eq_some_iff, Prod.mk.injEq]
  constructor
  · rintro ⟨_, listed, _, found, rfl, rfl⟩
    exact ⟨listed, found⟩
  · rintro ⟨listed, found⟩
    exact ⟨name, listed, value, found, rfl, rfl⟩

theorem names_only (environment : ProcessEnvironment) (names : List String) :
    ((only environment names).map Prod.fst).Sublist names := by
  induction names with
  | nil => exact .slnil
  | cons name rest ih =>
      cases found : get? environment name with
      | none => simpa [only, found] using ih.cons name
      | some value => simpa [only, found] using ih.cons_cons name

end ProcessEnvironment

namespace Host

variable {host : Host} {request : SpawnRequest} {launch : Launch}

/-- The host after more programs have been started. -/
def starting (host : Host) (launches : List Launch) : Host :=
  { host with started := host.started ++ launches }

/-- How the program at a position ended, if one has been started there. -/
def ended? (host : Host) (i : Nat) : Option Termination :=
  host.started[i]?.map (host.behaviour.ending (host.started.take i))

/-- The processes that two hosts have started at the same positions, from some position on, have
ended alike. -/
def EndsLike (host other : Host) (position : Nat) : Prop :=
  ∀ i, position ≤ i → ∀ ending ∈ host.ended? i, ∀ ending' ∈ other.ended? i, ending' = ending

theorem EndsLike.mono {other : Host} {position later : Nat} (alike : host.EndsLike other position)
    (bound : position ≤ later) : host.EndsLike other later := by
  intro i reached
  exact alike i (Nat.le_trans bound reached)

/-- A request starts nothing, or what it starts does not end with status zero. -/
def Fails (host : Host) (request : SpawnRequest) : Prop :=
  match host.prepare request with
  | .error _ => True
  | .ok launch => (host.behaviour.ending host.started launch).status ≠ .exited 0

@[simp] theorem starting_nil : host.starting [] = host := by
  simp [starting]

@[simp] theorem starting_starting (first second : List Launch) :
    (host.starting first).starting second = host.starting (first ++ second) := by
  simp [starting]

@[simp] theorem starting_started (launches : List Launch) :
    (host.starting launches).started = host.started ++ launches := rfl

@[simp] theorem getElem?_starting (launches : List Launch) (i : Nat) :
    (host.starting launches).started[host.started.length + i]? = launches[i]? := by
  rw [starting_started, List.getElem?_append_right (Nat.le_add_right _ _),
    Nat.add_sub_cancel_left]

/-- What a request starts does not depend on what has been started before. -/
@[simp] theorem prepare_starting (launches : List Launch) :
    (host.starting launches).prepare request = host.prepare request := rfl

/-- The processes that have been started can be told from the host. -/
theorem eq_of_starting_eq {first second : List Launch}
    (same : host.starting first = host.starting second) : first = second := by
  have started : (host.starting first).started = (host.starting second).started := by rw [same]
  simpa using started

theorem run_of_error {e : IoError} (refused : host.prepare request = .error e) :
    host.run request = (.error e, host) := by
  simp only [run, refused]

theorem run_of_ok (prepared : host.prepare request = .ok launch) :
    host.run request =
      (.ok (host.behaviour.ending host.started launch), host.starting [launch]) := by
  simp only [run, prepared, starting]

/-- The program that is started next ends as it does after those started before. -/
theorem ended?_next (launch : Launch) (launches : List Launch) :
    (host.starting (launch :: launches)).ended? host.started.length =
      some (host.behaviour.ending host.started launch) := by
  simp [ended?, starting]

/-! ## What a request starts -/

/-- The file system that a process starts in. -/
def startingFrom (host : Host) (request : SpawnRequest) : Except IoError FileSystem :=
  match request.workDir with
  | some directory => host.fs.enter directory
  | none => .ok host.fs

theorem prepare_eq (host : Host) (request : SpawnRequest) :
    host.prepare request =
      if SpawnRequest.hasNul request then .error .nulInArgument
      else
        host.startingFrom request >>= fun fs =>
          (findProgram fs (request.environment.getD host.environment) request.program).map
            fun program =>
              { program
                args := request.args
                environment := request.environment.getD host.environment
                directory := fs.current } := by
  unfold prepare startingFrom
  cases SpawnRequest.hasNul request with
  | true => rfl
  | false => cases request.workDir <;> rfl

/-- A process is started with the environment that is requested. -/
theorem prepare_environment (prepared : host.prepare request = .ok launch) :
    launch.environment = request.environment.getD host.environment := by
  rw [prepare_eq] at prepared
  split at prepared
  · cases prepared
  · obtain ⟨fs, _, found⟩ := bind_eq_ok.mp prepared
    obtain ⟨program, _, rfl⟩ := map_eq_ok.mp found
    rfl

/-- Two hosts that start the same processes and have started equally many. -/
structure Parallel (host other : Host) : Prop where
  prepare : ∀ request, other.prepare request = host.prepare request
  environment : other.environment = host.environment
  count : other.started.length = host.started.length

theorem parallel_behaviour (host : Host) (behaviour : Behaviour) :
    host.Parallel { host with behaviour } where
  prepare _ := rfl
  environment := rfl
  count := rfl

theorem Parallel.starting {other : Host} (parallel : host.Parallel other)
    (first second : Launch) : (host.starting [first]).Parallel (other.starting [second]) where
  prepare request := by
    rw [prepare_starting, prepare_starting]
    exact parallel.prepare request
  environment := parallel.environment
  count := by simp [parallel.count]

/-- Where programs are looked for is the only thing that an environment decides. -/
theorem findProgram_congr {fs : FileSystem} {first second : ProcessEnvironment} {program : String}
    (same : ProcessEnvironment.get? first "PATH" = ProcessEnvironment.get? second "PATH") :
    findProgram fs first program = findProgram fs second program := by
  simp only [findProgram, same]

/-- A further variable of a process has no part in how it is started. -/
theorem prepare_concat (request : SpawnRequest) {environment : ProcessEnvironment} {name : String}
    {value : RawValue} (named : name ≠ "PATH")
    (clean : '\x00' ∉ name.toList ∧ value.hasNul = false) :
    host.prepare { request with environment := some (environment ++ [(name, value)]) } =
      (host.prepare { request with environment := some environment }).map fun launch =>
        { launch with environment := environment ++ [(name, value)] } := by
  have nul : SpawnRequest.hasNul
        { request with environment := some (environment ++ [(name, value)]) } =
      SpawnRequest.hasNul { request with environment := some environment } := by
    simp [SpawnRequest.hasNul, clean]
  have path : ProcessEnvironment.get? (environment ++ [(name, value)]) "PATH" =
      ProcessEnvironment.get? environment "PATH" := ProcessEnvironment.get?_concat_of_ne named
  rw [prepare_eq, prepare_eq, nul]
  split
  · rfl
  · change (host.startingFrom request >>= _) = Except.map _ (host.startingFrom request >>= _)
    cases host.startingFrom request with
    | error e => rfl
    | ok fs =>
        simp only [bind, Except.bind, Option.getD_some, findProgram_congr path]
        cases findProgram fs environment request.program <;> rfl

end Host

namespace NomadPack

variable {tool : NomadPack} {host : Host} {call : Call} {calls : List Call}

/-! ## What a release sees -/

section

variable {environment : ProcessEnvironment} {target : ClusterTarget} {name : String}
variable {value : RawValue}

/-- The names of the variables that a release may see. -/
def releaseVariables : List String := forwardedVariables ++ ["NOMAD_ADDR"] ++ ["NOMAD_TOKEN"]

/-- The environment of a release is what is forwarded of the parent, and its own cluster. -/
theorem mem_releaseEnvironment :
    (name, value) ∈ releaseEnvironment environment target ↔
      (name ∈ forwardedVariables ∧ ProcessEnvironment.get? environment name = some value) ∨
      (target.address ≠ "" ∧ name = "NOMAD_ADDR" ∧ value = .text target.address) ∨
      (target.token ≠ "" ∧ name = "NOMAD_TOKEN" ∧ value = .text target.token) := by
  by_cases address : target.address = "" <;> by_cases token : target.token = "" <;>
    simp [releaseEnvironment, ProcessEnvironment.mem_only, address, token]

theorem names_releaseEnvironment (environment : ProcessEnvironment) (target : ClusterTarget) :
    ((releaseEnvironment environment target).map Prod.fst).Sublist releaseVariables := by
  have setting (name value : String) :
      ((if value = "" then ([] : ProcessEnvironment) else [(name, .text value)]).map
        Prod.fst).Sublist [name] := by
    split
    · exact List.nil_sublist _
    · exact List.Sublist.refl _
  simp only [releaseEnvironment, releaseVariables, List.map_append]
  exact ((ProcessEnvironment.names_only _ _).append (setting _ _)).append (setting _ _)

theorem nodup_releaseEnvironment (environment : ProcessEnvironment) (target : ClusterTarget) :
    ((releaseEnvironment environment target).map Prod.fst).Nodup := by
  refine List.Nodup.sublist (names_releaseEnvironment environment target) ?_
  decide

/-- A token only adds an entry at the end. -/
theorem releaseEnvironment_token {token : String} (some : token ≠ "") :
    releaseEnvironment environment { target with token } =
      releaseEnvironment environment { target with token := "" } ++
        [("NOMAD_TOKEN", .text token)] := by
  simp [releaseEnvironment, some]

end

/-- The request that a call makes. A release sees its own environment and starts in its own
directory; adding a registry inherits both. -/
def request (tool : NomadPack) (environment : ProcessEnvironment) : Call → SpawnRequest
  | .addRegistry registry => { program := tool.binary, args := registryArgs registry }
  | .release command invocation =>
    { program := tool.binary
      args := releaseArgs command invocation
      environment := some (releaseEnvironment environment invocation.target)
      workDir := some invocation.workDir }

/-- The call at a position fails on the host that the calls before it leave. -/
def FailsAt (tool : NomadPack) (host : Host) (calls : List Call) (i : Nat) : Prop :=
  ∃ h : i < calls.length,
    let now := Executor.stateAfter tool.step host (calls.take i)
    now.Fails (tool.request now.environment calls[i])

/-! ## One call -/

/-- A dry run starts nothing and never fails. -/
theorem step_of_dryRun (dry : tool.dryRun = true) (host : Host) (call : Call) :
    (tool.step host call).outcome = .ok () ∧ (tool.step host call).state = host := by
  cases call with
  | addRegistry registry => simp [step, addRegistry, dry]
  | release command invocation => simp [step, release, dry]

/-- A call whose request starts nothing fails and leaves the host as it is. -/
theorem step_of_refused {e : IoError} (real : tool.dryRun = false)
    (refused : host.prepare (tool.request host.environment call) = .error e) :
    (tool.step host call).outcome ≠ .ok () ∧ (tool.step host call).state = host := by
  have ran := Host.run_of_error refused
  cases call with
  | addRegistry registry =>
      simp only [request] at ran
      simp [step, addRegistry, real, ran]
  | release command invocation =>
      simp only [request] at ran
      simp [step, release, real, ran]

/-- Otherwise the call starts one process and succeeds if that ends with status zero. -/
theorem step_of_prepared {launch : Launch} (real : tool.dryRun = false)
    (prepared : host.prepare (tool.request host.environment call) = .ok launch) :
    ((tool.step host call).outcome = .ok () ↔
      (host.behaviour.ending host.started launch).status = .exited 0) ∧
    (tool.step host call).state = host.starting [launch] := by
  have ran := Host.run_of_ok prepared
  by_cases well : (host.behaviour.ending host.started launch).status = .exited 0
  all_goals
    cases call with
    | addRegistry registry =>
        simp only [request] at ran
        simp [step, addRegistry, real, ran, ExitStatus.isSuccess, well]
    | release command invocation =>
        simp only [request] at ran
        simp [step, release, real, ran, ExitStatus.isSuccess, well]

/-- In both cases the host is what the request makes of it. -/
theorem step_state_of_real (real : tool.dryRun = false) (host : Host) (call : Call) :
    (tool.step host call).state = (host.run (tool.request host.environment call)).2 := by
  cases prepared : host.prepare (tool.request host.environment call) with
  | error e => rw [(step_of_refused real prepared).2, Host.run_of_error prepared]
  | ok launch => rw [(step_of_prepared real prepared).2, Host.run_of_ok prepared]

/-- In every case a call at most adds to the processes that have been started. -/
theorem step_state (tool : NomadPack) (host : Host) (call : Call) :
    ∃ launches, (tool.step host call).state = host.starting launches := by
  cases dry : tool.dryRun with
  | true => exact ⟨[], (step_of_dryRun dry _ _).2.trans Host.starting_nil.symm⟩
  | false =>
      cases prepared : host.prepare (tool.request host.environment call) with
      | error e => exact ⟨[], (step_of_refused dry prepared).2.trans Host.starting_nil.symm⟩
      | ok launch => exact ⟨[launch], (step_of_prepared dry prepared).2⟩

/-- A call succeeds exactly if its request does not fail. -/
theorem step_outcome_eq_ok (real : tool.dryRun = false) :
    (tool.step host call).outcome = .ok () ↔
      ¬ host.Fails (tool.request host.environment call) := by
  cases prepared : host.prepare (tool.request host.environment call) with
  | error e =>
      have failed := (step_of_refused real prepared).1
      simp [Host.Fails, prepared, failed]
  | ok launch =>
      have ending := (step_of_prepared real prepared).1
      simp [Host.Fails, prepared, ending]

/-! ## Sequences of calls -/

/-- So do any number of calls. -/
theorem stateAfter_eq_starting (tool : NomadPack) (host : Host) (calls : List Call) :
    ∃ launches, Executor.stateAfter tool.step host calls = host.starting launches := by
  induction calls generalizing host with
  | nil => exact ⟨[], Host.starting_nil.symm⟩
  | cons call rest ih =>
      obtain ⟨first, one⟩ := step_state tool host call
      obtain ⟨later, others⟩ := ih (tool.step host call).state
      refine ⟨first ++ later, ?_⟩
      rw [Executor.stateAfter_cons, others, one, Host.starting_starting]

theorem stateAfter_of_dryRun (dry : tool.dryRun = true) :
    Executor.stateAfter tool.step host calls = host := by
  induction calls with
  | nil => rfl
  | cons call rest ih =>
      rw [Executor.stateAfter_cons, (step_of_dryRun dry _ _).2]
      exact ih

theorem allSucceed_of_dryRun (dry : tool.dryRun = true) :
    Executor.AllSucceed tool.step host calls := by
  intro i h
  exact (step_of_dryRun dry _ _).1

theorem failsAt_iff {i : Nat} (real : tool.dryRun = false) (h : i < calls.length) :
    tool.FailsAt host calls i ↔ Executor.answer tool.step host calls i h ≠ .ok () := by
  rw [Executor.answer, Ne, step_outcome_eq_ok real, Classical.not_not]
  constructor
  · rintro ⟨_, fails⟩
    exact fails
  · intro fails
    exact ⟨h, fails⟩

/-- Some call fails exactly if there is a first one that does. -/
theorem not_allSucceed_iff (real : tool.dryRun = false) :
    ¬ Executor.AllSucceed tool.step host calls ↔
      ∃ i, tool.FailsAt host calls i ∧ ∀ j < i, ¬ tool.FailsAt host calls j := by
  constructor
  · intro some
    rcases Executor.allSucceed_or_firstFailure tool.step host calls with all | ⟨i, e, failure⟩
    · exact absurd all some
    · obtain ⟨h, earlier, failed⟩ := failure
      refine ⟨i, (failsAt_iff real h).mpr ?_, ?_⟩
      · simp [failed]
      · intro j hj fails
        exact (failsAt_iff real (Nat.lt_trans hj h)).mp fails (earlier j hj)
  · rintro ⟨i, fails, _⟩ all
    obtain ⟨h, _⟩ := id fails
    exact (failsAt_iff real h).mp fails (all i h)

end NomadPack

end Packfile
