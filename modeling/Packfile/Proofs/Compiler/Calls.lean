import Packfile.Proofs.Compiler.History
import Packfile.Proofs.Executor.Calls
import Packfile.Proofs.Registry.Catalog

/-!
# The calls of a command

A command plans one sequence of calls: it adds every registry and then treats every action. What an
executor receives is this sequence up to and including the first call that fails, whatever the
executor does with its state in between.
-/

namespace Packfile

/-- The same call under another command; adding a registry belongs to every command. -/
def Call.retarget (command : PackCommand) : Call → Call
  | .addRegistry registry => .addRegistry registry
  | .release _ invocation => .release command invocation

namespace Compiler

variable {σ : Type} {executor : Executor σ} {state : σ} {compiler : Compiler}
variable {script : List (LogEntry × Call)} {command : PackCommand} {history : List World}
variable {i : Nat} {e : RunnerError}

/-- The calls that a command plans. -/
def calls (compiler : Compiler) (command : PackCommand) : List Call :=
  compiler.catalog.toList.map .addRegistry ++
    compiler.actions.map fun action => .release command action.invocation

theorem script_calls : (compiler.script command).map Prod.snd = compiler.calls command := by
  have releases : (compiler.releaseCalls command).map Prod.snd =
      (compiler.actions.zipIdx.map Prod.fst).map fun action =>
        Call.release command action.invocation := by
    rw [releaseCalls, List.map_map, List.map_map]
    rfl
  rw [script, List.map_append, releases, List.zipIdx_map_fst]
  simp [registryCalls, calls, Function.comp_def]

theorem calls_retarget (other : PackCommand) :
    compiler.calls other = (compiler.calls command).map (Call.retarget other) := by
  simp [calls, Call.retarget, Function.comp_def]

/-! ## Playing a script -/

theorem play_cons_of_error {step : LogEntry × Call}
    (failed : (executor state step.2).outcome = .error e) :
    play executor state (step :: script) =
      ⟨.error e, step.1 :: (executor state step.2).log, (executor state step.2).state⟩ := by
  simp only [play, failed]

theorem play_cons_of_ok {step : LogEntry × Call}
    (succeeded : (executor state step.2).outcome = .ok ()) :
    play executor state (step :: script) =
      let later := play executor (executor state step.2).state script
      { later with log := step.1 :: (executor state step.2).log ++ later.log } := by
  simp only [play, succeeded]

theorem play_of_allSucceed (all : executor.AllSucceed state (script.map Prod.snd)) :
    (play executor state script).outcome = .ok () ∧
      (play executor state script).state = executor.stateAfter state (script.map Prod.snd) := by
  induction script generalizing state with
  | nil => exact ⟨rfl, rfl⟩
  | cons step rest ih =>
      obtain ⟨first, later⟩ := Executor.allSucceed_cons.mp all
      simp only [play, first]
      exact ih later

theorem play_of_firstFailure (failure : executor.FirstFailure state (script.map Prod.snd) i e) :
    (play executor state script).outcome = .error e ∧
      (play executor state script).state =
        executor.stateAfter state ((script.map Prod.snd).take (i + 1)) := by
  induction script generalizing state i with
  | nil =>
      obtain ⟨h, _⟩ := failure
      exact absurd h (Nat.not_lt_zero i)
  | cons step rest ih =>
      cases i with
      | zero =>
          have first := Executor.firstFailure_zero.mp failure
          simp [play, first]
      | succ i =>
          obtain ⟨first, later⟩ := Executor.firstFailure_succ.mp failure
          simp only [play, first]
          exact ih later

theorem play_tracing (executor : Executor σ) (state : σ) (script : List (LogEntry × Call))
    (noted : List Call) :
    let traced := play executor.tracing (state, noted) script
    let reply := play executor state script
    traced.outcome = reply.outcome ∧ traced.log = reply.log ∧ traced.state.1 = reply.state := by
  induction script generalizing state noted with
  | nil => exact ⟨rfl, rfl, rfl⟩
  | cons step rest ih =>
      cases first : (executor state step.2).outcome with
      | error e => simp [play, Executor.tracing, first]
      | ok _ => simpa [play, Executor.tracing, first] using ih _ (noted ++ [step.2])

/-! ## Executing a command -/

theorem execute_of_not_compiled (fresh : compiler.compiled = false) :
    compiler.execute command executor state = ⟨.error .notCompiled, [], state⟩ := by
  simp [execute, fresh]

theorem execute_of_allSucceed (compiled : compiler.compiled = true)
    (all : executor.AllSucceed state (compiler.calls command)) :
    (compiler.execute command executor state).outcome = .ok () ∧
      (compiler.execute command executor state).state =
        executor.stateAfter state (compiler.calls command) := by
  rw [← script_calls] at all ⊢
  obtain ⟨outcome, final⟩ := play_of_allSucceed all
  simp [execute, compiled, outcome, final]

theorem execute_of_firstFailure (compiled : compiler.compiled = true)
    (failure : executor.FirstFailure state (compiler.calls command) i e) :
    (compiler.execute command executor state).outcome = .error (.execution e) ∧
      (compiler.execute command executor state).state =
        executor.stateAfter state ((compiler.calls command).take (i + 1)) := by
  rw [← script_calls] at failure ⊢
  obtain ⟨outcome, final⟩ := play_of_firstFailure failure
  simp [execute, compiled, outcome, final]

/-- Noting the calls changes nothing else. -/
theorem execute_tracing (compiler : Compiler) (command : PackCommand) (executor : Executor σ)
    (state : σ) (noted : List Call) :
    let traced := compiler.execute command executor.tracing (state, noted)
    let execution := compiler.execute command executor state
    traced.outcome = execution.outcome ∧ traced.log = execution.log ∧
      traced.state.1 = execution.state := by
  intro traced execution
  cases compiled : compiler.compiled with
  | false => simp [traced, execution, execute_of_not_compiled compiled]
  | true =>
      obtain ⟨outcome, log, final⟩ :=
        play_tracing executor state (compiler.script command) noted
      cases played : (play executor state (compiler.script command)).outcome with
      | error e =>
          rw [played] at outcome
          simp [traced, execution, execute, compiled, played, outcome, log, final]
      | ok _ =>
          rw [played] at outcome
          simp [traced, execution, execute, compiled, played, outcome, log, final]

/-- The calls that the executor receives during a command, in order. -/
def received (compiler : Compiler) (command : PackCommand) (executor : Executor σ) (state : σ) :
    List Call :=
  (compiler.execute command executor.tracing (state, [])).state.2

theorem received_of_not_compiled (fresh : compiler.compiled = false) :
    compiler.received command executor state = [] := by
  rw [received, execute_of_not_compiled fresh]

theorem received_of_allSucceed (compiled : compiler.compiled = true)
    (all : executor.AllSucceed state (compiler.calls command)) :
    compiler.received command executor state = compiler.calls command := by
  rw [received, (execute_of_allSucceed compiled ((Executor.allSucceed_tracing []).mpr all)).2,
    Executor.stateAfter_tracing, List.nil_append]

theorem received_of_firstFailure (compiled : compiler.compiled = true)
    (failure : executor.FirstFailure state (compiler.calls command) i e) :
    compiler.received command executor state = (compiler.calls command).take (i + 1) := by
  rw [received,
    (execute_of_firstFailure compiled ((Executor.firstFailure_tracing []).mpr failure)).2,
    Executor.stateAfter_tracing, List.nil_append]

/-- What an executor receives is always a front part of the calls that the command plans. -/
theorem received_isPrefix_calls :
    compiler.received command executor state <+: compiler.calls command := by
  cases compiled : compiler.compiled with
  | false =>
      rw [received_of_not_compiled compiled]
      exact List.nil_prefix
  | true =>
      rcases executor.allSucceed_or_firstFailure state (compiler.calls command) with
        all | ⟨i, e, failure⟩
      · exact ⟨[], by rw [received_of_allSucceed compiled all, List.append_nil]⟩
      · rw [received_of_firstFailure compiled failure]
        exact List.take_prefix _ _

/-- Of the calls that an executor receives, only the last can have failed. -/
theorem answer_received {j : Nat} (h : i < (compiler.received command executor state).length)
    (earlier : j < i) :
    executor.answer state (compiler.received command executor state) j (earlier.trans h) =
      .ok () := by
  cases compiled : compiler.compiled with
  | false =>
      rw [received_of_not_compiled compiled] at h
      exact absurd h (Nat.not_lt_zero i)
  | true =>
      rcases executor.allSucceed_or_firstFailure state (compiler.calls command) with
        all | ⟨last, e, failure⟩
      · have same := received_of_allSucceed compiled all
        generalize compiler.received command executor state = received at h same ⊢
        subst same
        exact all j _
      · have same := received_of_firstFailure compiled failure
        generalize compiler.received command executor state = received at h same ⊢
        subst same
        obtain ⟨_, succeeded, _⟩ := failure
        rw [Executor.answer_take]
        refine succeeded j ?_
        rw [List.length_take] at h
        omega

/-! ## Compiled states -/

theorem compiled_compileIn (world : World) (compiler : Compiler) :
    (compiler.compileIn world).compiler.compiled = true ↔
      compiler.compiled = true ∨ (compiler.compileIn world).outcome = .ok () := by
  cases outcome : (expansion compiler.manifest world compiler.store).outcome with
  | error e => simp [compileIn_of_error outcome]
  | ok actions => simp [compileIn_of_ok outcome]

theorem compiled_after :
    (compiler.after history).compiled = true ↔
      compiler.compiled = true ∨ ∃ i, ∃ h : i < history.length,
        ((compiler.after (history.take i)).compileIn history[i]).outcome = .ok () := by
  induction history generalizing compiler with
  | nil => simp [after]
  | cons world rest ih =>
      rw [after_cons, ih, compiled_compileIn, or_assoc]
      refine or_congr_right ?_
      constructor
      · rintro (first | ⟨i, h, later⟩)
        · exact ⟨0, Nat.zero_lt_succ _, first⟩
        · exact ⟨i + 1, Nat.succ_lt_succ h, later⟩
      · rintro ⟨i, h, accepted⟩
        cases i with
        | zero => exact .inl accepted
        | succ i => exact .inr ⟨i, Nat.lt_of_succ_lt_succ h, accepted⟩

theorem named_compileIn (world : World) (named : compiler.catalog.Named) :
    (compiler.compileIn world).compiler.catalog.Named := by
  cases outcome : (expansion compiler.manifest world compiler.store).outcome with
  | error e =>
      rw [(compileIn_of_error outcome).2]
      exact named
  | ok actions =>
      rw [(compileIn_of_ok outcome).2]
      exact Catalog.named_build _

theorem named_after (named : compiler.catalog.Named) :
    (compiler.after history).catalog.Named :=
  after_of_step (fun later => later.catalog.Named) (fun _ world => named_compileIn world) named

theorem registries_of_calls (compiler : Compiler) (command : PackCommand) :
    (compiler.calls command).filterMap Call.registry? = compiler.catalog.toList := by
  simp [calls, Call.registry?, List.filterMap_append, List.filterMap_map, Function.comp_def]

/-- A command stops at the first call that fails. Before any compilation has succeeded it is refused
and no call is made. After that the executor receives either all planned calls, none of which
fails, or those up to the first that fails, whose error is the result. No registry is added twice,
and under another command the calls differ in the command alone. Noting the calls changes neither the
result nor what the executor does. -/
theorem execute_calls {σ : Type} (manifest : Manifest) (store : EnvironmentStore)
    (history : List World) (command : PackCommand) (executor : Executor σ) (state : σ) :
    let compiler := (new manifest store).after history
    let calls := compiler.calls command
    let received := compiler.received command executor state
    let result := (compiler.execute command executor state).outcome
    (compiler.compiled = true ↔ ∃ i, ∃ h : i < history.length,
      (((new manifest store).after (history.take i)).compileIn history[i]).outcome = .ok ()) ∧
    (compiler.compiled = false → result = .error .notCompiled ∧ received = []) ∧
    (compiler.compiled = true →
      (result = .ok () ↔ executor.AllSucceed state calls) ∧
      ((executor.AllSucceed state calls ∧ received = calls) ∨
        ∃ i e, executor.FirstFailure state calls i e ∧ received = calls.take (i + 1) ∧
          result = .error (.execution e))) ∧
    ((received.filterMap Call.registry?).map Registry.name).Nodup ∧
    (∀ other, compiler.calls other = calls.map (Call.retarget other)) ∧
    let traced := compiler.execute command executor.tracing (state, [])
    traced.outcome = result ∧
      traced.state.1 = (compiler.execute command executor state).state := by
  intro compiler calls received result
  obtain ⟨outcome, _, final⟩ := execute_tracing compiler command executor state []
  refine ⟨?_, ?_, ?_, ?_, fun other => calls_retarget other, outcome, final⟩
  · rw [compiled_after]
    simp [new]
  · intro fresh
    exact ⟨congrArg Execution.outcome (execute_of_not_compiled fresh),
      received_of_not_compiled fresh⟩
  · intro compiled
    rcases executor.allSucceed_or_firstFailure state calls with all | ⟨i, e, failure⟩
    · have outcome := (execute_of_allSucceed compiled all).1
      exact ⟨iff_of_true outcome all, .inl ⟨all, received_of_allSucceed compiled all⟩⟩
    · have outcome := (execute_of_firstFailure compiled failure).1
      refine ⟨iff_of_false ?_ failure.not_allSucceed,
        .inr ⟨i, e, failure, received_of_firstFailure compiled failure, outcome⟩⟩
      intro accepted
      cases outcome.symm.trans accepted
  · have all : (compiler.catalog.toList.map Registry.name).Nodup :=
      (named_after Catalog.named_empty).nodup
    rw [← registries_of_calls compiler command] at all
    exact all.sublist ((received_isPrefix_calls.sublist.filterMap _).map _)

end Compiler

end Packfile
