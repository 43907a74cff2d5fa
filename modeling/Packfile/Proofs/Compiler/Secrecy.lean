import Packfile.CommandLine.Run
import Packfile.Proofs.Compiler.Processes

/-!
# Secrecy of tokens

The token of an action reaches nothing but the environment of the action's own process. This is
stated of two runs that differ in one token: as long as their processes end alike, they cannot be
told apart by anything but that process. The two runs go in lockstep, since each call in the one
starts a process exactly when its counterpart in the other does, and reports the same.
-/

namespace Packfile

/-- A text that a process can be handed as its token. -/
def IsToken (token : String) : Prop :=
  token ≠ "" ∧ '\x00' ∉ token.toList

instance (token : String) : Decidable (IsToken token) :=
  inferInstanceAs (Decidable (token ≠ "" ∧ '\x00' ∉ token.toList))

/-- Two processes are alike but for the tokens that they are handed. -/
structure Launch.AlikeUpToToken (first second : Launch) (token other : String) : Prop where
  program : second.program = first.program
  args : second.args = first.args
  directory : second.directory = first.directory
  environment : ∃ rest : ProcessEnvironment, (∀ entry ∈ rest, entry.1 ≠ "NOMAD_TOKEN") ∧
    first.environment = rest ++ [("NOMAD_TOKEN", .text token)] ∧
    second.environment = rest ++ [("NOMAD_TOKEN", .text other)]

namespace Call

/-- The call without its token. -/
def concealed : Call → Call
  | .addRegistry registry => .addRegistry registry
  | .release command invocation =>
    .release command { invocation with target := { invocation.target with token := "" } }

/-- What is left of a call without its token says everything else about it. -/
theorem concealed_eq {first second : Call} (same : second.concealed = first.concealed) :
    (∃ registry, first = .addRegistry registry ∧ second = .addRegistry registry) ∨
      ∃ command invocation target, first = .release command invocation ∧
        second = .release command { invocation with target } := by
  cases first with
  | addRegistry registry =>
      cases second with
      | addRegistry registry' => exact .inl ⟨registry, rfl, same⟩
      | release command invocation => cases same
  | release command invocation =>
      cases second with
      | addRegistry registry => cases same
      | release command' invocation' =>
          simp only [concealed, Call.release.injEq, Invocation.mk.injEq] at same
          obtain ⟨rfl, workDir, varFiles, vars, packArgs, _⟩ := same
          refine .inr ⟨command', invocation, invocation'.target, rfl, ?_⟩
          rw [← workDir, ← varFiles, ← vars, ← packArgs]

end Call

namespace NomadPack

variable {tool : NomadPack} {host other : Host} {first second : Call}

/-- The cluster of a release has no part in the arguments. -/
@[simp] theorem releaseArgs_target (command : PackCommand) (invocation : Invocation)
    (target : ClusterTarget) :
    releaseArgs command { invocation with target } = releaseArgs command invocation := rfl

/-- Calls that differ in their tokens are reported alike if their requests end alike. -/
theorem step_of_concealed (same : second.concealed = first.concealed)
    (ended : tool.dryRun = false → (other.run (tool.request other.environment second)).1 =
      (host.run (tool.request host.environment first)).1) :
    (tool.step other second).outcome = (tool.step host first).outcome ∧
      (tool.step other second).log = (tool.step host first).log := by
  cases dry : tool.dryRun with
  | true =>
      rcases Call.concealed_eq same with
        ⟨registry, rfl, rfl⟩ | ⟨command, invocation, target, rfl, rfl⟩
      · simp [step, addRegistry, dry]
      · simp [step, release, dry]
  | false =>
      rcases left : host.run (tool.request host.environment first) with ⟨result, after⟩
      rcases right : other.run (tool.request other.environment second) with ⟨result', after'⟩
      obtain rfl : result' = result := by
        have ended := ended dry
        rwa [left, right] at ended
      rcases Call.concealed_eq same with
        ⟨registry, rfl, rfl⟩ | ⟨command, invocation, target, rfl, rfl⟩
      · simp only [request] at left right
        cases result' with
        | error e => simp [step, addRegistry, dry, left, right]
        | ok ended =>
            by_cases well : ended.status.isSuccess = true <;>
              simp [step, addRegistry, dry, left, right, well]
      · simp only [request, releaseArgs_target] at left right
        cases result' with
        | error e => simp [step, release, dry, left, right]
        | ok ended =>
            by_cases well : ended.status.isSuccess = true <;>
              simp [step, release, dry, left, right, well]

/-- Two calls are in step: they are the same but for a token, and their requests start a process
each, or are refused for the same reason. -/
def InStep (tool : NomadPack) (host : Host) (first second : Call) : Prop :=
  second.concealed = first.concealed ∧
    ((∃ e, host.prepare (tool.request host.environment first) = .error e ∧
        host.prepare (tool.request host.environment second) = .error e) ∨
      ∃ launch launch', host.prepare (tool.request host.environment first) = .ok launch ∧
        host.prepare (tool.request host.environment second) = .ok launch')

theorem inStep_refl (tool : NomadPack) (host : Host) (call : Call) :
    tool.InStep host call call := by
  refine ⟨rfl, ?_⟩
  cases prepared : host.prepare (tool.request host.environment call) with
  | error e => exact .inl ⟨e, rfl, rfl⟩
  | ok launch => exact .inr ⟨launch, launch, rfl, rfl⟩

/-- The requests of calls that are in step end alike if the processes do. -/
theorem run_inStep (parallel : host.Parallel other) (inStep : tool.InStep host first second)
    (alike : ∀ launch launch',
      host.prepare (tool.request host.environment first) = .ok launch →
      host.prepare (tool.request host.environment second) = .ok launch' →
        other.behaviour.ending other.started launch' = host.behaviour.ending host.started launch) :
    let ran := host.run (tool.request host.environment first)
    let ran' := other.run (tool.request other.environment second)
    ran'.1 = ran.1 ∧ ran.2.Parallel ran'.2 := by
  intro ran ran'
  have asOther : other.prepare (tool.request other.environment second) =
      host.prepare (tool.request host.environment second) := by
    rw [parallel.environment, parallel.prepare]
  rcases inStep.2 with ⟨e, left, right⟩ | ⟨launch, launch', left, right⟩
  · have ended : ran = _ := Host.run_of_error left
    have ended' : ran' = _ := Host.run_of_error (asOther.trans right)
    rw [ended, ended']
    exact ⟨rfl, parallel⟩
  · have ended : ran = _ := Host.run_of_ok left
    have ended' : ran' = _ := Host.run_of_ok (asOther.trans right)
    rw [ended, ended', alike launch launch' left right]
    exact ⟨rfl, parallel.starting launch launch'⟩

/-- One step: calls that are in step, on hosts where their processes end alike, report the same. -/
theorem step_inStep (parallel : host.Parallel other) (inStep : tool.InStep host first second)
    (alike : tool.dryRun = false → ∀ launch launch',
      host.prepare (tool.request host.environment first) = .ok launch →
      host.prepare (tool.request host.environment second) = .ok launch' →
        other.behaviour.ending other.started launch' = host.behaviour.ending host.started launch) :
    (tool.step other second).outcome = (tool.step host first).outcome ∧
      (tool.step other second).log = (tool.step host first).log ∧
      (tool.step host first).state.Parallel (tool.step other second).state := by
  obtain ⟨outcome, log⟩ := step_of_concealed inStep.1 fun real =>
    (run_inStep parallel inStep (alike real)).1
  refine ⟨outcome, log, ?_⟩
  cases dry : tool.dryRun with
  | true =>
      rw [(step_of_dryRun dry host first).2, (step_of_dryRun dry other second).2]
      exact parallel
  | false =>
      rw [step_state_of_real dry, step_state_of_real dry]
      exact (run_inStep parallel inStep (alike dry)).2

/-- The token of a release has no part in how its process is started; it only adds an entry. -/
theorem prepare_token (tool : NomadPack) (host : Host) (command : PackCommand)
    (invocation : Invocation) {token : String} (usable : IsToken token) :
    host.prepare (tool.request host.environment
        (.release command { invocation with target := { invocation.target with token } })) =
      (host.prepare (tool.request host.environment
        (Call.release command invocation).concealed)).map fun launch =>
          { launch with
            environment := releaseEnvironment host.environment
              { invocation.target with token := "" } ++ [("NOMAD_TOKEN", .text token)] } := by
  have named : "NOMAD_TOKEN" ≠ "PATH" := by decide
  have clean : '\x00' ∉ "NOMAD_TOKEN".toList ∧ (RawValue.text token).hasNul = false :=
    ⟨by simp, by simpa [RawValue.hasNul] using usable.2⟩
  simp only [request, Call.concealed, releaseEnvironment_token usable.1]
  exact Host.prepare_concat (tool.request host.environment (.release command invocation)) named clean

/-- Two usable tokens of one release are in step, and the processes differ in nothing else. -/
theorem prepare_tokens (tool : NomadPack) (host : Host) (command : PackCommand)
    (invocation : Invocation) {token : String} (own : IsToken invocation.target.token)
    (usable : IsToken token) :
    let first := host.prepare (tool.request host.environment (.release command invocation))
    let second := host.prepare (tool.request host.environment
      (.release command { invocation with target := { invocation.target with token } }))
    (∃ e, first = .error e ∧ second = .error e) ∨
      ∃ launch launch', first = .ok launch ∧ second = .ok launch' ∧
        launch.AlikeUpToToken launch' invocation.target.token token := by
  intro first second
  have left : first = _ := prepare_token tool host command invocation own
  have right : second = _ := prepare_token tool host command invocation usable
  cases base : host.prepare (tool.request host.environment
      (Call.release command invocation).concealed) with
  | error e =>
      rw [base] at left right
      exact .inl ⟨e, left, right⟩
  | ok launch =>
      rw [base] at left right
      refine .inr ⟨_, _, left, right, rfl, rfl, rfl, _, ?_, rfl, rfl⟩
      intro entry member named
      obtain ⟨name, value⟩ := entry
      subst named
      rw [mem_releaseEnvironment] at member
      simp [forwardedVariables] at member

end NomadPack

namespace Compiler

variable {tool : NomadPack} {host other : Host} {first second : List (LogEntry × Call)}
variable {compiler : Compiler} {command : PackCommand}

/-! ## Scripts in step -/

/-- Two scripts report the same before their calls, which are in step one by one. -/
def ScriptsInStep (tool : NomadPack) (host : Host) :
    List (LogEntry × Call) → List (LogEntry × Call) → Prop :=
  List.Forall₂ fun step step' => step'.1 = step.1 ∧ tool.InStep host step.2 step'.2

/-- Scripts that are in step, on hosts whose processes end alike, report the same and start equally
many processes. -/
theorem play_inStep (parallel : host.Parallel other) (inStep : ScriptsInStep tool host first second)
    (alike : (play tool.step host first).state.EndsLike (play tool.step other second).state
      host.started.length) :
    (play tool.step other second).outcome = (play tool.step host first).outcome ∧
      (play tool.step other second).log = (play tool.step host first).log ∧
      (play tool.step host first).state.Parallel (play tool.step other second).state := by
  induction first generalizing host other second with
  | nil =>
      cases inStep
      exact ⟨rfl, rfl, parallel⟩
  | cons step rest ih =>
      obtain ⟨step', rest', ⟨announced, head⟩, later, rfl⟩ :=
        List.forall₂_cons_left_iff.mp inStep
      have ends : tool.dryRun = false → ∀ launch launch',
          host.prepare (tool.request host.environment step.2) = .ok launch →
          host.prepare (tool.request host.environment step'.2) = .ok launch' →
            other.behaviour.ending other.started launch' =
              host.behaviour.ending host.started launch := by
        intro real launch launch' left right
        rw [← parallel.prepare, ← parallel.environment] at right
        have next : (play tool.step other (step' :: rest')).state.ended? other.started.length =
            some (other.behaviour.ending other.started launch') := ended?_play_cons real right
        rw [parallel.count] at next
        exact alike _ (Nat.le_refl _) _ (ended?_play_cons real left) _ next
      obtain ⟨outcome, log, parallel'⟩ := NomadPack.step_inStep parallel head ends
      cases answer : (tool.step host step.2).outcome with
      | error e =>
          rw [play_cons_of_error answer, play_cons_of_error (outcome.trans answer)]
          exact ⟨rfl, by rw [announced, log], parallel'⟩
      | ok _ =>
          -- what has been started so far has no part in whether later calls are in step
          obtain ⟨launches, grown⟩ := NomadPack.step_state tool host step.2
          have later' : ScriptsInStep tool (tool.step host step.2).state rest rest' := by
            rw [grown]
            exact later
          have count : host.started.length ≤ (tool.step host step.2).state.started.length := by
            simp [grown]
          rw [play_cons_of_ok answer, play_cons_of_ok (outcome.trans answer)] at alike ⊢
          obtain ⟨outcome', log', final⟩ := ih parallel' later' (alike.mono count)
          exact ⟨outcome', by simp only [announced, log, log'], final⟩

/-! ## Compiled states that differ in a token -/

/-- The compiler after the token of the action at a position has been replaced. -/
def withToken (compiler : Compiler) (k : Nat) (token : String) : Compiler :=
  { compiler with actions := compiler.actions.modify k fun action => { action with token } }

variable {k : Nat} {token : String} {action : Action}

/-- Only the call of the action itself is another one. -/
theorem calls_withToken {i : Nat} (elsewhere : i ≠ compiler.catalog.toList.length + k) :
    ((compiler.withToken k token).calls command)[i]? = (compiler.calls command)[i]? := by
  rcases Nat.lt_or_ge i compiler.catalog.toList.length with front | back
  · simp [calls, withToken, List.getElem?_append_left, front]
  · have different : k ≠ i - compiler.catalog.toList.length := by omega
    simp [calls, withToken, List.getElem?_append_right, back, different]

/-- Two calls of one release whose tokens can be handed to processes are in step. -/
theorem inStep_of_tokens (tool : NomadPack) (host : Host) (command : PackCommand)
    (own : IsToken action.token) (usable : IsToken token) :
    tool.InStep host (.release command action.invocation)
      (.release command { action with token }.invocation) := by
  refine ⟨rfl, ?_⟩
  rcases NomadPack.prepare_tokens tool host command action.invocation own usable with
    refused | ⟨launch, launch', left, right, _⟩
  · exact .inl refused
  · exact .inr ⟨launch, launch', left, right⟩

theorem script_withToken (tool : NomadPack) (host : Host) (command : PackCommand)
    (found : compiler.actions[k]? = some action) (own : IsToken action.token)
    (usable : IsToken token) :
    ScriptsInStep tool host (compiler.script command)
      ((compiler.withToken k token).script command) := by
  refine List.rel_append ?_ ?_
  · exact List.forall₂_same.mpr fun step _ => ⟨rfl, NomadPack.inStep_refl tool host step.2⟩
  · refine List.forall₂_iff_get.mpr ⟨by simp [releaseCalls, withToken], ?_⟩
    intro i h h'
    have bound : i < compiler.actions.length := by simpa [releaseCalls] using h
    simp only [releaseCalls, withToken, List.get_eq_getElem, List.getElem_map,
      List.getElem_zipIdx, List.getElem_modify, List.length_modify]
    by_cases here : k = i
    · subst here
      obtain rfl : compiler.actions[k] = action := (List.getElem?_eq_some_iff.mp found).2
      rw [if_pos rfl]
      exact ⟨rfl, inStep_of_tokens tool host command own usable⟩
    · rw [if_neg here]
      exact ⟨rfl, NomadPack.inStep_refl tool host _⟩

/-- What is printed of an action does not show which token it has. -/
theorem toTree_withToken (found : compiler.actions[k]? = some action) (own : IsToken action.token)
    (usable : IsToken token) : (compiler.withToken k token).toTree = compiler.toTree := by
  have actions : (compiler.withToken k token).actions.map Action.toTree =
      compiler.actions.map Action.toTree := by
    refine List.ext_getElem? ?_
    intro i
    rw [withToken, List.getElem?_map, List.getElem?_map, List.getElem?_modify]
    by_cases here : k = i
    · subst here
      simp [found, Action.toTree, Action.redacted, own.1, usable.1]
    · simp [here]
  simp only [toTree, actions]
  rfl

/-! ## Executing a command -/

/-- Commands on compiled states that differ in one token report the same and start equally many
processes, as long as those end alike. -/
theorem execute_withToken (behaviour : Behaviour)
    (found : compiler.actions[k]? = some action) (own : IsToken action.token)
    (usable : IsToken token)
    (alike : (compiler.execute command tool.step host).state.EndsLike
      ((compiler.withToken k token).execute command tool.step { host with behaviour }).state
      host.started.length) :
    let first := compiler.execute command tool.step host
    let second := (compiler.withToken k token).execute command tool.step { host with behaviour }
    second.outcome = first.outcome ∧ second.log = first.log ∧
      second.state.started.length = first.state.started.length := by
  intro first second
  cases compiled : compiler.compiled with
  | false =>
      have left : first = ⟨.error .notCompiled, [], host⟩ := execute_of_not_compiled compiled
      have right : second = ⟨.error .notCompiled, [], { host with behaviour }⟩ :=
        execute_of_not_compiled compiled
      rw [left, right]
      exact ⟨rfl, rfl, rfl⟩
  | true =>
      have compiled' : (compiler.withToken k token).compiled = true := compiled
      have total : (compiler.withToken k token).actions.length = compiler.actions.length :=
        List.length_modify ..
      rw [execute_state_eq compiled, execute_state_eq compiled'] at alike
      obtain ⟨outcome, log, parallel⟩ := play_inStep (host.parallel_behaviour behaviour)
        (script_withToken tool host command found own usable) alike
      have count : second.state.started.length = first.state.started.length := by
        rw [execute_state_eq compiled, execute_state_eq compiled']
        exact parallel.count
      refine ⟨?_, ?_, count⟩
      · simp only [first, second, execute, compiled, compiled', if_true, outcome]
        split <;> rfl
      · simp only [first, second, execute, compiled, compiled', if_true, outcome, log, total]
        split <;> rfl

/-- Two executions show no difference but in the token of the process at one position. -/
structure Execution.AlikeUpToToken (first second : Execution Host) (position : Nat)
    (token other : String) : Prop where
  outcome : second.outcome = first.outcome
  log : second.log = first.log
  count : second.state.started.length = first.state.started.length
  others : ∀ i, i ≠ position → second.state.started[i]? = first.state.started[i]?
  own : ∀ launch launch', first.state.started[position]? = some launch →
    second.state.started[position]? = some launch' → launch.AlikeUpToToken launch' token other

/-- A release's token reaches only its own process. -/
theorem execute_alikeUpToToken (tool : NomadPack) (behaviour : Behaviour)
    (found : compiler.actions[k]? = some action) (own : IsToken action.token)
    (usable : IsToken token)
    (alike : (compiler.execute command tool.step host).state.EndsLike
      ((compiler.withToken k token).execute command tool.step { host with behaviour }).state
      host.started.length) :
    (compiler.execute command tool.step host).AlikeUpToToken
      ((compiler.withToken k token).execute command tool.step { host with behaviour })
      (host.started.length + (compiler.catalog.toList.length + k)) action.token token := by
  obtain ⟨outcome, log, count⟩ := execute_withToken behaviour found own usable alike
  obtain ⟨launches, left, requested⟩ := execute_state tool host compiler command
  obtain ⟨launches', right, requested'⟩ :=
    execute_state tool { host with behaviour } (compiler.withToken k token) command
  have length : launches'.length = launches.length := by
    rw [left, right, Host.starting_started, Host.starting_started, List.length_append,
      List.length_append] at count
    exact Nat.add_left_cancel count
  refine ⟨outcome, log, count, ?_, ?_⟩
  · intro i elsewhere
    rw [left, right, Host.starting_started, Host.starting_started]
    rcases Nat.lt_or_ge i host.started.length with before | since
    · rw [List.getElem?_append_left before, List.getElem?_append_left before]
    · rw [List.getElem?_append_right since, List.getElem?_append_right since]
      refine NomadPack.Requested.getElem?_eq requested requested' length ?_
      refine calls_withToken ?_
      omega
  · intro launch launch' first second
    have listed : launches[compiler.catalog.toList.length + k]? = some launch := by
      rw [← Host.getElem?_starting, ← left]
      exact first
    have listed' : launches'[compiler.catalog.toList.length + k]? = some launch' := by
      rw [← Host.getElem?_starting, ← right]
      exact second
    have found' : (compiler.withToken k token).actions[k]? = some { action with token } := by
      simp [withToken, found]
    have prepared := release_of_requested requested found listed
    have prepared' := release_of_requested requested' found' listed'
    rcases NomadPack.prepare_tokens tool host command action.invocation own usable with
      ⟨e, refused, _⟩ | ⟨started, started', expected, expected', alike⟩
    · rw [prepared] at refused
      cases refused
    · obtain rfl := Except.ok.inj (prepared.symm.trans expected)
      obtain rfl := Except.ok.inj (prepared'.symm.trans expected')
      exact alike

/-- A release's token reaches only its own process: replacing it by another one changes nothing that
a command reports, neither the arguments nor the directory of any process, and not the environment
of any other process, as long as the processes end alike; and nothing that is printed. The
environment of a release's process is exactly `HOME` and `TERM` of the parent, as far as they are
set, and the address and the token of its own cluster, unless these are empty. -/
theorem execute_conceals (tool : NomadPack) (host : Host) (compiler : Compiler)
    (command : PackCommand) :
    let execution := compiler.execute command tool.step host
    let position := fun j => host.started.length + (compiler.catalog.toList.length + j)
    (∀ (k : Nat) (token : String) (action : Action), compiler.actions[k]? = some action →
      IsToken action.token → IsToken token →
      let other := compiler.withToken k token
      (∀ behaviour,
        let second := other.execute command tool.step { host with behaviour }
        execution.state.EndsLike second.state host.started.length →
          execution.AlikeUpToToken second (position k) action.token token) ∧
      ∀ format, CommandLine.printed other format = CommandLine.printed compiler format) ∧
    ∀ (j : Nat) (action : Action) (launch : Launch), compiler.actions[j]? = some action →
      execution.state.started[position j]? = some launch →
      (launch.environment.map Prod.fst).Nodup ∧
      ∀ name value, (name, value) ∈ launch.environment ↔
        (name ∈ ["HOME", "TERM"] ∧
          ProcessEnvironment.get? host.environment name = some value) ∨
        (action.address ≠ "" ∧ name = "NOMAD_ADDR" ∧ value = .text action.address) ∨
        (action.token ≠ "" ∧ name = "NOMAD_TOKEN" ∧ value = .text action.token) := by
  intro execution position
  refine ⟨?_, ?_⟩
  · intro k token action found own usable other
    refine ⟨?_, ?_⟩
    · intro behaviour second alike
      exact execute_alikeUpToToken tool behaviour found own usable alike
    · intro format
      have same : other.toTree = compiler.toTree := toTree_withToken found own usable
      simp only [CommandLine.printed, same]
  · intro j action launch found started
    obtain ⟨launches, final, requested⟩ := execute_state tool host compiler command
    have listed : launches[compiler.catalog.toList.length + j]? = some launch := by
      rw [← Host.getElem?_starting, ← final]
      exact started
    have environment : launch.environment =
        NomadPack.releaseEnvironment host.environment action.target :=
      Host.prepare_environment (release_of_requested requested found listed)
    rw [environment]
    exact ⟨NomadPack.nodup_releaseEnvironment _ _, fun _ _ => NomadPack.mem_releaseEnvironment⟩

/-- The compiled releases of one registry. -/
def twoReleases : Compiler :=
  let registry : Registry := { name := "community", url := "github.com/x/y" }
  let release (name token : String) : Action :=
    { name, environment := "dev", pack := { name }, varFiles := [], vars := ∅, workDir := "/w"
      address := "http://dev:4646", token }
  { manifest := {}
    store := ∅
    catalog := (Catalog.build [registry]).1
    actions := [release "web" "first", release "db" "second"]
    compiled := true }

/-- A host with the pack tool, on which every process ends well. -/
def quietHost : Host where
  fs := {
    entries := [(["bin"], .directory), (["w"], .directory),
      (["bin", "nomad-pack"], .file ⟨#[0x7f, 0x45, 0x4c, 0x46]⟩ 0o755)]
    current := ["w"] }
  environment := [("HOME", .text "/root"), ("SECRET", .text "parent")]
  behaviour := ⟨fun _ _ => ⟨.exited 0, .empty⟩⟩

/-- Another token for the first of two releases reaches the second of three processes only. -/
theorem execute_conceals_two_releases :
    let tool : NomadPack := { binary := "/bin/nomad-pack" }
    let other := twoReleases.withToken 0 "other"
    let first := twoReleases.execute .run tool.step quietHost
    let second := other.execute .run tool.step quietHost
    IsToken "first" ∧ IsToken "other" ∧
    first.state.EndsLike second.state 0 ∧
    first.AlikeUpToToken second 1 "first" "other" ∧
    CommandLine.printed other .json = CommandLine.printed twoReleases .json ∧
    first.state.started.map Launch.environment =
      [quietHost.environment,
        [("HOME", .text "/root"), ("NOMAD_ADDR", .text "http://dev:4646"),
          ("NOMAD_TOKEN", .text "first")],
        [("HOME", .text "/root"), ("NOMAD_ADDR", .text "http://dev:4646"),
          ("NOMAD_TOKEN", .text "second")]] ∧
    second.state.started[1]? ≠ first.state.started[1]? := by
  intro tool other first second
  have own : IsToken "first" := by decide +kernel
  have usable : IsToken "other" := by decide +kernel
  have alike : first.state.EndsLike second.state 0 := by
    obtain ⟨_, left, _⟩ := execute_state tool quietHost twoReleases .run
    obtain ⟨_, right, _⟩ := execute_state tool quietHost other .run
    intro i _ ending found ending' found'
    rw [left] at found
    rw [right] at found'
    simp only [Host.ended?, Host.starting, quietHost, Option.mem_def, Option.map_eq_some_iff]
      at found found'
    obtain ⟨_, _, rfl⟩ := found
    obtain ⟨_, _, rfl⟩ := found'
    rfl
  obtain ⟨reported, printed⟩ :=
    (execute_conceals tool quietHost twoReleases .run).1 0 "other" _ rfl own usable
  refine ⟨own, usable, alike, reported quietHost.behaviour alike, printed .json, ?_, ?_⟩
  · decide +kernel
  · decide +kernel

end Compiler

end Packfile
