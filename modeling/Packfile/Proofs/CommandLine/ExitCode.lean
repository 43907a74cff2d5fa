import Packfile.CommandLine.Run
import Packfile.Proofs.Compiler.Calls
import Packfile.Proofs.Executor.Processes
import Packfile.Proofs.Manifest.Loading

/-!
# Exit codes

A run goes through four stages: it loads the manifest, compiles it, looks for the pack tool and
makes the calls. The first stage that fails ends the run, and each stage has exit codes of its own.
Only the last one starts processes, so whenever one has been started the whole manifest has been
compiled.
-/

namespace Packfile

/-- What a compilation reads from a host. -/
def Host.world (host : Host) : Compiler.World where
  fs := host.fs
  process := host.environment

/-! ## What a failure is reported as -/

namespace Failure

theorem exitCode_load (file : String) (e : Manifest.LoadError) :
    (Failure.load file e).exitCode = .configuration := by
  cases e <;> rfl

theorem exitCode_compile (file : String) (e : CompileError) :
    (Failure.compile file e).exitCode = if e.isConfiguration then .configuration else .template := by
  cases e <;> rfl

theorem exitCode_binary (e : RunnerError) : (Failure.binary e).exitCode = .execution := by
  cases e <;> rfl

theorem exitCode_command (command : PackCommand) (e : RunnerError) :
    (Failure.command command (.execution e)).exitCode = .execution := by
  cases e <;> rfl

end Failure

namespace CommandLine

variable {line : CommandLine} {host : Host} {compiler : Compiler} {e : CompileError}
variable {command : PackCommand} {manifest : Manifest}

/-- What the command line keeps of a manifest. -/
def selection (line : CommandLine) : Manifest.Selection where
  environment := line.environment
  release := line.release

/-- The manifest is loaded, and this is the first error of compiling what is kept of it. -/
def CompileFails (line : CommandLine) (host : Host) (e : CompileError) : Prop :=
  ∃ manifest, Manifest.Loads host.fs line.selection line.file manifest ∧
    Compiler.FailsWith manifest host.world (.capture host.environment) e

/-- The manifest is loaded, and this is the compiler after all that is kept of it has been
compiled. -/
def Compiles (line : CommandLine) (host : Host) (compiler : Compiler) : Prop :=
  ∃ manifest, Manifest.Loads host.fs line.selection line.file manifest ∧
    let compilation := (Compiler.new manifest (.capture host.environment)).compileIn host.world
    compilation.outcome = .ok () ∧ compilation.compiler = compiler

/-- The manifest cannot be loaded, or the first error of compiling is a reference to a pack that is
malformed or names an unknown registry. -/
def Misconfigured (line : CommandLine) (host : Host) : Prop :=
  Manifest.Unloadable host.fs line.file ∨
    (∃ release reference, line.CompileFails host (.invalidPackReference release reference)) ∨
    ∃ release registry, line.CompileFails host (.registryNotFound release registry)

/-- The first error of compiling is one of a template or of an environment file. -/
def Unresolvable (line : CommandLine) (host : Host) : Prop :=
  (∃ release field cause, line.CompileFails host (.template release field cause)) ∨
    ∃ release cause, line.CompileFails host (.environmentFile release cause)

/-- The manifest compiles and a command is to be applied in earnest, but the binary is not found or
one of the calls fails. -/
def Inapplicable (line : CommandLine) (host : Host) : Prop :=
  ∃ compiler command, line.Compiles host compiler ∧ line.task = .apply command ∧
    line.dryRun = false ∧
    ((∃ e, NomadPack.resolveBinary host.fs host.environment line.binary = .error e) ∨
      ∃ binary, NomadPack.resolveBinary host.fs host.environment line.binary = .ok binary ∧
        ∃ i, NomadPack.FailsAt { binary } host (compiler.calls command) i ∧
          ∀ j < i, ¬ NomadPack.FailsAt { binary } host (compiler.calls command) j)

/-! ## The stages -/

theorem load_eq_ok :
    line.load host = .ok manifest ↔ Manifest.Loads host.fs line.selection line.file manifest := by
  rw [← Manifest.load_eq_ok]
  exact mapError_eq_ok

theorem exists_load_eq_error :
    (∃ failure, line.load host = .error failure) ↔ Manifest.Unloadable host.fs line.file := by
  rw [← Manifest.exists_load_eq_error line.selection]
  constructor
  · rintro ⟨failure, failed⟩
    obtain ⟨e, refused, -⟩ := mapError_eq_error.mp failed
    exact ⟨e, refused⟩
  · rintro ⟨e, refused⟩
    exact ⟨_, mapError_eq_error.mpr ⟨e, refused, rfl⟩⟩

theorem load_or_compile (line : CommandLine) (host : Host) :
    Manifest.Unloadable host.fs line.file ∨ (∃ e, line.CompileFails host e) ∨
      ∃ compiler, line.Compiles host compiler := by
  cases loaded : line.load host with
  | error failure => exact .inl (exists_load_eq_error.mp ⟨failure, loaded⟩)
  | ok manifest =>
      have loads := load_eq_ok.mp loaded
      refine .inr ?_
      let fresh := Compiler.new manifest (.capture host.environment)
      cases compiled : (fresh.compileIn host.world).outcome with
      | error e =>
          have first := Compiler.expansion_eq_error.mp
            (Compiler.expansion_of_compileIn_error compiled)
          exact .inl ⟨e, manifest, loads, first⟩
      | ok _ => exact .inr ⟨_, manifest, loads, compiled, rfl⟩

/-- A manifest that cannot be loaded ends the run. -/
theorem run_of_unloadable (unloadable : Manifest.Unloadable host.fs line.file) :
    (line.run host).exitCode = .configuration ∧ (line.run host).host = host := by
  obtain ⟨failure, failed⟩ := exists_load_eq_error.mpr unloadable
  obtain ⟨e, _, rfl⟩ := mapError_eq_error.mp failed
  rw [run, failed]
  exact ⟨Failure.exitCode_load line.file e, rfl⟩

/-- So does the first error of compiling. -/
theorem run_of_compileFails (failed : line.CompileFails host e) :
    (line.run host).exitCode = (if e.isConfiguration then .configuration else .template) ∧
      (line.run host).host = host := by
  obtain ⟨manifest, loads, first⟩ := failed
  have loaded := load_eq_ok.mpr loads
  let fresh := Compiler.new manifest (.capture host.environment)
  have expansion : (Compiler.expansion fresh.manifest host.world fresh.store).outcome = .error e :=
    Compiler.expansion_eq_error.mpr first
  have refused : (fresh.compile host.fs host.environment).outcome = .error e :=
    (Compiler.compileIn_of_error expansion).1
  simp only [run, loaded, fresh, refused, RunResult.exitCode, Failure.exitCode_compile, and_self]

/-- Printing the releases cannot fail. -/
theorem run_print (compiles : line.Compiles host compiler) {format : OutputFormat}
    (task : line.task = .print format) :
    (line.run host).exitCode = .success ∧ (line.run host).host = host := by
  obtain ⟨manifest, loads, compiled, _⟩ := compiles
  have loaded := load_eq_ok.mpr loads
  have accepted := compiled
  rw [Compiler.compileIn, Host.world] at accepted
  simp only [run, loaded, accepted, task, RunResult.exitCode, and_self]

/-- Applying a command comes last. -/
theorem run_apply (compiles : line.Compiles host compiler) (task : line.task = .apply command) :
    (line.run host).outcome = (line.applyCommand host command compiler).outcome ∧
      (line.run host).host = (line.applyCommand host command compiler).host := by
  obtain ⟨manifest, loads, compiled, rfl⟩ := compiles
  have loaded := load_eq_ok.mpr loads
  have accepted := compiled
  rw [Compiler.compileIn, Host.world] at accepted
  simp only [run, loaded, accepted, task, Compiler.compileIn, Host.world, and_self]

/-- A command succeeds if all its calls do. -/
theorem applyCommand_of_allSucceed {tool : NomadPack} {found : List LogEntry}
    (compiled : compiler.compiled = true) (ready : line.tool host = .ok (tool, found))
    (all : Executor.AllSucceed tool.step host (compiler.calls command)) :
    (line.applyCommand host command compiler).exitCode = .success ∧
      (line.applyCommand host command compiler).host =
        Executor.stateAfter tool.step host (compiler.calls command) := by
  obtain ⟨outcome, final⟩ := Compiler.execute_of_allSucceed compiled all
  simp only [applyCommand, ready, outcome, final, RunResult.exitCode, and_self]

/-- A call that fails makes the command fail. -/
theorem applyCommand_of_not_allSucceed {tool : NomadPack} {found : List LogEntry}
    (compiled : compiler.compiled = true) (ready : line.tool host = .ok (tool, found))
    (some : ¬ Executor.AllSucceed tool.step host (compiler.calls command)) :
    (line.applyCommand host command compiler).exitCode = .execution := by
  rcases Executor.allSucceed_or_firstFailure tool.step host (compiler.calls command) with
    all | ⟨i, e, failure⟩
  · exact absurd all some
  · have outcome := (Compiler.execute_of_firstFailure compiled failure).1
    simp only [applyCommand, ready, outcome, RunResult.exitCode, Failure.exitCode_command]

/-- A dry run needs no binary, succeeds and starts nothing. -/
theorem applyCommand_of_dryRun (compiled : compiler.compiled = true) (dry : line.dryRun = true) :
    (line.applyCommand host command compiler).exitCode = .success ∧
      (line.applyCommand host command compiler).host = host := by
  have ready : line.tool host = .ok ({ binary := line.binary, dryRun := true }, []) := by
    simp only [tool, dry, if_true]
  obtain ⟨success, final⟩ := applyCommand_of_allSucceed compiled ready
    (NomadPack.allSucceed_of_dryRun rfl)
  exact ⟨success, final.trans (NomadPack.stateAfter_of_dryRun rfl)⟩

/-- A binary that is not found ends the run before any call. -/
theorem applyCommand_of_missing {e : RunnerError} (real : line.dryRun = false)
    (missing : NomadPack.resolveBinary host.fs host.environment line.binary = .error e) :
    (line.applyCommand host command compiler).exitCode = .execution := by
  have failed : line.tool host = .error (.binary e) := by
    simp [tool, real, NomadPack.new, missing, bind, Except.bind, Except.mapError]
  simp only [applyCommand, failed, RunResult.exitCode, Failure.exitCode_binary]

theorem tool_of_found {binary : String} (real : line.dryRun = false)
    (resolved : NomadPack.resolveBinary host.fs host.environment line.binary = .ok binary) :
    ∃ found, line.tool host = .ok ({ binary }, found) := by
  simp [tool, real, NomadPack.new, resolved, bind, Except.bind, Except.mapError, pure, Except.pure]

theorem Compiles.compiled (compiles : line.Compiles host compiler) : compiler.compiled = true := by
  obtain ⟨manifest, _, accepted, rfl⟩ := compiles
  exact (Compiler.compiled_compileIn _ _).mpr (.inr accepted)

/-! ## The exit code -/

theorem exitCode_of_misconfigured (wrong : line.Misconfigured host) :
    (line.run host).exitCode = .configuration ∧ (line.run host).host = host := by
  rcases wrong with unloadable | ⟨release, reference, failed⟩ | ⟨release, registry, failed⟩
  · exact run_of_unloadable unloadable
  · exact run_of_compileFails failed
  · exact run_of_compileFails failed

theorem exitCode_of_unresolvable (wrong : line.Unresolvable host) :
    (line.run host).exitCode = .template ∧ (line.run host).host = host := by
  rcases wrong with ⟨release, field, cause, failed⟩ | ⟨release, cause, failed⟩
  · exact run_of_compileFails failed
  · exact run_of_compileFails failed

theorem exitCode_of_inapplicable (wrong : line.Inapplicable host) :
    (line.run host).exitCode = .execution := by
  obtain ⟨compiler, command, compiles, task, real, cause⟩ := wrong
  rw [RunResult.exitCode, (run_apply compiles task).1]
  rcases cause with ⟨e, missing⟩ | ⟨binary, resolved, some⟩
  · exact applyCommand_of_missing real missing
  · obtain ⟨found, ready⟩ := tool_of_found real resolved
    exact applyCommand_of_not_allSucceed compiles.compiled ready
      ((NomadPack.not_allSucceed_iff rfl).mpr some)

/-- Whatever else compiles ends well. -/
theorem exitCode_of_compiles (compiles : line.Compiles host compiler) :
    line.Inapplicable host ∨ (line.run host).exitCode = .success := by
  cases task : line.task with
  | print format => exact .inr (run_print compiles task).1
  | apply command =>
      have same : (line.run host).exitCode = (line.applyCommand host command compiler).exitCode := by
        rw [RunResult.exitCode, (run_apply compiles task).1]
        rfl
      cases dry : line.dryRun with
      | true => exact .inr (same.trans (applyCommand_of_dryRun compiles.compiled dry).1)
      | false =>
          cases resolved : NomadPack.resolveBinary host.fs host.environment line.binary with
          | error e =>
              exact .inl ⟨compiler, command, compiles, task, dry, .inl ⟨e, resolved⟩⟩
          | ok binary =>
              obtain ⟨found, ready⟩ := tool_of_found dry resolved
              by_cases all : Executor.AllSucceed (NomadPack.step { binary }) host
                (compiler.calls command)
              · exact .inr (same.trans
                  (applyCommand_of_allSucceed compiles.compiled ready all).1)
              · have some := (NomadPack.not_allSucceed_iff rfl).mp all
                exact .inl ⟨compiler, command, compiles, task, dry, .inr ⟨binary, resolved, some⟩⟩

/-- Every run is of one of four kinds. -/
theorem run_cases (line : CommandLine) (host : Host) :
    line.Misconfigured host ∨ line.Unresolvable host ∨ line.Inapplicable host ∨
      (line.run host).exitCode = .success := by
  rcases load_or_compile line host with unloadable | ⟨e, failed⟩ | ⟨compiler, compiles⟩
  · exact .inl (.inl unloadable)
  · cases e with
    | invalidPackReference release reference =>
        exact .inl (.inr (.inl ⟨release, reference, failed⟩))
    | registryNotFound release registry =>
        exact .inl (.inr (.inr ⟨release, registry, failed⟩))
    | template release field cause =>
        exact .inr (.inl (.inl ⟨release, field, cause, failed⟩))
    | environmentFile release cause => exact .inr (.inl (.inr ⟨release, cause, failed⟩))
  · exact .inr (.inr (exitCode_of_compiles compiles))

/-- Nothing is started unless the manifest compiles and a command is applied in earnest. -/
theorem compiles_of_started (started : (line.run host).host ≠ host) :
    (∃ compiler, line.Compiles host compiler) ∧ (∃ command, line.task = .apply command) ∧
      line.dryRun = false := by
  rcases load_or_compile line host with unloadable | ⟨e, failed⟩ | ⟨compiler, compiles⟩
  · exact absurd (run_of_unloadable unloadable).2 started
  · exact absurd (run_of_compileFails failed).2 started
  · cases task : line.task with
    | print format => exact absurd (run_print compiles task).2 started
    | apply command =>
        refine ⟨⟨compiler, compiles⟩, ⟨command, rfl⟩, ?_⟩
        cases dry : line.dryRun with
        | false => rfl
        | true =>
            rw [(run_apply compiles task).2] at started
            exact absurd (applyCommand_of_dryRun compiles.compiled dry).2 started

/-- The exit code is 2 exactly if the manifest cannot be loaded or the first error of compiling is a
reference to a pack that is malformed or names an unknown registry; 3 exactly if that error is one
of a template or of an environment file; 4 exactly if a command is applied in earnest to a manifest
that compiles, and the binary is not found or a call fails; and 0 in all other cases. No process is
started unless the whole manifest compiles, so none is when the exit code is 2 or 3, and none is by
printing or in a dry run. -/
theorem run_exitCode (line : CommandLine) (host : Host) :
    let result := line.run host
    let code := result.exitCode.toNat
    (code = 2 ↔ line.Misconfigured host) ∧
    (code = 3 ↔ line.Unresolvable host) ∧
    (code = 4 ↔ line.Inapplicable host) ∧
    (code = 0 ↔ ¬ line.Misconfigured host ∧ ¬ line.Unresolvable host ∧ ¬ line.Inapplicable host) ∧
    code ≠ 1 ∧
    (result.host ≠ host → (∃ compiler, line.Compiles host compiler) ∧
      (∃ command, line.task = .apply command) ∧ line.dryRun = false ∧ code ≠ 2 ∧ code ≠ 3) := by
  intro result code
  have configuration : line.Misconfigured host → code = 2 := by
    intro wrong
    exact congrArg ExitCode.toNat (exitCode_of_misconfigured wrong).1
  have template : line.Unresolvable host → code = 3 := by
    intro wrong
    exact congrArg ExitCode.toNat (exitCode_of_unresolvable wrong).1
  have execution : line.Inapplicable host → code = 4 := by
    intro wrong
    exact congrArg ExitCode.toNat (exitCode_of_inapplicable wrong)
  have kinds : line.Misconfigured host ∨ line.Unresolvable host ∨ line.Inapplicable host ∨
      code = 0 := by
    rcases run_cases line host with first | second | third | success
    · exact .inl first
    · exact .inr (.inl second)
    · exact .inr (.inr (.inl third))
    · exact .inr (.inr (.inr (congrArg ExitCode.toNat success)))
  -- the four kinds have four different codes, so each code tells its kind
  have misconfigured : code = 2 → line.Misconfigured host := by grind
  have unresolvable : code = 3 → line.Unresolvable host := by grind
  have inapplicable : code = 4 → line.Inapplicable host := by grind
  refine ⟨⟨misconfigured, configuration⟩, ⟨unresolvable, template⟩, ⟨inapplicable, execution⟩,
    by grind, by grind, ?_⟩
  intro started
  obtain ⟨compiles, command, real⟩ := compiles_of_started started
  refine ⟨compiles, command, real, ?_, ?_⟩
  · intro two
    exact started (exitCode_of_misconfigured (misconfigured two)).2
  · intro three
    exact started (exitCode_of_unresolvable (unresolvable three)).2

/-- A host whose one file is a manifest with one release, and which has no programs. -/
def hostWithAddress (address : String) : Host where
  fs := {
    entries := [(["packfile.yaml"], .file (String.toUTF8 <|
      "environments:\n  dev: \x7b\x7d\nreleases:\n- name: web\n  pack: web\n" ++
        "  nomad-addr: '" ++ address ++ "'\n") 0o644)]
    current := [] }
  environment := []
  behaviour := ⟨fun _ _ => { status := .exited 0 }⟩

/-- Planning fails at each stage in turn: a file of another name is not there, a quote is left open,
a field of a text is asked for, and the pack tool is not installed, which a dry run does not
need. -/
theorem run_exitCode_stages :
    let line : CommandLine := { task := .apply .plan }
    let missing := hostWithAddress "http://localhost"
    let other : CommandLine := { line with file := "other.yaml" }
    let dry : CommandLine := { line with dryRun := true }
    let malformed := hostWithAddress "'"
    let refused := hostWithAddress "\x7b\x7b .Environment.Name.First \x7d\x7d"
    ((other.run missing).exitCode.toNat = 2 ∧ other.Misconfigured missing) ∧
    ((line.run malformed).exitCode.toNat = 2 ∧ line.Misconfigured malformed) ∧
    ((line.run refused).exitCode.toNat = 3 ∧ line.Unresolvable refused) ∧
    ((line.run missing).exitCode.toNat = 4 ∧ line.Inapplicable missing) ∧
    (dry.run missing).exitCode.toNat = 0 ∧ ¬ dry.Inapplicable missing := by
  intro line missing other dry malformed refused
  have absent : (other.run missing).exitCode.toNat = 2 := by decide +kernel
  have unread : (line.run malformed).exitCode.toNat = 2 := by decide +kernel
  have template : (line.run refused).exitCode.toNat = 3 := by decide +kernel
  have execution : (line.run missing).exitCode.toNat = 4 := by decide +kernel
  have success : (dry.run missing).exitCode.toNat = 0 := by decide +kernel
  exact ⟨⟨absent, (run_exitCode other missing).1.mp absent⟩,
    ⟨unread, (run_exitCode line malformed).1.mp unread⟩,
    ⟨template, (run_exitCode line refused).2.1.mp template⟩,
    ⟨execution, (run_exitCode line missing).2.2.1.mp execution⟩,
    success, ((run_exitCode dry missing).2.2.2.1.mp success).2.2⟩

end CommandLine

end Packfile
