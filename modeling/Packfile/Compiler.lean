import Packfile.Executor.Basic
import Packfile.Release.Expand

/-!
# The compiler

A compiler turns a manifest into a catalog of registries and a list of actions, and applies
commands to them through an executor. It keeps the environment store, so variables that environment
files brought in stay visible. A compilation that fails changes nothing, and neither does a
command.
-/

namespace Packfile

/-- A manifest with what has been compiled from it. -/
structure Compiler where
  manifest : Manifest
  store : EnvironmentStore
  catalog : Catalog := ∅
  actions : List Action := []
  /-- Whether a compilation has succeeded. -/
  compiled : Bool := false

namespace Compiler

/-- A compiler that has not compiled yet. -/
def new (manifest : Manifest) (store : EnvironmentStore) : Compiler :=
  { manifest, store }

/-- The result of a compilation, with the compiler after it and what was reported. -/
structure Compilation where
  outcome : Except CompileError Unit
  compiler : Compiler
  log : List LogEntry

/-- What the expansion of a manifest works with. -/
def setting (fs : FileSystem) (process : ProcessEnvironment) (manifest : Manifest) :
    Expansion.Setting where
  fs := fs
  process := process
  catalog := (Catalog.build manifest.registries).1
  workDir := manifest.workDir

/-- Completes a compilation whose expansion went in the given way. If the expansion failed the
compiler stays as it is; otherwise everything that has been compiled is replaced. -/
def settle (compiler : Compiler) (expansion : Expansion (List Action)) : Compilation :=
  let manifest := compiler.manifest
  let (catalog, duplicates) := Catalog.build manifest.registries
  let log := duplicates ++ expansion.log
  match expansion.outcome with
  | .error e => ⟨.error e, compiler, log⟩
  | .ok actions =>
    ⟨.ok (), { manifest, store := expansion.store, catalog, actions, compiled := true }, log⟩

/-- Builds the catalog and expands every release, starting from the store as it is. -/
def compile (fs : FileSystem) (process : ProcessEnvironment) (compiler : Compiler) :
    Compilation :=
  let manifest := compiler.manifest
  compiler.settle (Expansion.expand (setting fs process manifest) manifest.environments
    manifest.releases compiler.store)

/-- The calls that add the registries, each with what is reported before it. -/
def registryCalls (compiler : Compiler) : List (LogEntry × Call) :=
  compiler.catalog.toList.map fun registry =>
    (.info ("Adding registry " ++ registry.name ++ " (" ++ registry.url ++ ")"),
      .addRegistry registry)

/-- The calls that apply a command to the actions, each with what is reported before it. -/
def releaseCalls (compiler : Compiler) (command : PackCommand) : List (LogEntry × Call) :=
  let total := toString compiler.actions.length
  compiler.actions.zipIdx.map fun (action, i) =>
    (.info ("Running " ++ command.name ++ " [" ++ toString (i + 1) ++ "/" ++ total ++ "]: "
        ++ action.name ++ " (" ++ action.environment ++ ")"),
      .release command action.invocation)

/-- What a command does: it adds every registry, then treats every action, in order. -/
def script (compiler : Compiler) (command : PackCommand) : List (LogEntry × Call) :=
  compiler.registryCalls ++ compiler.releaseCalls command

/-- Makes the calls of a script up to and including the first that fails. -/
def play {σ : Type} (executor : Executor σ) (state : σ) : List (LogEntry × Call) → Reply σ
  | [] => ⟨.ok (), [], state⟩
  | (announcement, call) :: rest =>
    let reply := executor state call
    match reply.outcome with
    | .error e => ⟨.error e, announcement :: reply.log, reply.state⟩
    | .ok () =>
      let later := play executor reply.state rest
      { later with log := announcement :: reply.log ++ later.log }

/-- The result of a command, with the executor after it and what was reported. -/
structure Execution (σ : Type) where
  outcome : Except ExecuteError Unit
  log : List LogEntry
  state : σ

/-- Applies a command to every compiled release. -/
def execute {σ : Type} (compiler : Compiler) (command : PackCommand) (executor : Executor σ)
    (state : σ) : Execution σ :=
  if compiler.compiled then
    let reply := play executor state (compiler.script command)
    match reply.outcome with
    | .error e => ⟨.error (.execution e), reply.log, reply.state⟩
    | .ok () =>
      let summary := LogEntry.info (command.name ++ " completed for "
        ++ toString compiler.actions.length ++ " releases")
      ⟨.ok (), reply.log ++ [summary], reply.state⟩
  else ⟨.error .notCompiled, [], state⟩

/-- The compiled registries and actions as data that may be printed. -/
def toTree (compiler : Compiler) : Tree :=
  .record [
    ("registries", .list (compiler.catalog.toList.map Registry.toTree)),
    ("releases", .list (compiler.actions.map Action.toTree))]

end Compiler

end Packfile
