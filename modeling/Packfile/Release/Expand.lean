import Packfile.Manifest.Basic
import Packfile.Release.Action
import Packfile.Release.Error
import Packfile.Template.Basic

/-!
# Expanding releases across environments

Every release becomes one action for every environment that it applies to. Environments form the
outer loop and releases the inner one. Environment files are loaded into one store that is handed
on from pair to pair, so what a release loads is seen by every later one. The first error ends the
expansion.

For a pair, the environment files come first, then the pack, the address, the token, the var files
and the variables, each in its order.
-/

namespace Packfile

/-- The result of a part of an expansion, with the store after it and what it reported. -/
structure Expansion (α : Type) where
  outcome : Except CompileError α
  store : EnvironmentStore
  log : List LogEntry

namespace Expansion

/-- What an expansion works with. -/
structure Setting where
  fs : FileSystem
  process : ProcessEnvironment
  catalog : Catalog
  workDir : String

/-- Resolves a template field of a release. -/
def renderField (context : Template.Context) (release field template : String) :
    Except CompileError String :=
  (Template.resolve context template).mapError (.template release field)

/-- Loads the environment files of a release, in order. -/
def loadFiles (setting : Setting) (release : String) (store : EnvironmentStore) :
    List String → Except CompileError Unit × EnvironmentStore
  | [] => (.ok (), store)
  | file :: rest =>
    match Dotenv.load setting.fs setting.process store (Path.join setting.workDir file) with
    | (.ok _, next) => loadFiles setting release next rest
    | (.error e, next) => (.error (.environmentFile release e), next)

/-- The pack that a release names. -/
def resolvePack (setting : Setting) (release : Release) : Except CompileError Pack :=
  (Pack.resolve setting.catalog release.pack).mapError fun
    | .malformed => .invalidPackReference release.name release.pack
    | .unknownRegistry registry => .registryNotFound release.name registry

/-- What is reported about a var file that does not exist. -/
def missingWarning (path : String) : LogEntry :=
  .warn ("Var file " ++ path ++ " not found, skipping")

/-- The var file that an entry reports as missing. -/
def missingFile? (entry : LogEntry) : Option String :=
  let before := "Var file ".toList
  let after := " not found, skipping".toList
  let text := entry.message.toList
  if before.isPrefixOf text && after.isSuffixOf text then
    some (String.ofList ((text.drop before.length).take
      (text.length - before.length - after.length)))
  else none

/-- The var files of a release that exist, and what is reported about the others. -/
def existingVarFiles (setting : Setting) (context : Template.Context) (release : String) :
    List String → Except CompileError (List String) × List LogEntry
  | [] => (.ok [], [])
  | template :: rest =>
    match renderField context release "var-files" template with
    | .error e => (.error e, [])
    | .ok file =>
      let path := Path.join setting.workDir file
      let (others, log) := existingVarFiles setting context release rest
      if setting.fs.pathExists path then ((file :: ·) <$> others, log)
      else (others, missingWarning path :: log)

/-- The variables of a release, with their values resolved and their names as they are. -/
def renderVars (context : Template.Context) (release : Release) :
    Except CompileError (OrderedMap String) :=
  release.vars.traverse fun name template =>
    renderField context release.name ("vars." ++ name) template

/-- A setting of the environment if it has one, the release's own otherwise. -/
def overridden (setting own : String) : String :=
  if setting = "" then own else setting

/-- The action of a release, once its environment files are loaded. -/
def resolveRelease (setting : Setting) (context : Template.Context)
    (settings : ConnectionOverride) (release : Release) :
    Except CompileError Action × List LogEntry :=
  let render := renderField context release.name
  let connection : Except CompileError (Pack × String × String) := do
    let pack ← resolvePack setting release
    let address ← render "nomad-addr" (overridden settings.address release.address)
    let token ← render "nomad-token" (overridden settings.token release.token)
    .ok (pack, address, token)
  match connection with
  | .error e => (.error e, [])
  | .ok (pack, address, token) =>
    let (found, log) := existingVarFiles setting context release.name release.varFiles
    let action : Except CompileError Action := do
      let varFiles ← found
      let vars ← renderVars context release
      .ok {
        name := release.name
        environment := context.environment
        pack, varFiles, vars
        workDir := setting.workDir
        address, token }
    (action, log)

/-- The action of a release for an environment. -/
def expandRelease (setting : Setting) (environment : String) (settings : ConnectionOverride)
    (store : EnvironmentStore) (release : Release) : Expansion Action :=
  match loadFiles setting release.name store release.environmentFiles with
  | (.error e, after) => ⟨.error e, after, []⟩
  | (.ok (), after) =>
    let (action, log) := resolveRelease setting ⟨environment, after⟩ settings release
    ⟨action, after, log⟩

/-- The actions of the releases that apply to an environment. -/
def expandEnvironment (setting : Setting) (environment : String) (settings : ConnectionOverride)
    (store : EnvironmentStore) : List Release → Expansion (List Action)
  | [] => ⟨.ok [], store, []⟩
  | release :: rest =>
    if release.appliesTo environment then
      let first := expandRelease setting environment settings store release
      match first.outcome with
      | .error e => ⟨.error e, first.store, first.log⟩
      | .ok action =>
        let others := expandEnvironment setting environment settings first.store rest
        ⟨(action :: ·) <$> others.outcome, others.store, first.log ++ others.log⟩
    else expandEnvironment setting environment settings store rest

/-- The actions of the releases in a list of environments. -/
def expandAll (setting : Setting) (releases : List Release) (store : EnvironmentStore) :
    List (String × ConnectionOverride) → Expansion (List Action)
  | [] => ⟨.ok [], store, []⟩
  | (environment, settings) :: rest =>
    let first := expandEnvironment setting environment settings store releases
    match first.outcome with
    | .error e => ⟨.error e, first.store, first.log⟩
    | .ok actions =>
      let others := expandAll setting releases first.store rest
      ⟨(actions ++ ·) <$> others.outcome, others.store, first.log ++ others.log⟩

/-- The actions of all releases in all environments. -/
def expand (setting : Setting) (environments : OrderedMap ConnectionOverride)
    (releases : List Release) (store : EnvironmentStore) : Expansion (List Action) :=
  expandAll setting releases store environments.entries

end Expansion

end Packfile
