import Packfile.Executor.Recorder
import Packfile.Proofs.Compiler.Session

/-!
# Registries of packs

A pack that comes from a registry is invoked by the name and the version of that registry, so the
tool must have been told about exactly this one. The registry was copied from the catalog when the
release was compiled. Catalog and actions are replaced together, so the copy still agrees with the
catalog when a command runs, and the command adds the whole catalog before it treats the first
release.
-/

namespace Packfile

namespace Pack

variable {catalog : Catalog} {pack : Pack} {reference : String} {registry : Registry}

/-- The registry of a resolved pack is what the catalog has under its name. -/
theorem get?_of_resolve (named : catalog.Named) (resolved : resolve catalog reference = .ok pack)
    (source : pack.registry = some registry) : catalog.get? registry.name = some registry := by
  unfold resolve at resolved
  split at resolved
  · cases resolved
    cases source
  · split at resolved
    · split at resolved
      · cases resolved
      · split at resolved
        · next node found =>
            cases resolved
            obtain rfl : node = registry := Option.some.inj source
            rw [named.name_eq found]
            exact found
        · cases resolved
    · cases resolved

/-- The registry that arguments select, with the version if they give one. -/
def selected? : List String → Option (String × Option String)
  | "--registry" :: name :: "--ref" :: version :: _ => some (name, some version)
  | "--registry" :: name :: _ => some (name, none)
  | _ => none

theorem selected?_args (pack : Pack) :
    selected? pack.args = pack.registry.map fun registry => (registry.name, registry.ref) := by
  obtain ⟨name, _ | ⟨registry, url, _ | ref, target⟩⟩ := pack <;> simp [args, selected?]

end Pack

namespace Compiler

variable {command : PackCommand} {compiler : Compiler} {use : Use} {uses : List Use}

/-- Every action whose pack has a registry has it as the catalog has it. -/
def Registered (compiler : Compiler) : Prop :=
  ∀ action ∈ compiler.actions, ∀ registry, action.pack.registry = some registry →
    compiler.catalog.get? registry.name = some registry

/-- The files stay as they are while a compilation lasts. -/
def Use.IsSteady : Use → Prop
  | .compileDisturbed _ => False
  | .compile _ | .command .. => True

theorem registered_new (manifest : Manifest) (store : EnvironmentStore) :
    (new manifest store).Registered := by
  intro action member
  cases member

/-! ## Compiled states -/

/-- The packs of an expansion are resolved in the catalog of the manifest. -/
theorem resolve_of_expansion {manifest : Manifest} {world : World} {store : EnvironmentStore}
    {actions : List Action} {action : Action}
    (accepted : (expansion manifest world store).outcome = .ok actions)
    (member : action ∈ actions) :
    ∃ reference, Pack.resolve (Catalog.build manifest.registries).1 reference = .ok action.pack := by
  obtain ⟨length, treats⟩ := expansion_eq_ok.mp accepted
  obtain ⟨i, h', rfl⟩ := List.getElem_of_mem member
  have h : i < (pairs manifest).length := length ▸ h'
  exact ⟨_, (treats i h h').resolves.pack⟩

theorem registered_compileIn (world : World) (registered : compiler.Registered) :
    (compiler.compileIn world).compiler.Registered := by
  cases outcome : (expansion compiler.manifest world compiler.store).outcome with
  | error e =>
      rw [(compileIn_of_error outcome).2]
      exact registered
  | ok actions =>
      rw [(compileIn_of_ok outcome).2]
      intro action member registry source
      obtain ⟨reference, resolved⟩ := resolve_of_expansion outcome member
      exact Pack.get?_of_resolve (Catalog.named_build _) resolved source

theorem registered_perform (steady : use.IsSteady) (registered : compiler.Registered) :
    (compiler.perform use).2.Registered := by
  cases use with
  | compile world => exact registered_compileIn world registered
  | compileDisturbed => cases steady
  | command => exact registered

theorem registered_afterUses (steady : ∀ use ∈ uses, use.IsSteady)
    (registered : compiler.Registered) : (compiler.afterUses uses).Registered :=
  afterUses_of_step Registered
    (fun _ use member registered => registered_perform (steady use member) registered) registered

/-! ## Commands -/

/-- A call that treats a release belongs to an action, and the registries are added before it. -/
theorem calls_eq_release {i : Nat} (h : i < (compiler.calls command).length)
    {target : PackCommand} {invocation : Invocation}
    (release : (compiler.calls command)[i] = .release target invocation) :
    compiler.catalog.toList.length ≤ i ∧
      ∃ action ∈ compiler.actions, invocation = action.invocation := by
  simp only [calls, List.getElem_append, List.length_map, List.getElem_map] at release
  split at release
  · cases release
  · next later =>
      obtain ⟨rfl, rfl⟩ := Call.release.inj release
      exact ⟨Nat.le_of_not_lt later, _, List.getElem_mem _, rfl⟩

theorem exists_calls_addRegistry (command : PackCommand) {registry : Registry}
    (member : registry ∈ compiler.catalog.toList) :
    ∃ j, ∃ h : j < (compiler.calls command).length, j < compiler.catalog.toList.length ∧
      (compiler.calls command)[j] = .addRegistry registry := by
  obtain ⟨j, h, rfl⟩ := List.getElem_of_mem member
  refine ⟨j, ?_, h, ?_⟩
  · simp only [calls, List.length_append, List.length_map]
    omega
  · simp [calls, h]

/-- In every state that a session of compilations and commands reaches, the registry of an action is
what the catalog has under its name. So whenever a command treats a release whose arguments select a
registry, that registry, with the same name and the same version, has been added before in the same
command, and the call that added it succeeded. -/
theorem registry_added (manifest : Manifest) (store : EnvironmentStore) (uses : List Use)
    (steady : ∀ use ∈ uses, use.IsSteady) :
    let compiler := (new manifest store).afterUses uses
    compiler.Registered ∧
    ∀ {σ : Type} (command : PackCommand) (executor : Executor σ) (state : σ),
      let received := compiler.received command executor state
      ∀ i (h : i < received.length) target invocation name version,
        received[i] = .release target invocation →
        Pack.selected? invocation.packArgs = some (name, version) →
        ∃ j, ∃ earlier : j < i, ∃ registry, received[j] = .addRegistry registry ∧
          registry.name = name ∧ registry.ref = version ∧
          executor.answer state received j (earlier.trans h) = .ok () := by
  intro compiler
  have registered : compiler.Registered := registered_afterUses steady (registered_new _ _)
  refine ⟨registered, ?_⟩
  intro σ command executor state received i h target invocation name version release selects
  have front : received <+: compiler.calls command := received_isPrefix_calls
  rw [front.getElem h] at release
  obtain ⟨after, action, member, rfl⟩ := calls_eq_release _ release
  obtain ⟨registry, source, selected⟩ := Option.map_eq_some_iff.mp
    ((Pack.selected?_args action.pack).symm.trans selects)
  obtain ⟨rfl, rfl⟩ := Prod.mk.inj selected
  have listed := Catalog.mem_toList_of_get? (registered action member registry source)
  obtain ⟨j, _, before, adds⟩ := exists_calls_addRegistry command listed
  have earlier : j < i := Nat.lt_of_lt_of_le before after
  refine ⟨j, earlier, registry, ?_, rfl, rfl, answer_received h earlier⟩
  rw [front.getElem (earlier.trans h)]
  exact adds

/-- A registry that is declared twice, and a release that takes its pack from there. -/
def redeclared : Manifest where
  registries := [
    { name := "community", url := "github.com/x/y", ref := some "v1" },
    { name := "community", url := "github.com/x/z", ref := some "v2" }]
  environments := .singleton "dev" {}
  releases := [{ name := "web", pack := "registry://community/web" }]
  path := "/w/packfile.yaml"

/-- A session over `redeclared` whose first command comes too early. -/
def redeclaredUses : List Use :=
  [.command .plan Recorder.step {},
    .compile { fs := { entries := [(["w"], .directory)], current := ["w"] }, process := [] }]

/-- The version is that of the declaration that counts. -/
theorem registry_added_redeclared :
    let received := ((new redeclared ∅).afterUses redeclaredUses).received .run Recorder.step {}
    let web : Invocation := {
      workDir := "/w"
      packArgs := ["--registry", "community", "--ref", "v1", "web"] }
    (∀ use ∈ redeclaredUses, use.IsSteady) ∧
    Pack.selected? web.packArgs = some ("community", some "v1") ∧
    ∃ h : 1 < received.length, received[1] = .release .run web ∧
      ∃ j, ∃ earlier : j < 1, ∃ registry, received[j] = .addRegistry registry ∧
        registry.name = "community" ∧ registry.ref = some "v1" ∧
        Executor.answer Recorder.step {} received j (earlier.trans h) = .ok () := by
  intro received web
  have steady : ∀ use ∈ redeclaredUses, use.IsSteady := by
    simp [redeclaredUses, Use.IsSteady]
  have selects : Pack.selected? web.packArgs = some ("community", some "v1") := by decide
  have all : received = [
      .addRegistry { name := "community", url := "github.com/x/y", ref := some "v1" },
      .release .run web] := by decide +kernel
  have h : 1 < received.length := by rw [all]; decide
  have release : received[1] = .release .run web := List.getElem_of_eq all h
  exact ⟨steady, selects, h, release, (registry_added redeclared ∅ redeclaredUses steady).2 .run
    Recorder.step {} 1 h .run web "community" (some "v1") release selects⟩

end Compiler

end Packfile
