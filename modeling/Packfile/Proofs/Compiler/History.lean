import Packfile.Compiler
import Packfile.Proofs.Release.Growth

/-!
# Compiling again

A compiler may compile many times, while files and the environment of the process change between
the compilations. What it carries from one to the next is its store: every compilation that
succeeds adds the variables of the environment files that it loaded, and the next one starts from
there. So compiling again is compiling afresh from the *kept* store. It agrees with compiling afresh
from the store that the compiler was made with exactly when every pair is treated alike from the
two stores, which it need not be: a variable that a late release brings in is seen by an early
release the next time.
-/

namespace Packfile.Compiler

/-- What a compilation reads from outside. -/
structure World where
  fs : FileSystem
  process : ProcessEnvironment

/-- Compiles in a world. -/
def compileIn (world : World) (compiler : Compiler) : Compilation :=
  compiler.compile world.fs world.process

/-- The compiler after compilations in the given worlds, each of which may succeed or fail. -/
def after (compiler : Compiler) (history : List World) : Compiler :=
  history.foldl (fun current world => (current.compileIn world).compiler) compiler

/-- Two compilations have the same result and, if they succeed, the same registries and actions. -/
def SameResult (first second : Compilation) : Prop :=
  first.outcome = second.outcome ∧
    (first.outcome = .ok () → first.compiler.catalog = second.compiler.catalog ∧
      first.compiler.actions = second.compiler.actions)

/-- The pairs that a manifest is expanded over. -/
def pairs (manifest : Manifest) : List Expansion.Pair :=
  Expansion.matrix manifest.environments manifest.releases

/-- The expansion of a manifest in a world, from a store. -/
def expansion (manifest : Manifest) (world : World) (store : EnvironmentStore) :
    Expansion (List Action) :=
  Expansion.expandPairs (setting world.fs world.process manifest) store (pairs manifest)

/-- The store that is kept after a compilation in a world: with the environment files of all pairs
loaded if the compilation succeeds, and as it was if it fails. -/
def keptAfter (manifest : Manifest) (store : EnvironmentStore) (world : World) :
    EnvironmentStore :=
  match (expansion manifest world store).outcome with
  | .error _ => store
  | .ok _ =>
    Expansion.loadedStore (setting world.fs world.process manifest) store
      (Expansion.environmentFiles (pairs manifest))

/-- The store that is kept after a history of compilations. -/
def kept (manifest : Manifest) (store : EnvironmentStore) (history : List World) :
    EnvironmentStore :=
  history.foldl (keptAfter manifest) store

variable {manifest : Manifest} {store other : EnvironmentStore} {world : World}
variable {history : List World} {compiler : Compiler} {actions : List Action} {e : CompileError}

/-! ## One compilation -/

/-- A compilation settles the expansion of its manifest. -/
theorem compileIn_eq_settle (world : World) (compiler : Compiler) :
    compiler.compileIn world =
      compiler.settle (expansion compiler.manifest world compiler.store) :=
  congrArg compiler.settle (Expansion.expand_eq_expandPairs ..)

theorem settle_of_error (compiler : Compiler) {found : Expansion (List Action)}
    (refused : found.outcome = .error e) :
    (compiler.settle found).outcome = .error e ∧ (compiler.settle found).compiler = compiler := by
  simp only [settle, refused, and_self]

theorem settle_of_ok (compiler : Compiler) {found : Expansion (List Action)}
    (accepted : found.outcome = .ok actions) :
    (compiler.settle found).outcome = .ok () ∧
      (compiler.settle found).compiler =
        { manifest := compiler.manifest
          store := found.store
          catalog := (Catalog.build compiler.manifest.registries).1
          actions, compiled := true } := by
  simp only [settle, accepted, and_self]

theorem compileIn_of_error
    (refused : (expansion compiler.manifest world compiler.store).outcome = .error e) :
    (compiler.compileIn world).outcome = .error e ∧
      (compiler.compileIn world).compiler = compiler := by
  rw [compileIn_eq_settle]
  exact settle_of_error compiler refused

theorem compileIn_of_ok
    (accepted : (expansion compiler.manifest world compiler.store).outcome = .ok actions) :
    (compiler.compileIn world).outcome = .ok () ∧
      (compiler.compileIn world).compiler =
        { manifest := compiler.manifest
          store := keptAfter compiler.manifest compiler.store world
          catalog := (Catalog.build compiler.manifest.registries).1
          actions, compiled := true } := by
  have final : (expansion compiler.manifest world compiler.store).store =
      keptAfter compiler.manifest compiler.store world := by
    simp only [keptAfter, accepted]
    exact Expansion.expandPairs_loadedStore accepted
  rw [compileIn_eq_settle, ← final]
  exact settle_of_ok compiler accepted

@[simp] theorem compileIn_manifest (world : World) (compiler : Compiler) :
    (compiler.compileIn world).compiler.manifest = compiler.manifest := by
  cases outcome : (expansion compiler.manifest world compiler.store).outcome with
  | error e => rw [(compileIn_of_error outcome).2]
  | ok actions => rw [(compileIn_of_ok outcome).2]

theorem compileIn_store :
    (compiler.compileIn world).compiler.store =
      keptAfter compiler.manifest compiler.store world := by
  cases outcome : (expansion compiler.manifest world compiler.store).outcome with
  | error e => rw [(compileIn_of_error outcome).2, keptAfter, outcome]
  | ok actions => rw [(compileIn_of_ok outcome).2]

/-- Of the compiler, only the manifest and the store bear on what a compilation yields. -/
theorem sameResult_iff (world : World) (first second : Compiler)
    (same : first.manifest = second.manifest) :
    SameResult (first.compileIn world) (second.compileIn world) ↔
      (expansion first.manifest world first.store).outcome =
        (expansion first.manifest world second.store).outcome := by
  cases left : (expansion first.manifest world first.store).outcome with
  | error e =>
      cases right : (expansion first.manifest world second.store).outcome with
      | error e' =>
          rw [same] at right
          simp [SameResult, (compileIn_of_error left).1, (compileIn_of_error right).1]
      | ok actions =>
          rw [same] at right
          simp [SameResult, (compileIn_of_error left).1, (compileIn_of_ok right).1]
  | ok actions =>
      cases right : (expansion first.manifest world second.store).outcome with
      | error e =>
          rw [same] at right
          simp [SameResult, (compileIn_of_ok left).1, (compileIn_of_error right).1]
      | ok actions' =>
          rw [same] at right
          simp [SameResult, compileIn_of_ok left, compileIn_of_ok right, same]

/-! ## What is kept -/

theorem keptAfter_grows : store.Grows (keptAfter manifest store world) := by
  unfold keptAfter
  split
  · exact .refl _
  · exact Expansion.loadedStore_grows

theorem kept_grows : store.Grows (kept manifest store history) := by
  induction history generalizing store with
  | nil => exact .refl _
  | cons world rest ih => exact keptAfter_grows.trans ih

/-- Without environment files nothing is added. -/
theorem keptAfter_of_no_files (none : Expansion.environmentFiles (pairs manifest) = []) :
    keptAfter manifest store world = store := by
  unfold keptAfter
  split
  · rfl
  · rw [none, Expansion.loadedStore_nil]

theorem kept_of_no_files (none : Expansion.environmentFiles (pairs manifest) = []) :
    kept manifest store history = store := by
  induction history generalizing store with
  | nil => rfl
  | cons world rest ih =>
      rw [kept, List.foldl_cons, keptAfter_of_no_files none]
      exact ih

/-- The same files add nothing a second time. -/
theorem keptAfter_keptAfter (world : World) :
    keptAfter manifest (keptAfter manifest store world) world =
      keptAfter manifest store world := by
  cases first : (expansion manifest world store).outcome with
  | error e =>
      have same : keptAfter manifest store world = store := by simp only [keptAfter, first]
      rw [same, same]
  | ok actions =>
      have known := Expansion.knownFiles_loadedStore (Expansion.expandPairs_loads first)
      have full : keptAfter manifest store world = Expansion.loadedStore
          (setting world.fs world.process manifest) store
            (Expansion.environmentFiles (pairs manifest)) := by
        simp only [keptAfter, first]
      -- the second compilation may still fail, but then it keeps the store as well
      rw [full, keptAfter]
      split
      · rfl
      · exact Expansion.loadedStore_of_knownFiles known

/-! ## Histories -/

theorem after_cons (rest : List World) :
    compiler.after (world :: rest) = (compiler.compileIn world).compiler.after rest :=
  List.foldl_cons ..

/-- What every compilation preserves holds after any history. -/
theorem after_of_step (Holds : Compiler → Prop)
    (step : ∀ compiler world, Holds compiler → Holds (compiler.compileIn world).compiler)
    (start : Holds compiler) : Holds (compiler.after history) := by
  induction history generalizing compiler with
  | nil => exact start
  | cons world rest ih =>
      rw [after_cons]
      exact ih (step compiler world start)

theorem after_manifest : (compiler.after history).manifest = compiler.manifest := by
  refine after_of_step (fun later => later.manifest = compiler.manifest) ?_ rfl
  intro later world same
  exact (compileIn_manifest world later).trans same

theorem after_store :
    (compiler.after history).store = kept compiler.manifest compiler.store history := by
  induction history generalizing compiler with
  | nil => rfl
  | cons world rest ih =>
      rw [after_cons, kept, List.foldl_cons, ← compileIn_store, ← compileIn_manifest world]
      exact ih

/-! ## Compiling again -/

theorem expansion_of_compileIn_ok (accepted : (compiler.compileIn world).outcome = .ok ()) :
    ∃ actions, (expansion compiler.manifest world compiler.store).outcome = .ok actions := by
  cases outcome : (expansion compiler.manifest world compiler.store).outcome with
  | error e =>
      rw [(compileIn_of_error outcome).1] at accepted
      cases accepted
  | ok actions => exact ⟨actions, rfl⟩

theorem expansion_of_compileIn_error (refused : (compiler.compileIn world).outcome = .error e) :
    (expansion compiler.manifest world compiler.store).outcome = .error e := by
  cases outcome : (expansion compiler.manifest world compiler.store).outcome with
  | error e' =>
      rw [(compileIn_of_error outcome).1] at refused
      rw [Except.error.inj refused]
  | ok actions =>
      rw [(compileIn_of_ok outcome).1] at refused
      cases refused

/-- How a pair of a manifest is treated in a world when the expansion starts from a store: in that
store with the environment files of the pairs before it. -/
def TreatsAt (manifest : Manifest) (world : World) (store : EnvironmentStore) (i : Nat)
    (pair : Expansion.Pair) (action : Action) : Prop :=
  let setting := setting world.fs world.process manifest
  Expansion.Treats setting (Expansion.storeBefore setting store (pairs manifest) i) pair action

/-- The error that an expansion ends with when it starts from a store: that of the first pair that
fails. -/
def FailsWith (manifest : Manifest) (world : World) (store : EnvironmentStore)
    (e : CompileError) : Prop :=
  let setting := setting world.fs world.process manifest
  ∃ i, ∃ h : i < (pairs manifest).length,
    (∀ j (hj : j < i), ∃ action, TreatsAt manifest world store j (pairs manifest)[j] action) ∧
    Expansion.Fails setting (Expansion.storeBefore setting store (pairs manifest) i)
      (pairs manifest)[i] e

theorem expansion_eq_ok :
    (expansion manifest world store).outcome = .ok actions ↔
      actions.length = (pairs manifest).length ∧
        ∀ i (h : i < (pairs manifest).length) (h' : i < actions.length),
          TreatsAt manifest world store i (pairs manifest)[i] actions[i] :=
  Expansion.expandPairs_eq_ok

theorem expansion_eq_error :
    (expansion manifest world store).outcome = .error e ↔ FailsWith manifest world store e :=
  Expansion.expandPairs_eq_error

/-- Expansions from two stores yield the same actions when each pair gets one action from both. -/
theorem expansion_eq_of_ok (accepted : (expansion manifest world store).outcome = .ok actions) :
    (expansion manifest world store).outcome = (expansion manifest world other).outcome ↔
      ∀ i (h : i < (pairs manifest).length), ∃ action,
        TreatsAt manifest world store i (pairs manifest)[i] action ∧
        TreatsAt manifest world other i (pairs manifest)[i] action := by
  obtain ⟨length, treats⟩ := expansion_eq_ok.mp accepted
  rw [accepted, eq_comm, expansion_eq_ok]
  constructor
  · rintro ⟨_, treats'⟩ i h
    have h' : i < actions.length := length ▸ h
    exact ⟨actions[i], treats i h h', treats' i h h'⟩
  · intro common
    refine ⟨length, ?_⟩
    intro i h h'
    obtain ⟨action, first, second⟩ := common i h
    exact Expansion.Treats.unique first (treats i h h') ▸ second

/-- Compiling again is compiling afresh from the store that is kept. When it succeeds, it agrees
with compiling afresh from the first store exactly if every pair gets the same action from both
stores; when it fails, exactly if the first store leads to the same error. Both are so when no
release names environment files. The kept store only adds variables to the first one, and in a world
that stays as it is nothing changes after the second time. -/
theorem compile_again (manifest : Manifest) (store : EnvironmentStore) (history : List World)
    (world : World) :
    let fresh := fun store => (new manifest store).compileIn world
    let again := ((new manifest store).after history).compileIn world
    let second := again.compiler.compileIn world
    SameResult again (fresh (kept manifest store history)) ∧
    (again.outcome = .ok () → (SameResult again (fresh store) ↔
      ∀ i (h : i < (pairs manifest).length), ∃ action,
        TreatsAt manifest world (kept manifest store history) i (pairs manifest)[i] action ∧
        TreatsAt manifest world store i (pairs manifest)[i] action)) ∧
    (∀ e, again.outcome = .error e →
      (SameResult again (fresh store) ↔ FailsWith manifest world store e)) ∧
    (Expansion.environmentFiles (pairs manifest) = [] → SameResult again (fresh store)) ∧
    store.Grows (kept manifest store history) ∧
    SameResult (second.compiler.compileIn world) second := by
  intro fresh again second
  have source : ((new manifest store).after history).manifest = manifest := after_manifest
  have held : ((new manifest store).after history).store = kept manifest store history :=
    after_store
  have agree (start : EnvironmentStore) : SameResult again (fresh start) ↔
      (expansion manifest world (kept manifest store history)).outcome =
        (expansion manifest world start).outcome := by
    have agree := sameResult_iff world ((new manifest store).after history)
      (new manifest start) source
    rw [source, held] at agree
    exact agree
  refine ⟨(agree _).mpr rfl, ?_, ?_, ?_, kept_grows, ?_⟩
  · intro accepted
    obtain ⟨actions, expanded⟩ := expansion_of_compileIn_ok accepted
    rw [source, held] at expanded
    rw [agree, expansion_eq_of_ok expanded]
  · intro e refused
    have expanded := expansion_of_compileIn_error refused
    rw [source, held] at expanded
    rw [agree, expanded, eq_comm, expansion_eq_error]
  · intro none
    rw [agree, kept_of_no_files none]
  · refine (sameResult_iff _ _ _ (compileIn_manifest _ _)).mpr ?_
    rw [compileIn_manifest, compileIn_store, compileIn_store, compileIn_manifest,
      keptAfter_keptAfter]

/-- A first release reads a variable that the environment file of a second one brings in. -/
def lateVariable : Manifest where
  environments := .singleton "dev" {}
  releases := [
    { name := "web", pack := "web", address := "\x7b\x7b .Env.DC \x7d\x7d" },
    { name := "db", pack := "db", environmentFiles := ["db.env"] }]
  path := "/w/packfile.yaml"

/-- The world of `lateVariable`, with its environment file. -/
def lateWorld : World where
  fs := {
    entries := [(["w"], .directory), (["w", "db.env"], .file "DC=dc1\n".toUTF8 0o644)]
    current := ["w"] }
  process := []

/-- Compiling twice over unchanged files need not yield the same actions. -/
theorem compile_again_differs :
    ¬ SameResult (((new lateVariable ∅).after [lateWorld]).compileIn lateWorld)
      ((new lateVariable ∅).compileIn lateWorld) := by
  intro same
  have accepted :
      (((new lateVariable ∅).after [lateWorld]).compileIn lateWorld).outcome = .ok () := by
    decide +kernel
  have addresses := congrArg (List.map Action.address) (same.2 accepted).2
  revert addresses
  decide +kernel

end Packfile.Compiler
