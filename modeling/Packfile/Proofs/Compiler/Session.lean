import Packfile.Proofs.Compiler.Calls

/-!
# Sessions

A session is a run of compilations and commands on one compiler, in any order. Between them files
are written and removed, and executors fail as they like; a compilation may even find the files
changing under it. What can be seen of the compiler moves only when a compilation succeeds, and then
all of it moves together: at every moment it is what the last successful compilation produced.
-/

namespace Packfile.Compiler

/-- What can be seen of a compiler. -/
structure Observation where
  compiled : Bool
  registries : List Registry
  actions : List Action
  store : EnvironmentStore

/-- A compiler as it is seen. -/
def observe (compiler : Compiler) : Observation where
  compiled := compiler.compiled
  registries := compiler.catalog.toList
  actions := compiler.actions
  store := compiler.store

/-- What is done with a compiler. -/
inductive Use : Type 1 where
  | compile (world : World)
  /-- A compilation during which files change. What it reads then belongs to no single world, so its
  expansion may take any course. -/
  | compileDisturbed (course : EnvironmentStore → Expansion (List Action))
  | command {σ : Type} (command : PackCommand) (executor : Executor σ) (state : σ)

/-- How a use ends. -/
inductive Answer where
  | compilation (outcome : Except CompileError Unit)
  | command (outcome : Except ExecuteError Unit)

/-- Puts a compiler to a use; a command only reads it. -/
def perform (compiler : Compiler) : Use → Answer × Compiler
  | .compile world =>
    let compilation := compiler.compileIn world
    (.compilation compilation.outcome, compilation.compiler)
  | .compileDisturbed course =>
    let compilation := compiler.settle (course compiler.store)
    (.compilation compilation.outcome, compilation.compiler)
  | .command command executor state =>
    (.command (compiler.execute command executor state).outcome, compiler)

/-- The compiler after a session. -/
def afterUses (compiler : Compiler) (uses : List Use) : Compiler :=
  uses.foldl (fun current use => (current.perform use).2) compiler

/-- A use is a compilation, and it succeeds. -/
def Succeeds (compiler : Compiler) (use : Use) : Prop :=
  (compiler.perform use).1 = .compilation (.ok ())

/-- The expansion of a use that compiles. -/
def Use.expansion? (manifest : Manifest) (store : EnvironmentStore) :
    Use → Option (Expansion (List Action))
  | .compile world => some (expansion manifest world store)
  | .compileDisturbed course => some (course store)
  | .command .. => none

variable {compiler : Compiler} {use : Use} {uses : List Use} {world : World} {e : CompileError}
variable {found : Expansion (List Action)} {actions : List Action}

/-! ## One use -/

/-- A use that compiles settles its expansion. -/
theorem perform_of_expansion?
    (compiles : use.expansion? compiler.manifest compiler.store = some found) :
    compiler.perform use =
      (.compilation (compiler.settle found).outcome, (compiler.settle found).compiler) := by
  cases use with
  | compile world =>
      obtain rfl := Option.some.inj compiles
      rw [perform, compileIn_eq_settle]
  | compileDisturbed course =>
      obtain rfl := Option.some.inj compiles
      rfl
  | command => cases compiles

/-- A use leaves the compiler as it is, or it is a compilation that succeeds and replaces everything
at once. -/
theorem perform_cases (compiler : Compiler) (use : Use) :
    (¬ compiler.Succeeds use ∧ (compiler.perform use).2 = compiler) ∨
      (compiler.Succeeds use ∧ ∃ found actions,
        use.expansion? compiler.manifest compiler.store = some found ∧
        found.outcome = .ok actions ∧
        (compiler.perform use).2 =
          { manifest := compiler.manifest
            store := found.store
            catalog := (Catalog.build compiler.manifest.registries).1
            actions, compiled := true }) := by
  cases compiles : use.expansion? compiler.manifest compiler.store with
  | none =>
      cases use with
      | command => exact .inl ⟨nofun, rfl⟩
      | compile | compileDisturbed => cases compiles
  | some found =>
      rw [Succeeds, perform_of_expansion? compiles]
      cases outcome : found.outcome with
      | error e =>
          obtain ⟨refused, same⟩ := settle_of_error compiler outcome
          rw [refused]
          exact .inl ⟨nofun, same⟩
      | ok actions =>
          obtain ⟨accepted, final⟩ := settle_of_ok compiler outcome
          rw [accepted]
          exact .inr ⟨rfl, found, actions, rfl, outcome, final⟩

theorem perform_of_not_succeeds (idle : ¬ compiler.Succeeds use) :
    (compiler.perform use).2 = compiler := by
  rcases perform_cases compiler use with ⟨_, same⟩ | ⟨succeeds, _⟩
  · exact same
  · exact absurd succeeds idle

theorem perform_manifest (compiler : Compiler) (use : Use) :
    (compiler.perform use).2.manifest = compiler.manifest := by
  rcases perform_cases compiler use with ⟨_, same⟩ | ⟨_, _, _, _, _, final⟩
  · rw [same]
  · rw [final]

/-! ## All uses -/

theorem afterUses_cons (rest : List Use) :
    compiler.afterUses (use :: rest) = (compiler.perform use).2.afterUses rest :=
  List.foldl_cons ..

theorem afterUses_append (first later : List Use) :
    compiler.afterUses (first ++ later) = (compiler.afterUses first).afterUses later :=
  List.foldl_append

theorem afterUses_take_succ (compiler : Compiler) {i : Nat} (h : i < uses.length) :
    compiler.afterUses (uses.take (i + 1)) =
      ((compiler.afterUses (uses.take i)).perform uses[i]).2 := by
  rw [List.take_succ_eq_append_getElem h, afterUses_append]
  rfl

/-- What every use preserves holds after any session. -/
theorem afterUses_of_step (Holds : Compiler → Prop)
    (step : ∀ compiler, ∀ use ∈ uses, Holds compiler → Holds (compiler.perform use).2)
    (start : Holds compiler) : Holds (compiler.afterUses uses) := by
  induction uses generalizing compiler with
  | nil => exact start
  | cons use rest ih =>
      rw [afterUses_cons]
      refine ih ?_ (step compiler use List.mem_cons_self start)
      exact fun later other member => step later other (List.mem_cons_of_mem _ member)

theorem afterUses_manifest : (compiler.afterUses uses).manifest = compiler.manifest :=
  afterUses_of_step (fun later => later.manifest = compiler.manifest)
    (fun later use _ same => (perform_manifest later use).trans same) rfl

/-- Nothing changes as long as no compilation succeeds. -/
theorem afterUses_of_not_succeeds
    (idle : ∀ i (h : i < uses.length), ¬ (compiler.afterUses (uses.take i)).Succeeds uses[i]) :
    compiler.afterUses uses = compiler := by
  induction uses with
  | nil => rfl
  | cons use rest ih =>
      have first : (compiler.perform use).2 = compiler :=
        perform_of_not_succeeds (idle 0 (Nat.zero_lt_succ _))
      rw [afterUses_cons, first]
      refine ih fun i h => ?_
      have later := idle (i + 1) (Nat.succ_lt_succ h)
      rw [List.take_succ_cons, afterUses_cons, first] at later
      exact later

/-- After the last compilation that succeeds, the compiler stays as that one leaves it. -/
theorem afterUses_of_last {i : Nat} (h : i < uses.length)
    (idle : ∀ j (h' : j < uses.length), i < j →
      ¬ (compiler.afterUses (uses.take j)).Succeeds uses[j]) :
    compiler.afterUses uses = compiler.afterUses (uses.take (i + 1)) := by
  have rest : (compiler.afterUses (uses.take (i + 1))).afterUses (uses.drop (i + 1)) =
      compiler.afterUses (uses.take (i + 1)) := by
    refine afterUses_of_not_succeeds fun j h' => ?_
    rw [List.length_drop] at h'
    have later := idle (i + 1 + j) (by omega) (by omega)
    rw [List.take_add, afterUses_append] at later
    rw [List.getElem_drop]
    exact later
  rw [← rest, ← afterUses_append, List.take_append_drop]

/-- What is seen of a compiler after any session is what the last successful compilation produced,
all parts together, and what a new compiler shows if there was none. Every other use leaves the
compiler as it is: a command, and a compilation that fails, at whichever pair and field it does. -/
theorem observe_afterUses (manifest : Manifest) (store : EnvironmentStore) (uses : List Use) :
    let before := fun i => (new manifest store).afterUses (uses.take i)
    let seen := ((new manifest store).afterUses uses).observe
    ((∀ i (h : i < uses.length), ¬ (before i).Succeeds uses[i]) → seen = ⟨false, [], [], store⟩) ∧
    (∀ i (h : i < uses.length), (before i).Succeeds uses[i] →
      (∀ j (h' : j < uses.length), i < j → ¬ (before j).Succeeds uses[j]) →
      ∃ found actions, uses[i].expansion? manifest (before i).store = some found ∧
        found.outcome = .ok actions ∧
        seen = ⟨true, (Catalog.build manifest.registries).1.toList, actions, found.store⟩) ∧
    (∀ i (h : i < uses.length), ¬ (before i).Succeeds uses[i] → before (i + 1) = before i) ∧
    ∀ i (h : i < uses.length) world e, uses[i] = .compile world →
      (((before i).perform uses[i]).1 = .compilation (.error e) ↔
        FailsWith manifest world (before i).store e) := by
  intro before seen
  have source (i : Nat) : (before i).manifest = manifest := afterUses_manifest
  refine ⟨?_, ?_, ?_, ?_⟩
  · intro idle
    exact congrArg observe (afterUses_of_not_succeeds idle)
  · intro i h succeeds idle
    obtain ⟨_, found, actions, compiles, accepted, final⟩ :=
      (perform_cases (before i) uses[i]).resolve_left fun unchanged => unchanged.1 succeeds
    rw [source] at compiles final
    refine ⟨found, actions, compiles, accepted, ?_⟩
    have last : (new manifest store).afterUses uses = ((before i).perform uses[i]).2 :=
      (afterUses_of_last h idle).trans (afterUses_take_succ _ h)
    exact congrArg observe (last.trans final)
  · intro i h idle
    exact (afterUses_take_succ _ h).trans (perform_of_not_succeeds idle)
  · intro i h world e compiles
    rw [compiles, ← expansion_eq_error, ← source i]
    constructor
    · intro refused
      exact expansion_of_compileIn_error (Answer.compilation.inj refused)
    · intro refused
      exact congrArg Answer.compilation (compileIn_of_error refused).1

/-- A release whose environment file breaks off in its second line. -/
def broken : Manifest where
  environments := .singleton "dev" {}
  releases := [{ name := "web", pack := "web", environmentFiles := ["web.env"] }]
  path := "/w/packfile.yaml"

/-- The world of `broken`. -/
def brokenWorld : World where
  fs := {
    entries := [(["w"], .directory), (["w", "web.env"], .file "DC=dc1\nREGION='\n".toUTF8 0o644)]
    current := ["w"] }
  process := []

/-- What the first line brought in is dropped with the expansion. -/
example :
    (expansion broken brokenWorld ∅).store.get? "DC" = some "dc1" ∧
      ((new broken ∅).compileIn brokenWorld).compiler.store = ∅ := by
  decide +kernel

end Packfile.Compiler
