import Mathlib.Data.List.Nodup
import Packfile.Proofs.Compiler.History

/-!
# Compiling a part of a manifest

A manifest can be restricted to one environment or to the releases of one name before it is
compiled. This leaves pairs out of the matrix. What is left out can bear on the rest only through
the store: if no pair that is left out before a pair that is kept names environment files, each kept
pair finds the store that it finds in the whole matrix, and so gets the action that it gets there.
-/

namespace Packfile

namespace OrderedMap

variable {α : Type} {m : OrderedMap α} {name : String} {value : α} {before after : List (String × α)}

/-- A name stands in one entry only. -/
theorem absent_of_split (split : m.entries = before ++ (name, value) :: after) :
    (∀ entry ∈ before, entry.1 ≠ name) ∧ ∀ entry ∈ after, entry.1 ≠ name := by
  have distinct := m.nodup
  rw [split, List.map_append, List.map_cons, List.nodup_middle, List.nodup_cons] at distinct
  have absent := distinct.1
  rw [List.mem_append, not_or] at absent
  refine ⟨?_, ?_⟩
  · rintro entry member rfl
    exact absent.1 (List.mem_map.mpr ⟨entry, member, rfl⟩)
  · rintro entry member rfl
    exact absent.2 (List.mem_map.mpr ⟨entry, member, rfl⟩)

theorem get?_of_split (split : m.entries = before ++ (name, value) :: after) :
    m.get? name = some value := by
  rw [get?_eq_some_iff, split]
  exact List.mem_append_right before List.mem_cons_self

end OrderedMap

namespace Expansion

variable {setting : Setting} {store : EnvironmentStore} {pair : Pair} {pairs : List Pair}
variable {action : Action} {actions : List Action}

/-! ## Leaving pairs out -/

/-- No pair that is left out before one that is kept names environment files. -/
def Separable (keep : Pair → Bool) (pairs : List Pair) : Prop :=
  pairs.Pairwise fun earlier later =>
    keep later → keep earlier = false → earlier.release.environmentFiles = []

/-- An action tells whether its pair is kept. -/
def Reflects (chosen : Action → Bool) (keep : Pair → Bool) : Prop :=
  ∀ {setting store pair action}, Treats setting store pair action → chosen action = keep pair

/-- The first pair, if an expansion succeeds, and what the others are expanded to. -/
theorem expandPairs_cons_eq_ok
    (accepted : (expandPairs setting store (pair :: pairs)).outcome = .ok actions) :
    ∃ action others, Treats setting store pair action ∧
      (expandPairs setting (loadedStore setting store pair.release.environmentFiles)
        pairs).outcome = .ok others ∧ actions = action :: others := by
  rw [expandPairs_cons] at accepted
  cases first : (expandPair setting store pair).outcome with
  | error e =>
      rw [first] at accepted
      cases accepted
  | ok action =>
      rw [first] at accepted
      have treats : Treats setting store pair action := expandPair_eq_ok.mp first
      obtain ⟨others, later, same⟩ := map_eq_ok.mp accepted
      rw [(expandPair_of_loads treats.loads).2] at later
      exact ⟨action, others, treats, later, same.symm⟩

theorem expandPairs_cons_of_treats {others : List Action}
    (treats : Treats setting store pair action)
    (later : (expandPairs setting (loadedStore setting store pair.release.environmentFiles)
      pairs).outcome = .ok others) :
    (expandPairs setting store (pair :: pairs)).outcome = .ok (action :: others) := by
  rw [expandPairs_cons, expandPair_eq_ok.mpr treats]
  refine map_eq_ok.mpr ⟨others, ?_, rfl⟩
  rw [(expandPair_of_loads treats.loads).2]
  exact later

/-- Expanding the pairs that are kept yields the actions of these pairs. -/
theorem expandPairs_filter {keep : Pair → Bool} {chosen : Action → Bool}
    (accepted : (expandPairs setting store pairs).outcome = .ok actions)
    (separable : Separable keep pairs) (reflects : Reflects chosen keep) :
    (expandPairs setting store (pairs.filter keep)).outcome = .ok (actions.filter chosen) := by
  induction pairs generalizing store actions with
  | nil =>
      obtain rfl : [] = actions := Except.ok.inj accepted
      rfl
  | cons pair rest ih =>
      obtain ⟨action, others, treats, later, rfl⟩ := expandPairs_cons_eq_ok accepted
      obtain ⟨before, separable'⟩ := List.pairwise_cons.mp separable
      have rest' := ih later separable'
      cases kept : keep pair with
      | true =>
          rw [List.filter_cons_of_pos kept,
            List.filter_cons_of_pos ((reflects treats).trans kept)]
          exact expandPairs_cons_of_treats treats rest'
      | false =>
          have dropped : ¬ keep pair := by simp [kept]
          have dropped' : ¬ chosen action := by simp [reflects treats, kept]
          rw [List.filter_cons_of_neg dropped, List.filter_cons_of_neg dropped']
          -- with nothing kept behind it, the store that the pair leaves does not matter
          cases remaining : rest.filter keep with
          | nil =>
              rw [remaining] at rest'
              exact rest'
          | cons next _ =>
              have member : next ∈ rest.filter keep := by simp [remaining]
              obtain ⟨behind, wanted⟩ := List.mem_filter.mp member
              rw [before next behind wanted kept, loadedStore_nil, remaining] at rest'
              exact rest'

/-- Pairs that load no files may come first, and pairs that are not kept last. -/
theorem separable_append {keep : Pair → Bool} {front middle back : List Pair}
    (idle : ∀ pair ∈ front, pair.release.environmentFiles = [])
    (kept : ∀ pair ∈ middle, keep pair) (dropped : ∀ pair ∈ back, keep pair = false) :
    Separable keep (front ++ (middle ++ back)) := by
  have final {earlier later : Pair} (last : later ∈ back) :
      keep later → keep earlier = false → earlier.release.environmentFiles = [] := by
    intro wanted
    rw [dropped later last] at wanted
    cases wanted
  refine List.pairwise_append.mpr ⟨?_, List.pairwise_append.mpr ⟨?_, ?_, ?_⟩, ?_⟩
  · exact List.pairwise_of_forall_mem_list fun earlier member _ _ _ _ => idle earlier member
  · refine List.pairwise_of_forall_mem_list fun earlier member _ _ _ left => ?_
    rw [kept earlier member] at left
    cases left
  · exact List.pairwise_of_forall_mem_list fun _ _ _ member => final member
  · exact fun _ _ _ member => final member
  · exact fun earlier member _ _ _ _ => idle earlier member

theorem reflects_environment (name : String) :
    Reflects (fun action => decide (action.environment = name))
      (fun pair => decide (pair.environment = name)) := by
  intro _ _ pair action treats
  simp only [treats.resolves.environment]

theorem reflects_name (name : String) :
    Reflects (fun action => decide (action.name = name))
      (fun pair => decide (pair.release.name = name)) := by
  intro _ _ pair action treats
  simp only [treats.resolves.name]

/-! ## Parts of the matrix -/

variable {releases : List Release} {declared : String × ConnectionOverride}

theorem of_mem_row (member : pair ∈ row releases declared) :
    pair.environment = declared.1 ∧ pair.release ∈ releases ∧
      pair.release.appliesTo declared.1 := by
  obtain ⟨release, source, rfl⟩ := List.mem_map.mp member
  obtain ⟨listed, applies⟩ := List.mem_filter.mp source
  exact ⟨rfl, listed, applies⟩

theorem release_of_mem_matrix {environments : OrderedMap ConnectionOverride}
    (member : pair ∈ matrix environments releases) : pair.release ∈ releases := by
  obtain ⟨declared, _, member⟩ := List.mem_flatMap.mp member
  exact (of_mem_row member).2.1

theorem row_filter (keep : Release → Bool) :
    row (releases.filter keep) declared =
      (row releases declared).filter fun pair => keep pair.release := by
  rw [row, row, List.filter_map, List.filter_filter, List.filter_filter]
  simp [Bool.and_comm]

/-- Restricting the releases restricts every row. -/
theorem matrix_filter (environments : OrderedMap ConnectionOverride) (keep : Release → Bool) :
    matrix environments (releases.filter keep) =
      (matrix environments releases).filter fun pair => keep pair.release := by
  rw [matrix, matrix, List.filter_flatMap]
  exact List.flatMap_congr fun declared _ => row_filter keep

/-- The row of an environment, between the rows of those before it and those after it. -/
theorem filter_matrix {environments : OrderedMap ConnectionOverride} {name : String}
    {settings : ConnectionOverride} {before after : List (String × ConnectionOverride)}
    (split : environments.entries = before ++ (name, settings) :: after) :
    (matrix environments releases).filter (fun pair => pair.environment = name) =
      row releases (name, settings) := by
  obtain ⟨earlier, later⟩ := OrderedMap.absent_of_split split
  have none {others : List (String × ConnectionOverride)}
      (absent : ∀ declared ∈ others, declared.1 ≠ name) :
      (others.flatMap (row releases)).filter (fun pair => pair.environment = name) = [] := by
    rw [List.filter_eq_nil_iff]
    intro pair member
    obtain ⟨declared, source, member⟩ := List.mem_flatMap.mp member
    simpa [(of_mem_row member).1] using absent declared source
  have all : (row releases (name, settings)).filter (fun pair => pair.environment = name) =
      row releases (name, settings) := by
    rw [List.filter_eq_self]
    intro pair member
    exact decide_eq_true (of_mem_row member).1
  rw [matrix, split, List.flatMap_append, List.flatMap_cons, List.filter_append,
    List.filter_append, none earlier, none later, all, List.nil_append, List.append_nil]

/-- An environment can be separated if those before it load no files. -/
theorem separable_environment {environments : OrderedMap ConnectionOverride} {name : String}
    {settings : ConnectionOverride} {before after : List (String × ConnectionOverride)}
    (split : environments.entries = before ++ (name, settings) :: after)
    (idle : ∀ declared ∈ before, ∀ release ∈ releases, release.appliesTo declared.1 →
      release.environmentFiles = []) :
    Separable (fun pair => pair.environment = name) (matrix environments releases) := by
  obtain ⟨_, later⟩ := OrderedMap.absent_of_split split
  rw [matrix, split, List.flatMap_append, List.flatMap_cons]
  refine separable_append ?_ ?_ ?_
  · intro pair member
    obtain ⟨declared, source, member⟩ := List.mem_flatMap.mp member
    obtain ⟨_, listed, applies⟩ := of_mem_row member
    exact idle declared source pair.release listed applies
  · intro pair member
    exact decide_eq_true (of_mem_row member).1
  · intro pair member
    obtain ⟨declared, source, member⟩ := List.mem_flatMap.mp member
    simpa [(of_mem_row member).1] using later declared source

/-- A name can be separated if the releases of other names load no files. -/
theorem separable_name {environments : OrderedMap ConnectionOverride} {name : String}
    (idle : ∀ release ∈ releases, release.name ≠ name → release.environmentFiles = []) :
    Separable (fun pair => pair.release.name = name) (matrix environments releases) := by
  refine List.pairwise_of_forall_mem_list fun earlier member later _ _ dropped => ?_
  exact idle earlier.release (release_of_mem_matrix member) (of_decide_eq_false dropped)

end Expansion

namespace Compiler

variable {manifest : Manifest} {store : EnvironmentStore} {world : World}

theorem pairs_selectEnvironment {name : String} {settings : ConnectionOverride}
    {before after : List (String × ConnectionOverride)}
    (split : manifest.environments.entries = before ++ (name, settings) :: after) :
    pairs (manifest.selectEnvironment name) =
      (pairs manifest).filter fun pair => pair.environment = name := by
  rw [pairs, pairs, Expansion.filter_matrix split]
  simp [Manifest.selectEnvironment, OrderedMap.get?_of_split split, Expansion.matrix,
    OrderedMap.singleton]

theorem pairs_selectRelease (manifest : Manifest) (name : String) :
    pairs (manifest.selectRelease name) =
      (pairs manifest).filter fun pair => pair.release.name = name :=
  Expansion.matrix_filter ..

/-- What a new compiler compiles is what the manifest is expanded to. -/
theorem compileIn_new {actions : List Action}
    (expanded : (expansion manifest world store).outcome = .ok actions) :
    ((new manifest store).compileIn world).outcome = .ok () ∧
      ((new manifest store).compileIn world).compiler.actions = actions := by
  have fresh : (expansion (new manifest store).manifest world (new manifest store).store).outcome =
      .ok actions := expanded
  obtain ⟨accepted, final⟩ := compileIn_of_ok fresh
  exact ⟨accepted, congrArg Compiler.actions final⟩

/-- Compiling a part that can be separated from the rest. -/
theorem compileIn_filter {part : Manifest} {keep : Expansion.Pair → Bool} {chosen : Action → Bool}
    (accepted : ((new manifest store).compileIn world).outcome = .ok ())
    (surroundings : setting world.fs world.process part = setting world.fs world.process manifest)
    (selected : pairs part = (pairs manifest).filter keep)
    (separable : Expansion.Separable keep (pairs manifest))
    (reflects : Expansion.Reflects chosen keep) :
    ((new part store).compileIn world).outcome = .ok () ∧
      ((new part store).compileIn world).compiler.actions =
        ((new manifest store).compileIn world).compiler.actions.filter chosen := by
  obtain ⟨actions, expanded⟩ : ∃ actions, (expansion manifest world store).outcome = .ok actions :=
    expansion_of_compileIn_ok accepted
  have expanded' : (expansion part world store).outcome = .ok (actions.filter chosen) := by
    rw [expansion, surroundings, selected]
    exact Expansion.expandPairs_filter expanded separable reflects
  obtain ⟨succeeds, found⟩ := compileIn_new expanded'
  rw [(compileIn_new expanded).2]
  exact ⟨succeeds, found⟩

/-- Selecting and compiling can be exchanged. When the whole manifest compiles, so does the part of
one declared environment, if no release that applies to an environment declared before it names
environment files, and so does the part of the releases of one name, if no other release names any.
The actions are those of the whole with this environment, or this name, in the same order. -/
theorem compile_selected (manifest : Manifest) (store : EnvironmentStore) (world : World)
    (accepted : ((new manifest store).compileIn world).outcome = .ok ()) :
    let actions := ((new manifest store).compileIn world).compiler.actions
    (∀ before name settings after,
      manifest.environments.entries = before ++ (name, settings) :: after →
      (∀ declared ∈ before, ∀ release ∈ manifest.releases, release.appliesTo declared.1 →
        release.environmentFiles = []) →
      let part := (new (manifest.selectEnvironment name) store).compileIn world
      part.outcome = .ok () ∧
        part.compiler.actions = actions.filter fun action => action.environment = name) ∧
    ∀ name,
      (∀ release ∈ manifest.releases, release.name ≠ name → release.environmentFiles = []) →
      let part := (new (manifest.selectRelease name) store).compileIn world
      part.outcome = .ok () ∧
        part.compiler.actions = actions.filter fun action => action.name = name := by
  intro actions
  constructor
  · intro before name settings after split idle
    exact compileIn_filter accepted rfl (pairs_selectEnvironment split)
      (Expansion.separable_environment split idle) (Expansion.reflects_environment name)
  · intro name idle
    exact compileIn_filter accepted rfl (pairs_selectRelease manifest name)
      (Expansion.separable_name idle) (Expansion.reflects_name name)

/-- The environment that comes before the one of interest. -/
def development : String × ConnectionOverride := ("dev", {})

/-- A release for one of two environments brings a variable in, and a later one reads it. -/
def staged : Manifest where
  environments := ⟨[development, ("prod", { token := "t" })], by decide⟩
  releases := [
    { name := "db", pack := "db", environments := some ["prod"], environmentFiles := ["db.env"] },
    { name := "web", pack := "web", address := "\x7b\x7b .Env.DC \x7d\x7d" }]
  path := "/w/packfile.yaml"

/-- The world of `staged`, with its environment file. -/
def stagedWorld : World where
  fs := {
    entries := [(["w"], .directory), (["w", "db.env"], .file "DC=dc1\n".toUTF8 0o644)]
    current := ["w"] }
  process := []

/-- An action of `staged`. -/
def stagedAction (name environment address token : String) : Action where
  name := name
  environment := environment
  pack := { name }
  varFiles := []
  vars := ∅
  workDir := "/w"
  address := address
  token := token

/-- The environment that the file is for can be compiled alone, where `web` still finds what the
file brings in, and so can the release that names the file. -/
theorem compile_selected_staged :
    let whole := (new staged ∅).compileIn stagedWorld
    let prod := (new (staged.selectEnvironment "prod") ∅).compileIn stagedWorld
    let db := (new (staged.selectRelease "db") ∅).compileIn stagedWorld
    let dbInProd := stagedAction "db" "prod" "" "t"
    let webInProd := stagedAction "web" "prod" "dc1" "t"
    whole.outcome = .ok () ∧
    whole.compiler.actions = [stagedAction "web" "dev" "" "", dbInProd, webInProd] ∧
    staged.environments.entries = [development] ++ ("prod", { token := "t" }) :: [] ∧
    (∀ declared ∈ [development], ∀ release ∈ staged.releases,
      release.appliesTo declared.1 → release.environmentFiles = []) ∧
    (∀ release ∈ staged.releases, release.name ≠ "db" → release.environmentFiles = []) ∧
    (prod.outcome = .ok () ∧ prod.compiler.actions = [dbInProd, webInProd]) ∧
    db.outcome = .ok () ∧ db.compiler.actions = [dbInProd] := by
  intro whole prod db dbInProd webInProd
  have accepted : whole.outcome = .ok () := by decide +kernel
  have actions : whole.compiler.actions =
      [stagedAction "web" "dev" "" "", dbInProd, webInProd] := by decide +kernel
  have split : staged.environments.entries = [development] ++ ("prod", { token := "t" }) :: [] :=
    rfl
  have before : ∀ declared ∈ [development], ∀ release ∈ staged.releases,
      release.appliesTo declared.1 → release.environmentFiles = [] := by decide
  have others : ∀ release ∈ staged.releases, release.name ≠ "db" →
      release.environmentFiles = [] := by decide
  obtain ⟨environment, name⟩ := compile_selected staged ∅ stagedWorld accepted
  obtain ⟨succeeds, inProd⟩ := environment _ "prod" _ _ split before
  obtain ⟨succeeds', named⟩ := name "db" others
  rw [actions] at inProd named
  refine ⟨accepted, actions, split, before, others, ⟨succeeds, inProd.trans ?_⟩,
    succeeds', named.trans ?_⟩
  · decide
  · decide

end Compiler

end Packfile
