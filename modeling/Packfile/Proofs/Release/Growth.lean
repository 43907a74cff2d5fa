import Packfile.Proofs.Environment.Growth
import Packfile.Proofs.Release.Outcome

/-!
# Growth along an expansion

An expansion that succeeds has loaded all environment files of its pairs, one after the other, so
the store that it leaves has every name of these files. Loading them into such a store again changes
nothing.
-/

namespace Packfile.Expansion

variable {setting : Setting} {store : EnvironmentStore} {files : List String} {file : String}
variable {pairs : List Pair} {actions : List Action}

/-- The store has every name that the files assign to. -/
def KnownFiles (setting : Setting) (store : EnvironmentStore) (files : List String) : Prop :=
  ∀ file ∈ files, Dotenv.KnownFile setting.fs store (Path.join setting.workDir file)

/-- The environment files of pairs in the order in which they are loaded. -/
def environmentFiles (pairs : List Pair) : List String :=
  pairs.flatMap fun pair => pair.release.environmentFiles

theorem loadFile_grows : store.Grows (loadFile setting store file).2 :=
  Dotenv.load_grows

theorem loadFile_knownFile {added : Nat} (loaded : (loadFile setting store file).1 = .ok added) :
    Dotenv.KnownFile setting.fs (loadFile setting store file).2 (Path.join setting.workDir file) :=
  Dotenv.load_knownFile loaded

theorem loadFile_store_of_knownFile
    (known : Dotenv.KnownFile setting.fs store (Path.join setting.workDir file)) :
    (loadFile setting store file).2 = store :=
  Dotenv.load_store_of_knownFile known

theorem loadedStore_grows : store.Grows (loadedStore setting store files) := by
  induction files generalizing store with
  | nil => exact .refl _
  | cons file rest ih =>
      rw [loadedStore_cons]
      exact loadFile_grows.trans ih

/-- Once files are loaded, all their names are known. -/
theorem knownFiles_loadedStore (loads : Loads setting store files) :
    KnownFiles setting (loadedStore setting store files) files := by
  induction files generalizing store with
  | nil => simp [KnownFiles]
  | cons file rest ih =>
      obtain ⟨⟨added, first⟩, others⟩ := loads_cons.mp loads
      rw [loadedStore_cons]
      intro other member
      rcases List.mem_cons.mp member with rfl | member
      · exact (loadFile_knownFile first).mono loadedStore_grows
      · exact ih others other member

theorem loadedStore_of_knownFiles (known : KnownFiles setting store files) :
    loadedStore setting store files = store := by
  induction files with
  | nil => rfl
  | cons file rest ih =>
      rw [loadedStore_cons, loadFile_store_of_knownFile (known file (by simp))]
      exact ih fun other member => known other (by simp [member])

theorem loads_append {xs ys : List String} :
    Loads setting store (xs ++ ys) ↔
      Loads setting store xs ∧ Loads setting (loadedStore setting store xs) ys := by
  induction xs generalizing store with
  | nil => simp [loads_nil]
  | cons file rest ih =>
      rw [List.cons_append, loads_cons, loads_cons, ih, loadedStore_cons, and_assoc]

/-- An expansion that succeeds has loaded every environment file. -/
theorem expandPairs_loads (accepted : (expandPairs setting store pairs).outcome = .ok actions) :
    Loads setting store (environmentFiles pairs) := by
  induction pairs generalizing store actions with
  | nil => exact loads_nil
  | cons pair rest ih =>
      rw [expandPairs_cons] at accepted
      cases first : (expandPair setting store pair).outcome with
      | error e =>
          rw [first] at accepted
          cases accepted
      | ok action =>
          rw [first] at accepted
          obtain ⟨others, later, _⟩ := map_eq_ok.mp accepted
          have treat := expandPair_eq_ok.mp first
          rw [(expandPair_of_loads treat.loads).2] at later
          exact loads_append.mpr ⟨treat.loads, ih later⟩

/-- The store after an expansion that succeeds. -/
theorem expandPairs_loadedStore
    (accepted : (expandPairs setting store pairs).outcome = .ok actions) :
    (expandPairs setting store pairs).store = loadedStore setting store (environmentFiles pairs) := by
  rw [expandPairs_store accepted, storeBefore, List.take_length, environmentFiles]

end Packfile.Expansion
