import Packfile.Proofs.Environment.Load
import Packfile.Proofs.Release.Growth

/-!
# The first assignment counts

An expansion loads environment files one after the other, and of each file the lines up to the first
that is refused. All their assignments, in this order, are one list, and the store that is left has
taken them up: what it had is unchanged, and any other name has the value of its first assignment.
This holds wherever the expansion ends. If it ends well, its store has every name of every file, so
expanding the same matrix once more changes nothing, however far it comes.
-/

namespace Packfile

/-! ## One file -/

namespace Dotenv

variable {store between after : EnvironmentStore} {first later : List (String × String)}
variable {fs : FileSystem} {path : String} {assignments : List (String × String)}

/-- The assignments that a load of a file comes past: those of all lines, or those of the lines
before the first that is refused. There are none if the file cannot be read. -/
inductive LoadAssigns (fs : FileSystem) (store : EnvironmentStore) (path : String) :
    List (String × String) → Prop
  | unreadable {e : IoError} (missing : fs.readText path = .error e) : LoadAssigns fs store path []
  | whole {text : String} {assignments : List (String × String)}
      (found : fs.readText path = .ok text)
      (reads : Reads store (assignmentLines text) assignments) :
      LoadAssigns fs store path assignments
  | part {text : String} {before rest : List (List Char)} {line : List Char}
      {assignments : List (String × String)} {fault : Fault}
      (found : fs.readText path = .ok text)
      (split : assignmentLines text = before ++ line :: rest)
      (reads : Reads store before assignments)
      (refused : readLine (lookupAfter store assignments) line = .error fault) :
      LoadAssigns fs store path assignments

theorem exists_loadAssigns (fs : FileSystem) (store : EnvironmentStore) (path : String) :
    ∃ assignments, LoadAssigns fs store path assignments := by
  cases found : fs.readText path with
  | error e => exact ⟨[], .unreadable found⟩
  | ok text =>
      rcases reads_or_refused store (assignmentLines text)
        (fun line member => (List.mem_filter.mp member).2) with
        ⟨assignments, reads⟩ | ⟨before, line, rest, assignments, fault, split, reads, refused⟩
      · exact ⟨assignments, .whole found reads⟩
      · exact ⟨assignments, .part found split reads refused⟩

theorem takesUp_nil (store : EnvironmentStore) : TakesUp store [] store :=
  fun _ => Option.or_none.symm

theorem TakesUp.trans (takesUp : TakesUp store first between)
    (takesUp' : TakesUp between later after) : TakesUp store (first ++ later) after := by
  intro name
  rw [takesUp' name, takesUp name, firstValue?_append, Option.or_assoc]

theorem TakesUp.grows (takesUp : TakesUp store first after) : store.Grows after := by
  intro name value found
  rw [takesUp name, found]
  rfl

/-- What a load leaves has taken up the assignments that it came past. -/
theorem takesUp_load (process : ProcessEnvironment)
    (assigns : LoadAssigns fs store path assignments) :
    TakesUp store assignments (load fs process store path).2 := by
  cases assigns with
  | unreadable missing =>
      rw [load_store_of_not_readText missing]
      exact takesUp_nil store
  | whole found reads =>
      obtain ⟨-, -, -, takesUp⟩ := loadText_of_reads process reads
      rwa [load_store_of_readText found]
  | part found split reads refused =>
      rw [load_store_of_readText found]
      exact (loadText_of_refused process split reads refused).2

end Dotenv

namespace Expansion

variable {setting : Setting} {store : EnvironmentStore} {files others : List String}
variable {file : String} {pair : Pair} {pairs : List Pair} {assignments : List (String × String)}

/-! ## Files -/

/-- The assignments of files that are loaded one after the other, each into the store that has taken
up the assignments of the files before it. -/
inductive Assigns (setting : Setting) :
    EnvironmentStore → List String → List (String × String) → Prop
  | nil {store : EnvironmentStore} : Assigns setting store [] []
  | cons {store between : EnvironmentStore} {file : String} {files : List String}
      {first later : List (String × String)}
      (assigns : Dotenv.LoadAssigns setting.fs store (Path.join setting.workDir file) first)
      (takesUp : Dotenv.TakesUp store first between)
      (others : Assigns setting between files later) :
      Assigns setting store (file :: files) (first ++ later)

theorem exists_assigns (setting : Setting) (store : EnvironmentStore) (files : List String) :
    ∃ assignments, Assigns setting store files assignments := by
  induction files generalizing store with
  | nil => exact ⟨[], .nil⟩
  | cons file files ih =>
      obtain ⟨first, assigns⟩ :=
        Dotenv.exists_loadAssigns setting.fs store (Path.join setting.workDir file)
      obtain ⟨later, others⟩ := ih (loadFile setting store file).2
      exact ⟨first ++ later, .cons assigns (Dotenv.takesUp_load setting.process assigns) others⟩

theorem takesUp_loadedStore (assigns : Assigns setting store files assignments) :
    Dotenv.TakesUp store assignments (loadedStore setting store files) := by
  induction assigns with
  | nil => exact Dotenv.takesUp_nil _
  | cons first takesUp others ih =>
      rw [loadedStore_cons]
      have same := (Dotenv.takesUp_load setting.process first).unique takesUp
      rw [loadFile, same]
      exact takesUp.trans ih

/-! ## Files that are opened -/

/-- The files that are opened for a pair, up to one that cannot be loaded. -/
inductive OpensFiles (setting : Setting) (store : EnvironmentStore) (files : List String) :
    List String → Prop
  | all (loads : Loads setting store files) : OpensFiles setting store files files
  | upTo {before after : List String} {file : String} {cause : Dotenv.FileError}
      (split : files = before ++ file :: after) (loads : Loads setting store before)
      (refused : (loadFile setting (loadedStore setting store before) file).1 = .error cause) :
      OpensFiles setting store files (before ++ [file])

/-- The files that are opened for pairs in order, up to a pair that fails. -/
inductive Opens (setting : Setting) : EnvironmentStore → List Pair → List String → Prop
  | nil {store : EnvironmentStore} : Opens setting store [] []
  | treated {store : EnvironmentStore} {pair : Pair} {pairs : List Pair} {action : Action}
      {files : List String} (treats : Treats setting store pair action)
      (later : Opens setting (loadedStore setting store pair.release.environmentFiles) pairs
        files) :
      Opens setting store (pair :: pairs) (pair.release.environmentFiles ++ files)
  | failed {store : EnvironmentStore} {pair : Pair} {pairs : List Pair} {e : CompileError}
      {files : List String} (fails : Fails setting store pair e)
      (opens : OpensFiles setting store pair.release.environmentFiles files) :
      Opens setting store (pair :: pairs) files

theorem exists_opensFiles (setting : Setting) (store : EnvironmentStore) (files : List String) :
    ∃ opened, OpensFiles setting store files opened := by
  rcases loads_or_loadFault setting store files with
    loads | ⟨cause, before, file, after, split, loads, refused⟩
  · exact ⟨files, .all loads⟩
  · exact ⟨before ++ [file], .upTo split loads refused⟩

theorem exists_opens (setting : Setting) (store : EnvironmentStore) (pairs : List Pair) :
    ∃ files, Opens setting store pairs files := by
  induction pairs generalizing store with
  | nil => exact ⟨[], .nil⟩
  | cons pair pairs ih =>
      cases outcome : (expandPair setting store pair).outcome with
      | error e =>
          obtain ⟨files, opens⟩ :=
            exists_opensFiles setting store pair.release.environmentFiles
          exact ⟨files, .failed (expandPair_eq_error.mp outcome) opens⟩
      | ok action =>
          obtain ⟨files, later⟩ :=
            ih (loadedStore setting store pair.release.environmentFiles)
          exact ⟨_, .treated (expandPair_eq_ok.mp outcome) later⟩

theorem OpensFiles.isPrefix {opened : List String} (opens : OpensFiles setting store files opened) :
    opened <+: files := by
  cases opens with
  | all => exact List.prefix_rfl
  | @upTo before after file cause split =>
      exact ⟨after, by simp [split]⟩

/-- No more files are opened than those of the pairs, and they are opened in order. -/
theorem Opens.isPrefix (opens : Opens setting store pairs files) :
    files <+: environmentFiles pairs := by
  induction opens with
  | nil => exact List.prefix_rfl
  | treated treats later ih =>
      rw [environmentFiles, List.flatMap_cons]
      exact (List.prefix_append_right_inj _).mpr ih
  | failed fails opens =>
      rw [environmentFiles, List.flatMap_cons]
      exact opens.isPrefix.trans (List.prefix_append _ _)

/-- What is left after a file that cannot be loaded is what its load leaves. -/
theorem loadFiles_store_of_refused {name : String} {before after : List String}
    {cause : Dotenv.FileError} (loads : Loads setting store before)
    (refused : (loadFile setting (loadedStore setting store before) file).1 = .error cause) :
    (loadFiles setting name store (before ++ file :: after)).2 =
      loadedStore setting store (before ++ [file]) := by
  induction before generalizing store with
  | nil =>
      rw [loadedStore_nil] at refused
      rw [List.nil_append, List.nil_append, loadedStore_cons, loadedStore_nil, loadFiles_cons]
      cases loaded : loadFile setting store file with
      | mk outcome next =>
          rw [loaded] at refused
          subst refused
          rfl
  | cons head before ih =>
      obtain ⟨⟨added, first⟩, others⟩ := loads_cons.mp loads
      rw [loadedStore_cons] at refused
      rw [List.cons_append, List.cons_append, loadedStore_cons, ← ih others refused,
        loadFiles_cons]
      cases loaded : loadFile setting store head with
      | mk outcome next =>
          rw [loaded] at first
          subst first
          rfl

theorem loadFiles_store_of_opensFiles {name : String} {opened : List String}
    (opens : OpensFiles setting store files opened) :
    (loadFiles setting name store files).2 = loadedStore setting store opened := by
  cases opens with
  | all loads => exact loadFiles_store loads
  | upTo split loads refused => rw [split, loadFiles_store_of_refused loads refused]

/-- The fields of a pair have no part in the store. -/
theorem expandPair_store (setting : Setting) (store : EnvironmentStore) (pair : Pair) :
    (expandPair setting store pair).store =
      (loadFiles setting pair.release.name store pair.release.environmentFiles).2 := by
  simp only [expandPair, expandRelease]
  cases loadFiles setting pair.release.name store pair.release.environmentFiles with
  | mk outcome after => cases outcome <;> rfl

/-- The store after an expansion is that of the files that it has opened. -/
theorem expandPairs_store_of_opens (opens : Opens setting store pairs files) :
    (expandPairs setting store pairs).store = loadedStore setting store files := by
  induction opens with
  | nil => rfl
  | treated treats later ih =>
      rw [expandPairs_cons, expandPair_eq_ok.mpr treats, loadedStore_append, ← ih]
      simp only [expandPair_store, loadFiles_store treats.loads]
  | failed fails opens =>
      rw [expandPairs_cons, expandPair_eq_error.mpr fails]
      simp only [expandPair_store, loadFiles_store_of_opensFiles opens]

/-- An expansion that succeeds has opened all files. -/
theorem opens_of_accepted {actions : List Action}
    (accepted : (expandPairs setting store pairs).outcome = .ok actions) :
    Opens setting store pairs (environmentFiles pairs) := by
  induction pairs generalizing store actions with
  | nil => exact .nil
  | cons pair pairs ih =>
      rw [expandPairs_cons] at accepted
      cases first : (expandPair setting store pair).outcome with
      | error e =>
          rw [first] at accepted
          cases accepted
      | ok action =>
          rw [first] at accepted
          obtain ⟨others, later, _⟩ := map_eq_ok.mp accepted
          have treats := expandPair_eq_ok.mp first
          rw [expandPair_store, loadFiles_store treats.loads] at later
          exact .treated treats (ih later)

/-! ## Expanding again -/

/-- Once an expansion has succeeded, its store has every name that any of its files assigns to, so
no expansion of the same pairs over the same files adds anything. -/
theorem expandPairs_again {actions : List Action} (process : ProcessEnvironment)
    (accepted : (expandPairs setting store pairs).outcome = .ok actions) :
    (expandPairs { setting with process } (expandPairs setting store pairs).store pairs).store =
      (expandPairs setting store pairs).store := by
  have known := knownFiles_loadedStore (expandPairs_loads accepted)
  rw [← expandPairs_loadedStore accepted] at known
  obtain ⟨files, opens⟩ := exists_opens { setting with process }
    (expandPairs setting store pairs).store pairs
  rw [expandPairs_store_of_opens opens]
  exact loadedStore_of_knownFiles fun file member => known file (opens.isPrefix.subset member)

/-- The store only grows along an expansion, and the first assignment to a name counts. Wherever the
expansion ends, it has opened files in the order of the pairs and within each pair as listed, up to
the first that cannot be loaded or the first pair that fails, and its store has taken up the
assignments of these files in order. After an expansion that succeeds, expanding once more leaves the
store as it is, whether that succeeds or not. -/
theorem expand_takesUp (setting : Setting) (environments : OrderedMap ConnectionOverride)
    (releases : List Release) (store : EnvironmentStore) :
    let pairs := matrix environments releases
    let result := expand setting environments releases store
    store.Grows result.store ∧
    (∃ files assignments, Opens setting store pairs files ∧
      Assigns setting store files assignments) ∧
    (∀ files assignments, Opens setting store pairs files →
      Assigns setting store files assignments →
      files <+: environmentFiles pairs ∧ Dotenv.TakesUp store assignments result.store) ∧
    ∀ actions, result.outcome = .ok actions →
      Opens setting store pairs (environmentFiles pairs) ∧
      ∀ process, (expand { setting with process } environments releases result.store).store =
        result.store := by
  intro pairs result
  have loops : result = expandPairs setting store pairs :=
    expand_eq_expandPairs environments releases store
  have takesUp : ∀ files assignments, Opens setting store pairs files →
      Assigns setting store files assignments →
      files <+: environmentFiles pairs ∧ Dotenv.TakesUp store assignments result.store := by
    intro files assignments opens assigns
    refine ⟨opens.isPrefix, ?_⟩
    rw [loops, expandPairs_store_of_opens opens]
    exact takesUp_loadedStore assigns
  obtain ⟨files, opens⟩ := exists_opens setting store pairs
  obtain ⟨assignments, assigns⟩ := exists_assigns setting store files
  refine ⟨(takesUp files assignments opens assigns).2.grows,
    ⟨files, assignments, opens, assigns⟩, takesUp, ?_⟩
  intro actions accepted
  rw [loops] at accepted ⊢
  refine ⟨opens_of_accepted accepted, fun process => ?_⟩
  rw [expand_eq_expandPairs]
  exact expandPairs_again process accepted

/-- A release reads into a variable that the environment file of a later one brings in twice. -/
def lateReader : List Release := [
  { name := "web", pack := "web", address := "\x7b\x7b .Env.DC.Zone \x7d\x7d" },
  { name := "db", pack := "db", environmentFiles := ["db.env"] }]

/-- The setting of `lateReader`, with its environment file. -/
def lateSetting : Setting where
  fs := {
    entries := [(["w"], .directory), (["w", "db.env"], .file "DC=dc1\nDC=dc2\n".toUTF8 0o644)]
    current := ["w"] }
  process := []
  catalog := ∅
  workDir := "/w"

/-- The first of the two assignments counts. To read into its value is an error, but only once it is
there: the second expansion is refused, and keeps the store nevertheless. -/
theorem expand_takesUp_refused_again :
    let environments := OrderedMap.singleton "dev" ({} : ConnectionOverride)
    let result := expand lateSetting environments lateReader ∅
    let again := expand lateSetting environments lateReader result.store
    result.outcome.toBool = true ∧ result.store.get? "DC" = some "dc1" ∧
    again.outcome.toBool = false ∧ again.store = result.store := by
  intro environments result again
  have accepted : result.outcome.toBool = true := by decide +kernel
  obtain ⟨-, -, -, succeeds⟩ := expand_takesUp lateSetting environments lateReader ∅
  cases outcome : result.outcome with
  | error e =>
      rw [outcome] at accepted
      cases accepted
  | ok actions =>
      exact ⟨rfl, by decide +kernel, by decide +kernel,
        (succeeds actions outcome).2 lateSetting.process⟩

end Expansion

end Packfile
