import Packfile.Proofs.Environment.Lines

/-!
# Growth of the environment store

Loading an environment file only adds variables. A store in which all names of a file are known is
left as it is by a load of that file, whether the load succeeds or not, and a load that succeeds
leaves a store in which all names of the file are known. Both facts follow from what one line does.
-/

namespace Packfile

namespace EnvironmentStore

/-- Every variable keeps its value. -/
def Grows (before after : EnvironmentStore) : Prop :=
  ∀ name value, before.get? name = some value → after.get? name = some value

variable {a b c : EnvironmentStore} {name value : String}

theorem Grows.refl (store : EnvironmentStore) : store.Grows store :=
  fun _ _ found => found

theorem Grows.trans (first : a.Grows b) (later : b.Grows c) : a.Grows c :=
  fun name value found => later name value (first name value found)

theorem Grows.contains (growth : a.Grows b) (known : a.contains name) : b.contains name := by
  obtain ⟨value, found⟩ := Option.isSome_iff_exists.mp known
  exact Option.isSome_iff_exists.mpr ⟨value, growth name value found⟩

theorem grows_set (unknown : a.contains name = false) : a.Grows (a.set name value) := by
  intro other kept found
  have different : name ≠ other := by
    rintro rfl
    simp [EnvironmentStore.contains, found] at unknown
  rw [get?_set, if_neg different]
  exact found

end EnvironmentStore

namespace Dotenv

variable {process : ProcessEnvironment} {store after : EnvironmentStore}

/-- Whatever name a line assigns to, the store has it. -/
def Known (store : EnvironmentStore) (line : List Char) : Prop :=
  ∀ assignment, Line.parse line = .ok (some assignment) → store.contains assignment.key

theorem Known.mono {line : List Char} (known : Known store line) (growth : store.Grows after) :
    Known after line :=
  fun assignment parsed => growth.contains (known assignment parsed)

namespace Loading

variable {state next : Loading} {line : List Char} {lines : List (List Char)}
variable {key value : String}

/-! ## One line -/

theorem assign_grows : state.store.Grows (state.assign key value).store := by
  simp only [assign]
  split
  · exact .refl _
  · next unknown => exact EnvironmentStore.grows_set (Bool.eq_false_iff.mpr unknown)

theorem assign_contains : (state.assign key value).store.contains key := by
  simp only [assign]
  split
  · assumption
  · simp [EnvironmentStore.contains]

theorem assign_of_contains (known : state.store.contains key) :
    (state.assign key value).store = state.store ∧
      (state.assign key value).added = state.added := by
  simp [assign, known]

theorem addLine_grows (added : state.addLine line = .ok next) :
    state.store.Grows next.store := by
  rcases addLine_eq_ok added with ⟨_, rfl⟩ | ⟨key, value, _, rfl⟩
  · exact .refl _
  · exact assign_grows

theorem addLine_known (added : state.addLine line = .ok next) :
    Known next.store line := by
  intro assignment parsed
  rcases addLine_eq_ok added with ⟨idle, rfl⟩ | ⟨key, value, read, rfl⟩
  · rw [Line.isAssignment_of_parse parsed] at idle
    cases idle
  · obtain ⟨found, parsed', rfl⟩ := readLine_eq_some read
    rw [parsed'] at parsed
    cases parsed
    exact assign_contains

theorem addLine_of_known (known : Known state.store line)
    (added : state.addLine line = .ok next) :
    next.store = state.store ∧ next.added = state.added := by
  rcases addLine_eq_ok added with ⟨_, rfl⟩ | ⟨key, value, read, rfl⟩
  · exact ⟨rfl, rfl⟩
  · obtain ⟨assignment, parsed, rfl⟩ := readLine_eq_some read
    exact assign_of_contains (known assignment parsed)

/-! ## All lines -/

theorem addLines_grows (state : Loading) (lines : List (List Char)) :
    state.store.Grows (state.addLines lines).1.store := by
  induction lines generalizing state with
  | nil => exact .refl _
  | cons line rest ih =>
      simp only [addLines]
      cases added : state.addLine line with
      | ok next => exact (addLine_grows added).trans (ih next)
      | error fault => exact .refl _

theorem addLines_known (accepted : (state.addLines lines).2 = none) :
    ∀ line ∈ lines, Known (state.addLines lines).1.store line := by
  induction lines generalizing state with
  | nil => simp
  | cons line rest ih =>
      simp only [addLines] at accepted ⊢
      cases added : state.addLine line with
      | error fault => simp [added] at accepted
      | ok next =>
          simp only [added] at accepted ⊢
          intro other member
          rcases List.mem_cons.mp member with rfl | member
          · exact (addLine_known added).mono (addLines_grows _ _)
          · exact ih accepted other member

/-- Lines that assign to known names only add nothing and leave the store as it is, up to a line
that is refused and without one. -/
theorem addLines_of_known (known : ∀ line ∈ lines, Known state.store line) :
    (state.addLines lines).1.store = state.store ∧
      (state.addLines lines).1.added = state.added := by
  induction lines generalizing state with
  | nil => exact ⟨rfl, rfl⟩
  | cons line rest ih =>
      simp only [addLines]
      cases added : state.addLine line with
      | error fault => exact ⟨rfl, rfl⟩
      | ok next =>
          obtain ⟨same, count⟩ := addLine_of_known (known line (by simp)) added
          rw [← same, ← count]
          exact ih fun other member => same ▸ known other (by simp [member])

end Loading

/-! ## Files -/

variable {fs : FileSystem} {path : String} {text : String}

theorem loadText_store :
    (loadText process store text).2 =
      (Loading.addLines { store } (Text.lines text.toList)).1.store := by
  rw [loadText_eq]
  generalize Loading.addLines { store } (Text.lines text.toList) = read
  obtain ⟨state, _ | fault⟩ := read <;> rfl

/-- Loading a file that can be read is loading its text, with the path put into the error. -/
theorem load_of_readText (found : fs.readText path = .ok text) :
    load fs process store path =
      ((loadText process store text).1.mapError (FileError.mk path),
        (loadText process store text).2) := by
  simp only [load, found]
  generalize loadText process store text = loaded
  obtain ⟨outcome | outcome, after⟩ := loaded <;> rfl

theorem load_store_of_readText (found : fs.readText path = .ok text) :
    (load fs process store path).2 = (loadText process store text).2 :=
  congrArg Prod.snd (load_of_readText found)

theorem load_eq_ok {added : Nat} :
    (load fs process store path).1 = .ok added ↔
      ∃ text, fs.readText path = .ok text ∧ (loadText process store text).1 = .ok added := by
  cases found : fs.readText path with
  | error e => simp [load, found]
  | ok text => simp [load_of_readText found, mapError_eq_ok]

theorem load_store_of_not_readText {e : IoError} (missing : fs.readText path = .error e) :
    (load fs process store path).2 = store := by
  simp only [load, missing]

/-- The store has every name that the file at a path assigns to. -/
def KnownFile (fs : FileSystem) (store : EnvironmentStore) (path : String) : Prop :=
  ∀ text, fs.readText path = .ok text → ∀ line ∈ Text.lines text.toList, Known store line

theorem KnownFile.mono (known : KnownFile fs store path) (growth : store.Grows after) :
    KnownFile fs after path :=
  fun text found line member => (known text found line member).mono growth

theorem load_grows : store.Grows (load fs process store path).2 := by
  cases found : fs.readText path with
  | error e =>
      rw [load_store_of_not_readText found]
      exact .refl _
  | ok text =>
      rw [load_store_of_readText found, loadText_store]
      exact Loading.addLines_grows { store } _

theorem load_knownFile {added : Nat} (loaded : (load fs process store path).1 = .ok added) :
    KnownFile fs (load fs process store path).2 path := by
  intro text found
  rw [load_store_of_readText found, loadText_store]
  obtain ⟨text', found', accepted⟩ := load_eq_ok.mp loaded
  obtain rfl : text' = text := by
    rw [found] at found'
    exact (Except.ok.inj found').symm
  exact Loading.addLines_known (addLines_of_loadText accepted)

theorem load_store_of_knownFile (known : KnownFile fs store path) :
    (load fs process store path).2 = store := by
  cases found : fs.readText path with
  | error e => exact load_store_of_not_readText found
  | ok text =>
      rw [load_store_of_readText found, loadText_store]
      exact (Loading.addLines_of_known (known text found)).1

end Dotenv

end Packfile
