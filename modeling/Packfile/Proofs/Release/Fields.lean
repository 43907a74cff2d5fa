import Packfile.Proofs.Release.Matrix
import Packfile.Proofs.Traversal

/-!
# The fields of one pair

Treating a pair of an environment and a release means to load the environment files of the release
and then to resolve its fields against the store that results. Here both parts are given as
relations: one for success, which says what each field of the action is, and one for failure, which
says that some step was refused and all steps before it were not. The functions of an expansion
decide these relations.
-/

namespace Packfile.Expansion

variable {setting : Setting} {context : Template.Context} {store : EnvironmentStore}
variable {release : Release} {e : CompileError}

/-! ## Environment files -/

/-- Loads one environment file, whose path is seen from the working directory. -/
def loadFile (setting : Setting) (store : EnvironmentStore) (file : String) :
    Except Dotenv.FileError Nat × EnvironmentStore :=
  Dotenv.load setting.fs setting.process store (Path.join setting.workDir file)

/-- The store after files have been loaded in order. -/
def loadedStore (setting : Setting) (store : EnvironmentStore) (files : List String) :
    EnvironmentStore :=
  files.foldl (fun current file => (loadFile setting current file).2) store

@[simp] theorem loadedStore_nil : loadedStore setting store [] = store := rfl

@[simp] theorem loadedStore_cons (file : String) (rest : List String) :
    loadedStore setting store (file :: rest) =
      loadedStore setting (loadFile setting store file).2 rest :=
  List.foldl_cons ..

theorem loadedStore_append (xs ys : List String) :
    loadedStore setting store (xs ++ ys) =
      loadedStore setting (loadedStore setting store xs) ys :=
  List.foldl_append

/-- Every file can be loaded into the store that the files before it leave. -/
def Loads (setting : Setting) (store : EnvironmentStore) (files : List String) : Prop :=
  ∀ before file after, files = before ++ file :: after →
    ∃ added, (loadFile setting (loadedStore setting store before) file).1 = .ok added

/-- Some file cannot be loaded, and those before it can. -/
def LoadFault (setting : Setting) (store : EnvironmentStore) (files : List String)
    (cause : Dotenv.FileError) : Prop :=
  ∃ before file after, files = before ++ file :: after ∧ Loads setting store before ∧
    (loadFile setting (loadedStore setting store before) file).1 = .error cause

theorem loads_nil : Loads setting store [] := by
  intro before file after split
  simp at split

theorem loads_cons {file : String} {rest : List String} :
    Loads setting store (file :: rest) ↔
      (∃ added, (loadFile setting store file).1 = .ok added) ∧
        Loads setting (loadFile setting store file).2 rest := by
  constructor
  · intro loads
    refine ⟨loads [] file rest rfl, ?_⟩
    intro before other after split
    exact loads (file :: before) other after (by rw [split]; rfl)
  · rintro ⟨first, others⟩ before other after split
    cases before with
    | nil =>
        obtain ⟨rfl, rfl⟩ := List.cons.inj split
        exact first
    | cons head before =>
        obtain ⟨rfl, rfl⟩ := List.cons.inj split
        exact others before other after rfl

theorem loadFault_cons {file : String} {rest : List String} {cause : Dotenv.FileError} :
    LoadFault setting store (file :: rest) cause ↔
      (loadFile setting store file).1 = .error cause ∨
        (∃ added, (loadFile setting store file).1 = .ok added) ∧
          LoadFault setting (loadFile setting store file).2 rest cause := by
  constructor
  · rintro ⟨before, other, after, split, loads, refused⟩
    cases before with
    | nil =>
        obtain ⟨rfl, rfl⟩ := List.cons.inj split
        exact .inl refused
    | cons head before =>
        obtain ⟨rfl, rfl⟩ := List.cons.inj split
        obtain ⟨first, others⟩ := loads_cons.mp loads
        exact .inr ⟨first, before, other, after, rfl, others, refused⟩
  · rintro (refused | ⟨first, before, other, after, rfl, loads, refused⟩)
    · exact ⟨[], file, rest, rfl, loads_nil, refused⟩
    · exact ⟨file :: before, other, after, rfl, loads_cons.mpr ⟨first, loads⟩, refused⟩

@[simp] theorem loadFiles_nil {name : String} :
    loadFiles setting name store [] = (.ok (), store) := (rfl)

theorem loadFiles_cons {name file : String} {rest : List String} :
    loadFiles setting name store (file :: rest) =
      match loadFile setting store file with
      | (.ok _, next) => loadFiles setting name next rest
      | (.error cause, next) => (.error (.environmentFile name cause), next) := (rfl)

theorem loadFiles_eq_ok {name : String} {files : List String} :
    (loadFiles setting name store files).1 = .ok () ↔ Loads setting store files := by
  induction files generalizing store with
  | nil => simp [loads_nil]
  | cons file rest ih =>
      rw [loads_cons, ← ih, loadFiles_cons]
      generalize loadFile setting store file = loaded
      obtain ⟨outcome | outcome, next⟩ := loaded <;> simp

theorem loadFiles_store {name : String} {files : List String}
    (loads : Loads setting store files) :
    (loadFiles setting name store files).2 = loadedStore setting store files := by
  induction files generalizing store with
  | nil => rfl
  | cons file rest ih =>
      obtain ⟨⟨added, first⟩, others⟩ := loads_cons.mp loads
      rw [loadedStore_cons, ← ih others, loadFiles_cons]
      cases loaded : loadFile setting store file with
      | mk outcome next =>
          rw [loaded] at first
          subst first
          rfl

theorem loadFiles_eq_error {name : String} {files : List String} :
    (loadFiles setting name store files).1 = .error e ↔
      ∃ cause, LoadFault setting store files cause ∧ e = .environmentFile name cause := by
  induction files generalizing store with
  | nil => simp [LoadFault]
  | cons file rest ih =>
      simp only [loadFault_cons, loadFiles_cons]
      generalize loadFile setting store file = loaded
      obtain ⟨outcome | outcome, next⟩ := loaded <;> simp [ih, eq_comm]

/-! ## Packs, connection and variables -/

theorem resolvePack_eq_ok {pack : Pack} :
    resolvePack setting release = .ok pack ↔
      Pack.resolve setting.catalog release.pack = .ok pack :=
  mapError_eq_ok

theorem resolvePack_eq_error :
    resolvePack setting release = .error e ↔
      (Pack.resolve setting.catalog release.pack = .error .malformed ∧
        e = .invalidPackReference release.name release.pack) ∨
      ∃ registry, Pack.resolve setting.catalog release.pack = .error (.unknownRegistry registry) ∧
        e = .registryNotFound release.name registry := by
  simp only [resolvePack, mapError_eq_error]
  constructor
  · rintro ⟨fault, refused, rfl⟩
    cases fault with
    | malformed => exact .inl ⟨refused, rfl⟩
    | unknownRegistry registry => exact .inr ⟨registry, refused, rfl⟩
  · rintro (⟨refused, rfl⟩ | ⟨registry, refused, rfl⟩)
    · exact ⟨_, refused, rfl⟩
    · exact ⟨_, refused, rfl⟩

theorem renderField_eq_ok {name field template text : String} :
    renderField context name field template = .ok text ↔
      Template.resolve context template = .ok text :=
  mapError_eq_ok

theorem renderField_eq_error {name field template : String} :
    renderField context name field template = .error e ↔
      ∃ cause, Template.resolve context template = .error cause ∧
        e = .template name field cause := by
  simp only [renderField, mapError_eq_error]
  exact exists_congr fun cause => and_congr_right fun _ => eq_comm

/-- The var files are the rendered templates that name something that exists. -/
theorem existingVarFiles_eq_ok {name : String} {templates files : List String} :
    (existingVarFiles setting context name templates).1 = .ok files ↔
      ∃ rendered, Accepts (Template.resolve context) templates rendered ∧
        files = rendered.filter fun file =>
          setting.fs.pathExists (Path.join setting.workDir file) := by
  induction templates generalizing files with
  | nil => simp [existingVarFiles, Accepts, eq_comm]
  | cons template rest ih =>
      simp only [existingVarFiles, accepts_cons]
      cases result : renderField context name "var-files" template with
      | error e =>
          obtain ⟨cause, refused, _⟩ := renderField_eq_error.mp result
          simp [refused]
      | ok file =>
          rw [renderField_eq_ok] at result
          by_cases found : setting.fs.pathExists (Path.join setting.workDir file)
          · simp only [found, if_true, map_eq_ok, ih, result, Except.ok.injEq]
            constructor
            · rintro ⟨others, ⟨rendered, accepted, rfl⟩, rfl⟩
              exact ⟨_, ⟨_, _, rfl, accepted, rfl⟩, by simp [found]⟩
            · rintro ⟨_, ⟨_, rendered, rfl, accepted, rfl⟩, rfl⟩
              exact ⟨_, ⟨rendered, accepted, rfl⟩, by simp [found]⟩
          · simp only [found, Bool.false_eq_true, if_false, ih, result, Except.ok.injEq]
            constructor
            · rintro ⟨rendered, accepted, rfl⟩
              exact ⟨_, ⟨_, _, rfl, accepted, rfl⟩, by simp [found]⟩
            · rintro ⟨_, ⟨_, rendered, rfl, accepted, rfl⟩, rfl⟩
              exact ⟨rendered, accepted, by simp [found]⟩

theorem existingVarFiles_eq_error {name : String} {templates : List String} :
    (existingVarFiles setting context name templates).1 = .error e ↔
      ∃ template cause, FirstFault (Template.resolve context) templates template cause ∧
        e = .template name "var-files" cause := by
  induction templates with
  | nil => simp [existingVarFiles, not_firstFault_nil]
  | cons template rest ih =>
      simp only [existingVarFiles]
      cases result : renderField context name "var-files" template with
      | error e' =>
          obtain ⟨cause, refused, rfl⟩ := renderField_eq_error.mp result
          simp [firstFault_cons_of_error refused, eq_comm]
      | ok file =>
          rw [renderField_eq_ok] at result
          simp only [firstFault_cons_of_ok result]
          split
          · rw [map_eq_error, ih]
          · exact ih

theorem renderVars_eq_ok {vars : OrderedMap String} :
    renderVars context release = .ok vars ↔
      List.Forall₂ (fun entry result => result.1 = entry.1 ∧
        Template.resolve context entry.2 = .ok result.2) release.vars.entries vars.entries := by
  simp only [renderVars, OrderedMap.traverse_eq_ok, renderField_eq_ok]

theorem renderVars_eq_error :
    renderVars context release = .error e ↔
      ∃ entry cause, FirstFault (fun entry => Template.resolve context entry.2)
        release.vars.entries entry cause ∧
          e = .template release.name ("vars." ++ entry.1) cause := by
  simp only [renderVars, OrderedMap.traverse_eq_error, FirstFault, renderField_eq_ok,
    renderField_eq_error]
  constructor
  · rintro ⟨entry, before, after, split, earlier, cause, refused, rfl⟩
    exact ⟨entry, cause, ⟨before, after, split, earlier, refused⟩, rfl⟩
  · rintro ⟨entry, cause, ⟨before, after, split, earlier, refused⟩, rfl⟩
    exact ⟨entry, before, after, split, earlier, cause, refused, rfl⟩

end Packfile.Expansion
