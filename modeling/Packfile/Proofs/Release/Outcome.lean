import Packfile.Proofs.Release.Fields

/-!
# The outcome of an expansion

The reference that an expansion is measured by is given pair by pair. `Treats` says what the action
of a pair is, in the store that the pairs before it leave, and `Fails` says which error a pair ends
with. `outcome_expand` puts them together over the matrix: the actions are those of all pairs, or
the error is the one of the first pair that fails.
-/

namespace Packfile.Expansion

/-- The address that a pair asks for: the one that the environment forces, if it forces any. -/
def Pair.address (pair : Pair) : String :=
  if pair.settings.address = "" then pair.release.address else pair.settings.address

/-- The token that a pair asks for: the one that the environment forces, if it forces any. -/
def Pair.token (pair : Pair) : String :=
  if pair.settings.token = "" then pair.release.token else pair.settings.token

/-- The context in which the templates of a pair are resolved. -/
def Pair.context (pair : Pair) (store : EnvironmentStore) : Template.Context :=
  { environment := pair.environment, store }

/-- What each field of the action of a pair is, once the store is filled. -/
structure Resolves (setting : Setting) (store : EnvironmentStore) (pair : Pair)
    (action : Action) : Prop where
  name : action.name = pair.release.name
  environment : action.environment = pair.environment
  pack : Pack.resolve setting.catalog pair.release.pack = .ok action.pack
  address : Template.resolve (pair.context store) pair.address = .ok action.address
  token : Template.resolve (pair.context store) pair.token = .ok action.token
  varFiles : ∃ rendered,
    Accepts (Template.resolve (pair.context store)) pair.release.varFiles rendered ∧
      action.varFiles = rendered.filter fun file =>
        setting.fs.pathExists (Path.join setting.workDir file)
  vars : List.Forall₂ (fun entry result => result.1 = entry.1 ∧
    Template.resolve (pair.context store) entry.2 = .ok result.2)
      pair.release.vars.entries action.vars.entries
  workDir : action.workDir = setting.workDir

/-- The error of the first field that cannot be resolved, in the order pack, address, token, var
files, variables. It names the release and, for a template, the field. -/
inductive FieldFault (setting : Setting) (store : EnvironmentStore) (pair : Pair) :
    CompileError → Prop
  | malformed (refused : Pack.resolve setting.catalog pair.release.pack = .error .malformed) :
      FieldFault setting store pair (.invalidPackReference pair.release.name pair.release.pack)
  | unknownRegistry {registry : String}
      (refused : Pack.resolve setting.catalog pair.release.pack =
        .error (.unknownRegistry registry)) :
      FieldFault setting store pair (.registryNotFound pair.release.name registry)
  | address {pack : Pack} {cause : Template.Error}
      (resolved : Pack.resolve setting.catalog pair.release.pack = .ok pack)
      (refused : Template.resolve (pair.context store) pair.address = .error cause) :
      FieldFault setting store pair (.template pair.release.name "nomad-addr" cause)
  | token {pack : Pack} {address : String} {cause : Template.Error}
      (resolved : Pack.resolve setting.catalog pair.release.pack = .ok pack)
      (addressed : Template.resolve (pair.context store) pair.address = .ok address)
      (refused : Template.resolve (pair.context store) pair.token = .error cause) :
      FieldFault setting store pair (.template pair.release.name "nomad-token" cause)
  | varFile {pack : Pack} {address token template : String} {cause : Template.Error}
      (resolved : Pack.resolve setting.catalog pair.release.pack = .ok pack)
      (addressed : Template.resolve (pair.context store) pair.address = .ok address)
      (authorized : Template.resolve (pair.context store) pair.token = .ok token)
      (refused : FirstFault (Template.resolve (pair.context store)) pair.release.varFiles
        template cause) :
      FieldFault setting store pair (.template pair.release.name "var-files" cause)
  | varValue {pack : Pack} {address token : String} {files : List String}
      {entry : String × String} {cause : Template.Error}
      (resolved : Pack.resolve setting.catalog pair.release.pack = .ok pack)
      (addressed : Template.resolve (pair.context store) pair.address = .ok address)
      (authorized : Template.resolve (pair.context store) pair.token = .ok token)
      (rendered : Accepts (Template.resolve (pair.context store)) pair.release.varFiles files)
      (refused : FirstFault (fun entry => Template.resolve (pair.context store) entry.2)
        pair.release.vars.entries entry cause) :
      FieldFault setting store pair (.template pair.release.name ("vars." ++ entry.1) cause)

/-- Treating a pair in a store succeeds with an action: the environment files are loaded before
anything else, and the fields are resolved in the store that results. -/
structure Treats (setting : Setting) (store : EnvironmentStore) (pair : Pair)
    (action : Action) : Prop where
  loads : Loads setting store pair.release.environmentFiles
  resolves : Resolves setting (loadedStore setting store pair.release.environmentFiles) pair action

/-- Treating a pair in a store ends with an error: that of the first environment file that cannot
be loaded, or that of the first field that cannot be resolved when all files can. -/
inductive Fails (setting : Setting) (store : EnvironmentStore) (pair : Pair) : CompileError → Prop
  | environmentFile {cause : Dotenv.FileError}
      (fault : LoadFault setting store pair.release.environmentFiles cause) :
      Fails setting store pair (.environmentFile pair.release.name cause)
  | field {e : CompileError} (loads : Loads setting store pair.release.environmentFiles)
      (fault : FieldFault setting (loadedStore setting store pair.release.environmentFiles)
        pair e) :
      Fails setting store pair e

/-- The store that the pair at a position finds: the environment files of all pairs before it have
been loaded. -/
def storeBefore (setting : Setting) (store : EnvironmentStore) (pairs : List Pair) (i : Nat) :
    EnvironmentStore :=
  loadedStore setting store ((pairs.take i).flatMap fun pair => pair.release.environmentFiles)

variable {setting : Setting} {store : EnvironmentStore} {pair : Pair} {pairs : List Pair}
variable {action : Action} {actions : List Action} {e : CompileError}

/-! ## One pair -/

theorem overridden_address :
    overridden pair.settings.address pair.release.address = pair.address := rfl

theorem overridden_token : overridden pair.settings.token pair.release.token = pair.token := rfl

/-- The outcome of a release is that of its steps in order. -/
theorem outcome_resolveRelease {context : Template.Context} {settings : ConnectionOverride}
    {release : Release} :
    (resolveRelease setting context settings release).1 = (do
      let pack ← resolvePack setting release
      let address ← renderField context release.name "nomad-addr"
        (overridden settings.address release.address)
      let token ← renderField context release.name "nomad-token"
        (overridden settings.token release.token)
      let varFiles ← (existingVarFiles setting context release.name release.varFiles).1
      let vars ← renderVars context release
      .ok {
        name := release.name
        environment := context.environment
        pack, varFiles, vars
        workDir := setting.workDir
        address, token }) := by
  dsimp only [resolveRelease]
  cases resolvePack setting release with
  | error e => rfl
  | ok pack =>
      cases renderField context release.name "nomad-addr"
          (overridden settings.address release.address) with
      | error e => rfl
      | ok address =>
          cases renderField context release.name "nomad-token"
              (overridden settings.token release.token) <;> rfl

theorem resolveRelease_eq_ok :
    (resolveRelease setting (pair.context store) pair.settings pair.release).1 = .ok action ↔
      Resolves setting store pair action := by
  simp only [outcome_resolveRelease, overridden_address, overridden_token, bind_eq_ok,
    resolvePack_eq_ok, renderField_eq_ok, existingVarFiles_eq_ok, renderVars_eq_ok]
  constructor
  · rintro ⟨pack, resolved, address, addressed, token, authorized, files, found, vars, rendered,
      same⟩
    obtain rfl := Except.ok.inj same
    exact ⟨rfl, rfl, resolved, addressed, authorized, found, rendered, rfl⟩
  · intro resolves
    refine ⟨_, resolves.pack, _, resolves.address, _, resolves.token, _, resolves.varFiles, _,
      resolves.vars, ?_⟩
    have environment : (pair.context store).environment = action.environment :=
      resolves.environment.symm
    rw [environment, ← resolves.name, ← resolves.workDir]

theorem resolveRelease_eq_error :
    (resolveRelease setting (pair.context store) pair.settings pair.release).1 = .error e ↔
      FieldFault setting store pair e := by
  simp only [outcome_resolveRelease, overridden_address, overridden_token, bind_eq_error,
    resolvePack_eq_error, renderField_eq_error, existingVarFiles_eq_error, renderVars_eq_error,
    resolvePack_eq_ok, renderField_eq_ok, existingVarFiles_eq_ok]
  constructor
  · rintro ((⟨refused, rfl⟩ | ⟨registry, refused, rfl⟩) | ⟨pack, resolved, later⟩)
    · exact .malformed refused
    · exact .unknownRegistry refused
    rcases later with ⟨cause, refused, rfl⟩ | ⟨address, addressed, later⟩
    · exact .address resolved refused
    rcases later with ⟨cause, refused, rfl⟩ | ⟨token, authorized, later⟩
    · exact .token resolved addressed refused
    rcases later with ⟨template, cause, refused, rfl⟩ | ⟨files, ⟨rendered, accepted, _⟩, later⟩
    · exact .varFile resolved addressed authorized refused
    rcases later with ⟨entry, cause, refused, rfl⟩ | ⟨vars, _, impossible⟩
    · exact .varValue resolved addressed authorized accepted refused
    · cases impossible
  · intro fault
    cases fault with
    | malformed refused => exact .inl (.inl ⟨refused, rfl⟩)
    | unknownRegistry refused => exact .inl (.inr ⟨_, refused, rfl⟩)
    | address resolved refused => exact .inr ⟨_, resolved, .inl ⟨_, refused, rfl⟩⟩
    | token resolved addressed refused =>
        exact .inr ⟨_, resolved, .inr ⟨_, addressed, .inl ⟨_, refused, rfl⟩⟩⟩
    | varFile resolved addressed authorized refused =>
        exact .inr ⟨_, resolved, .inr ⟨_, addressed, .inr ⟨_, authorized,
          .inl ⟨_, _, refused, rfl⟩⟩⟩⟩
    | varValue resolved addressed authorized rendered refused =>
        exact .inr ⟨_, resolved, .inr ⟨_, addressed, .inr ⟨_, authorized,
          .inr ⟨_, ⟨_, rendered, rfl⟩, .inl ⟨_, _, refused, rfl⟩⟩⟩⟩⟩

/-- The expansion of a pair. -/
def expandPair (setting : Setting) (store : EnvironmentStore) (pair : Pair) : Expansion Action :=
  expandRelease setting pair.environment pair.settings store pair.release

/-- When the environment files can be loaded, what is left of a pair is its fields. -/
theorem expandPair_eq_of_loads (loads : Loads setting store pair.release.environmentFiles) :
    let loaded := loadedStore setting store pair.release.environmentFiles
    let fields := resolveRelease setting (pair.context loaded) pair.settings pair.release
    expandPair setting store pair = { outcome := fields.1, store := loaded, log := fields.2 } := by
  intro loaded fields
  have accepted : (loadFiles setting pair.release.name store pair.release.environmentFiles).1 =
      .ok () := loadFiles_eq_ok.mpr loads
  have final : (loadFiles setting pair.release.name store pair.release.environmentFiles).2 =
      loaded := loadFiles_store loads
  simp only [expandPair, expandRelease]
  cases files : loadFiles setting pair.release.name store pair.release.environmentFiles with
  | mk outcome after =>
      rw [files] at accepted final
      obtain rfl : outcome = .ok () := accepted
      obtain rfl : after = loaded := final
      rfl

theorem expandPair_of_loads (loads : Loads setting store pair.release.environmentFiles) :
    (expandPair setting store pair).outcome =
        (resolveRelease setting
          (pair.context (loadedStore setting store pair.release.environmentFiles))
          pair.settings pair.release).1 ∧
      (expandPair setting store pair).store =
        loadedStore setting store pair.release.environmentFiles := by
  rw [expandPair_eq_of_loads loads]
  exact ⟨rfl, rfl⟩

theorem expandPair_of_loadFault {cause : Dotenv.FileError}
    (fault : LoadFault setting store pair.release.environmentFiles cause) :
    (expandPair setting store pair).outcome = .error (.environmentFile pair.release.name cause) := by
  have refused : (loadFiles setting pair.release.name store pair.release.environmentFiles).1 =
      .error (.environmentFile pair.release.name cause) :=
    loadFiles_eq_error.mpr ⟨cause, fault, rfl⟩
  simp only [expandPair, expandRelease]
  cases files : loadFiles setting pair.release.name store pair.release.environmentFiles with
  | mk outcome after =>
      rw [files] at refused
      obtain rfl : outcome = _ := refused
      rfl

/-- Either all files can be loaded or one of them is the first that cannot. -/
theorem loads_or_loadFault (setting : Setting) (store : EnvironmentStore) (files : List String) :
    Loads setting store files ∨ ∃ cause, LoadFault setting store files cause := by
  cases outcome : (loadFiles setting "" store files).1 with
  | ok _ => exact .inl (loadFiles_eq_ok.mp outcome)
  | error e =>
      obtain ⟨cause, fault, _⟩ := loadFiles_eq_error.mp outcome
      exact .inr ⟨cause, fault⟩

theorem not_loads_of_loadFault {files : List String} {cause : Dotenv.FileError}
    (fault : LoadFault setting store files cause) : ¬ Loads setting store files := by
  obtain ⟨before, file, after, split, _, refused⟩ := fault
  intro loads
  obtain ⟨added, loaded⟩ := loads before file after split
  rw [refused] at loaded
  cases loaded

theorem expandPair_eq_ok :
    (expandPair setting store pair).outcome = .ok action ↔ Treats setting store pair action := by
  rcases loads_or_loadFault setting store pair.release.environmentFiles with loads | ⟨cause, fault⟩
  · rw [(expandPair_of_loads loads).1, resolveRelease_eq_ok]
    exact ⟨fun resolves => ⟨loads, resolves⟩, fun treats => treats.resolves⟩
  · rw [expandPair_of_loadFault fault]
    constructor
    · intro impossible
      cases impossible
    · intro treats
      exact absurd treats.loads (not_loads_of_loadFault fault)

theorem Treats.unique {other : Action} (first : Treats setting store pair action)
    (second : Treats setting store pair other) : action = other := by
  have same := expandPair_eq_ok.mpr first
  rw [expandPair_eq_ok.mpr second] at same
  exact (Except.ok.inj same).symm

theorem expandPair_eq_error :
    (expandPair setting store pair).outcome = .error e ↔ Fails setting store pair e := by
  rcases loads_or_loadFault setting store pair.release.environmentFiles with loads | ⟨cause, fault⟩
  · rw [(expandPair_of_loads loads).1, resolveRelease_eq_error]
    constructor
    · exact fun fields => .field loads fields
    · intro fails
      cases fails with
      | environmentFile fault => exact absurd loads (not_loads_of_loadFault fault)
      | field _ fields => exact fields
  · rw [expandPair_of_loadFault fault]
    constructor
    · intro same
      exact Except.error.inj same ▸ .environmentFile fault
    · intro fails
      cases fails with
      | environmentFile other =>
          rw [← expandPair_of_loadFault other, expandPair_of_loadFault fault]
      | field loads _ => exact absurd loads (not_loads_of_loadFault fault)

/-! ## All pairs -/

@[simp] theorem storeBefore_zero : storeBefore setting store pairs 0 = store := rfl

@[simp] theorem storeBefore_cons_succ (i : Nat) :
    storeBefore setting store (pair :: pairs) (i + 1) =
      storeBefore setting (loadedStore setting store pair.release.environmentFiles) pairs i := by
  simp only [storeBefore, List.take_succ_cons, List.flatMap_cons, loadedStore_append]

theorem expandPairs_cons :
    expandPairs setting store (pair :: pairs) =
      match (expandPair setting store pair).outcome with
      | .error e =>
        ⟨.error e, (expandPair setting store pair).store, (expandPair setting store pair).log⟩
      | .ok action =>
        let others := expandPairs setting (expandPair setting store pair).store pairs
        ⟨(action :: ·) <$> others.outcome, others.store,
          (expandPair setting store pair).log ++ others.log⟩ :=
  (rfl)

/-- The actions are those of the pairs, each treated in the store that the pairs before it leave. -/
theorem expandPairs_eq_ok :
    (expandPairs setting store pairs).outcome = .ok actions ↔
      actions.length = pairs.length ∧ ∀ i (h : i < pairs.length) (h' : i < actions.length),
        Treats setting (storeBefore setting store pairs i) pairs[i] actions[i] := by
  induction pairs generalizing store actions with
  | nil => simp [expandPairs, eq_comm]
  | cons pair rest ih =>
      rw [expandPairs_cons]
      cases first : (expandPair setting store pair).outcome with
      | error e =>
          constructor
          · intro impossible
            cases impossible
          · rintro ⟨length, treats⟩
            have treat := treats 0 (by simp) (by simp [length])
            rw [storeBefore_zero, List.getElem_cons_zero, ← expandPair_eq_ok, first] at treat
            cases treat
      | ok action =>
          have treat := expandPair_eq_ok.mp first
          rw [(expandPair_of_loads treat.loads).2]
          simp only [map_eq_ok, ih]
          constructor
          · rintro ⟨others, ⟨length, treats⟩, rfl⟩
            refine ⟨by simp [length], ?_⟩
            intro i h h'
            cases i with
            | zero => exact treat
            | succ i =>
                simpa using treats i (by simpa using h) (by simpa using h')
          · rintro ⟨length, treats⟩
            cases actions with
            | nil => simp at length
            | cons found others =>
                have same : action = found := by
                  have treat' := expandPair_eq_ok.mpr (treats 0 (by simp) (by simp))
                  rw [storeBefore_zero, List.getElem_cons_zero, first] at treat'
                  exact Except.ok.inj treat'
                refine ⟨others, ⟨by simpa using length, ?_⟩, by rw [same]⟩
                intro i h h'
                have next := treats (i + 1) (by simpa using h) (by simpa using h')
                rw [storeBefore_cons_succ] at next
                exact next

/-- The error is that of the first pair that fails. -/
theorem expandPairs_eq_error :
    (expandPairs setting store pairs).outcome = .error e ↔
      ∃ i, ∃ h : i < pairs.length,
        (∀ j (hj : j < i), ∃ action,
          Treats setting (storeBefore setting store pairs j) pairs[j] action) ∧
        Fails setting (storeBefore setting store pairs i) pairs[i] e := by
  induction pairs generalizing store with
  | nil => simp [expandPairs]
  | cons pair rest ih =>
      rw [expandPairs_cons]
      cases first : (expandPair setting store pair).outcome with
      | error e' =>
          constructor
          · intro same
            obtain rfl : e' = e := Except.error.inj same
            exact ⟨0, by simp, by simp, expandPair_eq_error.mp first⟩
          · rintro ⟨i, h, earlier, fails⟩
            cases i with
            | zero =>
                rw [storeBefore_zero, List.getElem_cons_zero, ← expandPair_eq_error, first] at fails
                obtain rfl : e' = e := Except.error.inj fails
                rfl
            | succ i =>
                obtain ⟨action, treat⟩ := earlier 0 (by simp)
                rw [storeBefore_zero, List.getElem_cons_zero, ← expandPair_eq_ok, first] at treat
                cases treat
      | ok action =>
          have treat := expandPair_eq_ok.mp first
          rw [(expandPair_of_loads treat.loads).2]
          simp only [map_eq_error, ih]
          constructor
          · rintro ⟨i, h, earlier, fails⟩
            refine ⟨i + 1, by simpa using h, ?_, by simpa using fails⟩
            intro j hj
            cases j with
            | zero => exact ⟨action, treat⟩
            | succ j => simpa using earlier j (by omega)
          · rintro ⟨i, h, earlier, fails⟩
            cases i with
            | zero =>
                rw [storeBefore_zero, List.getElem_cons_zero, ← expandPair_eq_error, first] at fails
                cases fails
            | succ i =>
                refine ⟨i, by simpa using h, ?_, by simpa using fails⟩
                intro j hj
                simpa using earlier (j + 1) (by omega)

/-- A successful expansion leaves the store in which all environment files are loaded. -/
theorem expandPairs_store (accepted : (expandPairs setting store pairs).outcome = .ok actions) :
    (expandPairs setting store pairs).store =
      storeBefore setting store pairs pairs.length := by
  induction pairs generalizing store actions with
  | nil => rfl
  | cons pair rest ih =>
      rw [expandPairs_cons] at accepted ⊢
      cases first : (expandPair setting store pair).outcome with
      | error e =>
          rw [first] at accepted
          cases accepted
      | ok action =>
          rw [first] at accepted
          obtain ⟨others, later, _⟩ := map_eq_ok.mp accepted
          have treat := expandPair_eq_ok.mp first
          rw [(expandPair_of_loads treat.loads).2] at later ⊢
          rw [List.length_cons, storeBefore_cons_succ]
          exact ih later

/-- An expansion has exactly one of two outcomes. It succeeds with one action for each pair of the
matrix, in order, and leaves the store in which the environment files of all pairs are loaded; or it
ends with the error of the first pair that fails. Every pair is treated in the store that holds the
files of the pairs before it. -/
theorem outcome_expand (setting : Setting) (environments : OrderedMap ConnectionOverride)
    (releases : List Release) (store : EnvironmentStore) :
    let pairs := matrix environments releases
    let result := expand setting environments releases store
    (∀ actions, result.outcome = .ok actions ↔
      actions.length = pairs.length ∧ ∀ i (h : i < pairs.length) (h' : i < actions.length),
        Treats setting (storeBefore setting store pairs i) pairs[i] actions[i]) ∧
    (∀ e, result.outcome = .error e ↔
      ∃ i, ∃ h : i < pairs.length,
        (∀ j (hj : j < i), ∃ action,
          Treats setting (storeBefore setting store pairs j) pairs[j] action) ∧
        Fails setting (storeBefore setting store pairs i) pairs[i] e) ∧
    (∀ actions, result.outcome = .ok actions →
      result.store = storeBefore setting store pairs pairs.length) := by
  intro pairs result
  have loops : result = expandPairs setting store pairs :=
    expand_eq_expandPairs environments releases store
  rw [loops]
  exact ⟨fun _ => expandPairs_eq_ok, fun _ => expandPairs_eq_error, fun _ => expandPairs_store⟩

end Packfile.Expansion
