import Packfile.Proofs.Executor.Processes
import Packfile.Proofs.Text

/-!
# The binary that is checked and the binary that is started

The binary of the pack tool is looked up twice: once when the tool is set up, and again by every
call. The first look-up starts from the current directory and heeds the `PATH` of the host. The
second one starts from the directory of the call, and a release has no `PATH`. Both lead to the same
file if the path that was found starts at the root. A relative path is followed from wherever the
call is made, and a bare name, which is found only through an empty part of the `PATH` or without
one, is looked for in the standard directories.
-/

namespace Packfile

namespace Path

variable {base relative path : String}

theorem isAbsolute_iff : isAbsolute path = true ↔ ∃ rest, path.toList = '/' :: rest := by
  simp [isAbsolute, List.head?_eq_some_iff]

theorem isAbsolute_join (absolute : isAbsolute base = true) :
    isAbsolute (join base relative) = true := by
  obtain ⟨rest, start⟩ := isAbsolute_iff.mp absolute
  unfold join
  split
  · assumption
  · split <;> simp [isAbsolute_iff, start]

/-- What is joined without a slash is joined to nothing. -/
theorem join_of_slash_not_mem (bare : '/' ∉ (join base relative).toList) :
    join base relative = relative := by
  cases absolute : isAbsolute relative with
  | true => exact join_absolute absolute
  | false =>
      simp only [join, absolute] at bare ⊢
      cases last : base.toList.getLast? with
      | none =>
          have empty : base = "" := String.toList_eq_nil_iff.mp (List.getLast?_eq_none_iff.mp last)
          simp [empty]
      | some c =>
          -- A last character is a slash, or one is put after it.
          by_cases slash : c = '/'
          · have member := List.mem_of_getLast? last
            simp [last, slash ▸ member, slash] at bare
          · simp [last, slash] at bare

/-- Only a slash makes a second component. -/
theorem slash_mem_of_componentCount (several : 1 < componentCount path) : '/' ∈ path.toList := by
  by_contra bare
  rw [componentCount, Text.splitFields, Text.fields_of_not_mem bare] at several
  split at several <;> simp at several

end Path

namespace FileSystem

variable {fs : FileSystem} {path : String} {location : Location} {content : ByteArray}

/-- A path leads to a file, with this content, that somebody may execute. -/
structure HasProgram (fs : FileSystem) (path : String) (location : Location)
    (content : ByteArray) : Prop where
  located : fs.locate path = .ok location
  executable : ∃ mode, fs.entry? location = some (.file content mode) ∧
    (Entry.file content mode).isExecutable = true

theorem isExecutable_iff :
    fs.isExecutable path = true ↔ ∃ location content, fs.HasProgram path location content := by
  constructor
  · intro executable
    unfold isExecutable at executable
    split at executable
    · next entry found =>
        obtain ⟨location, located, here⟩ := bind_eq_ok.mp found
        cases entry with
        | directory => cases executable
        | file content mode =>
            refine ⟨location, content, located, mode, ?_, executable⟩
            split at here <;> simp_all
    · cases executable
  · rintro ⟨location, content, located, mode, found, executable⟩
    simp [isExecutable, find, located, found, bind, Except.bind, executable]

theorem HasProgram.ne_empty (leads : fs.HasProgram path location content) : path ≠ "" := by
  rintro rfl
  cases leads.located

/-- Where a path starts at the root, the current directory has no part in it. -/
theorem locate_entered {current : Location}
    (fixed : Path.isAbsolute path = true ∨ current = fs.current) :
    locate { fs with current } path = fs.locate path := by
  rcases fixed with absolute | rfl
  · simp only [locate, absolute, if_true]
    rfl
  · rfl

end FileSystem

namespace Host

variable {host : Host} {request : SpawnRequest} {fs there : FileSystem} {path name : String}
variable {environment : ProcessEnvironment} {location program : Location} {content : ByteArray}
variable {directories : List String} {denied : Bool}

/-! ## Looking a program up -/

/-- A file has the format of a program. -/
def HasFormat (content : ByteArray) : Prop :=
  executableMagic.isPrefixOf content.toList = true

instance : DecidablePred HasFormat :=
  fun _ => inferInstanceAs (Decidable (_ = true))

/-- A file that may be executed is started if it has the format of a program. -/
theorem executableAt_of_hasProgram (leads : fs.HasProgram path location content) :
    executableAt fs path =
      if HasFormat content then .ok location else .error .notExecutableFormat := by
  obtain ⟨located, mode, found, executable⟩ := leads
  simp [executableAt, HasFormat, FileSystem.find, located, found, executable, bind, Except.bind]

theorem executableAt_eq_ok (leads : fs.HasProgram path location content) :
    executableAt fs path = .ok program ↔ program = location ∧ HasFormat content := by
  rw [executableAt_of_hasProgram leads]
  by_cases format : HasFormat content
  · simp [format, eq_comm]
  · simp [format]

theorem isExecutable_of_executableAt (found : executableAt fs path = .ok location) :
    fs.isExecutable path = true := by
  obtain ⟨_, _, ahead⟩ := bind_eq_ok.mp found
  obtain ⟨entry, here, started⟩ := bind_eq_ok.mp ahead
  cases entry with
  | directory => cases started
  | file content mode =>
      cases executable : (Entry.file content mode).isExecutable with
      | true => simp [FileSystem.isExecutable, here, executable]
      | false => simp [executable] at started

/-- The current directory decides where a path leads, and nothing else. -/
theorem executableAt_of_locate_eq {current : Location}
    (same : FileSystem.locate { fs with current } path = fs.locate path) :
    executableAt { fs with current } path = executableAt fs path := by
  simp only [executableAt, FileSystem.find, same]
  rfl

/-- From another directory a file is started if the path leads to it from there as well. -/
theorem executableAt_entered (leads : fs.HasProgram path location content) (current : Location) :
    executableAt { fs with current } path = .ok location ↔
      FileSystem.locate { fs with current } path = .ok location ∧ HasFormat content := by
  constructor
  · intro found
    obtain ⟨location', content', leads'⟩ :=
      FileSystem.isExecutable_iff.mp (isExecutable_of_executableAt found)
    obtain ⟨rfl, format⟩ := (executableAt_eq_ok leads').mp found
    obtain ⟨_, here, _⟩ := leads.executable
    obtain ⟨_, here', _⟩ := leads'.executable
    cases here.symm.trans here'
    exact ⟨leads'.located, format⟩
  · rintro ⟨located, format⟩
    exact (executableAt_eq_ok ⟨located, leads.executable⟩).mpr ⟨rfl, format⟩

theorem findProgram_of_slash_mem (slash : '/' ∈ name.toList) :
    findProgram fs environment name = executableAt fs name := by
  simp [findProgram, slash]

/-- The directories that a process with this environment is looked for in. -/
def directoriesOf (environment : ProcessEnvironment) : List String :=
  match ProcessEnvironment.get? environment "PATH" with
  | some path => path.searchPath
  | none => standardDirectories

theorem directoriesOf_of_none (none : ProcessEnvironment.get? environment "PATH" = none) :
    directoriesOf environment = standardDirectories := by
  rw [directoriesOf, none]

theorem findProgram_of_slash_not_mem (bare : '/' ∉ name.toList) (named : name ≠ "") :
    findProgram fs environment name = search fs name false (directoriesOf environment) := by
  have looked : ¬ (name.toList.contains '/' || name = "") = true := by simp [bare, named]
  rw [findProgram, if_neg looked]
  rfl

/-- A search depends on nothing but the files that it comes to. -/
theorem search_congr
    (same : ∀ directory ∈ directories,
      executableAt there (Path.join directory name) = executableAt fs (Path.join directory name)) :
    search there name denied directories = search fs name denied directories := by
  induction directories generalizing denied with
  | nil => rfl
  | cons directory rest ih =>
      obtain ⟨first, later⟩ := List.forall_mem_cons.mp same
      rw [search, search, first]
      split <;> first | rfl | exact ih later

/-- The files that a bare name may stand for, in the order in which they are tried. -/
def candidates (directories : List String) (name : String) : List String :=
  directories.map fun directory => Path.join directory name

/-- A file that a search passes over. -/
def PassedOver (fs : FileSystem) (path : String) : Prop :=
  executableAt fs path = .error .permissionDenied ∨ executableAt fs path = .error .notFound ∨
    executableAt fs path = .error .notADirectory

/-- A search ends at the first file that may be executed, if it passes over all before it. -/
theorem search_eq_ok :
    search fs name denied directories = .ok program ↔
      ∃ path, (candidates directories name).find? fs.isExecutable = some path ∧
        executableAt fs path = .ok program ∧
        ∀ passed ∈ (candidates directories name).takeWhile fun path => !fs.isExecutable path,
          PassedOver fs passed := by
  induction directories generalizing denied with
  | nil => simp [search, candidates]
  | cons directory rest ih =>
      simp only [search, candidates, List.map_cons, List.find?_cons,
        List.takeWhile_cons] at ih ⊢
      cases executable : fs.isExecutable (Path.join directory name) with
      | true =>
          obtain ⟨location, content, leads⟩ := FileSystem.isExecutable_iff.mp executable
          have here := executableAt_of_hasProgram leads
          by_cases format : HasFormat content
          · simp [here, format]
          · simp [here, format]
      | false =>
          simp only [Bool.not_false, if_true, List.forall_mem_cons]
          split
          · next started => simp [isExecutable_of_executableAt started] at executable
          · next here => simpa [PassedOver, here] using ih
          · next here => simpa [PassedOver, here] using ih
          · next here => simpa [PassedOver, here] using ih
          · next here => simp_all [PassedOver]

/-- A bare name that is looked for without a `PATH` is not looked for anywhere near the current
directory. -/
theorem search_standardDirectories (current : Location) :
    search { fs with current } name denied standardDirectories =
      search fs name denied standardDirectories := by
  refine search_congr ?_
  intro directory standard
  have absolute : Path.isAbsolute directory = true := by
    revert directory
    decide
  exact executableAt_of_locate_eq
    (FileSystem.locate_entered (.inl (Path.isAbsolute_join absolute)))

theorem findProgram_of_no_path (bare : '/' ∉ name.toList) (named : name ≠ "")
    (none : ProcessEnvironment.get? environment "PATH" = none) (current : Location) :
    findProgram { fs with current } environment name =
      search fs name false standardDirectories := by
  rw [findProgram_of_slash_not_mem bare named, directoriesOf_of_none none,
    search_standardDirectories]

/-! ## Where a request starts -/

/-- A request starts in `there`: its directory can be entered, and no NUL keeps it from being
made. -/
structure StartsIn (host : Host) (request : SpawnRequest) (there : FileSystem) : Prop where
  entered : host.startingFrom request = .ok there
  clean : SpawnRequest.hasNul request = false

/-- The directory that a request starts in is all that it changes about the files. -/
theorem StartsIn.eq_entered (startsIn : host.StartsIn request there) :
    there = { host.fs with current := there.current } := by
  have entered := startsIn.entered
  unfold startingFrom at entered
  split at entered
  · obtain ⟨location, _, here⟩ := bind_eq_ok.mp entered
    split at here <;> cases here
    rfl
  · cases entered
    rfl

/-- A directory that exists can be entered. -/
theorem startsIn_of_directory {directory : String} (workDir : request.workDir = some directory)
    (located : host.fs.locate directory = .ok location)
    (found : host.fs.entry? location = some .directory)
    (clean : SpawnRequest.hasNul request = false) :
    host.StartsIn request { host.fs with current := location } where
  entered := by
    simp [startingFrom, workDir, FileSystem.enter, located, found, bind, Except.bind]
  clean := clean

theorem StartsIn.prepare_eq_ok (startsIn : host.StartsIn request there) :
    (∃ launch, host.prepare request = .ok launch ∧ launch.program = program) ↔
      findProgram there (request.environment.getD host.environment) request.program =
        .ok program := by
  rw [prepare_eq, startsIn.clean, startsIn.entered]
  cases looked : findProgram there (request.environment.getD host.environment) request.program with
  | error e => simp [bind, Except.bind, Except.map, looked]
  | ok found => simp [bind, Except.bind, Except.map, looked]

end Host

namespace NomadPack

variable {tool : NomadPack} {host : Host} {call : Call} {there : FileSystem}
variable {fs : FileSystem} {environment : ProcessEnvironment} {binary path : String}
variable {program : Location}

/-! ## The binary that is checked -/

/-- A binary is one of several components that leads to a file that may be executed, or the first
such file in the search directories. -/
theorem resolveBinary_eq_ok :
    resolveBinary fs environment binary = .ok path ↔
      (1 < Path.componentCount binary ∧ fs.isExecutable binary = true ∧ binary = path) ∨
      (¬ 1 < Path.componentCount binary ∧
        (Host.candidates (searchDirectories environment) binary).find? fs.isExecutable =
          some path) := by
  unfold resolveBinary
  by_cases several : 1 < Path.componentCount binary
  · simp only [several, if_true]
    cases fs.isExecutable binary <;> simp
  · simp only [several, Host.candidates]
    cases List.find? fs.isExecutable
      ((searchDirectories environment).map fun directory => Path.join directory binary) <;> simp

theorem new_eq_ok {log : List LogEntry} :
    new fs environment binary = .ok (tool, log) ↔
      ∃ path, resolveBinary fs environment binary = .ok path ∧ tool = { binary := path } ∧
        log = [.info ("Using nomad-pack binary: " ++ Text.quoted path)] := by
  unfold new
  rw [bind_eq_ok]
  simp [pure, Except.pure, eq_comm]

/-- With a `PATH`, the check and the start look in the same directories. -/
theorem directoriesOf_of_ne_none (searched : ProcessEnvironment.get? environment "PATH" ≠ none) :
    Host.directoriesOf environment = searchDirectories environment := by
  unfold Host.directoriesOf searchDirectories
  cases found : ProcessEnvironment.get? environment "PATH" with
  | none => exact absurd found searched
  | some path => rfl

/-- What is found may be executed. -/
theorem isExecutable_of_resolveBinary (found : resolveBinary fs environment binary = .ok path) :
    fs.isExecutable path = true := by
  rcases resolveBinary_eq_ok.mp found with ⟨-, executable, rfl⟩ | ⟨-, first⟩
  · exact executable
  · exact List.find?_some first

/-- A bare name is the first one that the search directories lead to. -/
theorem find?_of_slash_not_mem (found : resolveBinary fs environment binary = .ok path)
    (bare : '/' ∉ path.toList) :
    (Host.candidates (searchDirectories environment) path).find? fs.isExecutable =
      some path := by
  rcases resolveBinary_eq_ok.mp found with ⟨several, -, rfl⟩ | ⟨-, first⟩
  · exact absurd (Path.slash_mem_of_componentCount several) bare
  · obtain ⟨directory, -, joined⟩ := List.mem_map.mp (List.mem_of_find?_eq_some first)
    have same : path = binary := by
      rw [← joined] at bare ⊢
      exact Path.join_of_slash_not_mem bare
    rw [same] at first ⊢
    exact first

/-- With a `PATH`, a bare name that has been checked leads to the same file, unless the search ends
before it comes to it. -/
theorem findProgram_of_resolveBinary {location : Location} {content : ByteArray}
    (resolved : resolveBinary fs environment binary = .ok path) (bare : '/' ∉ path.toList)
    (leads : fs.HasProgram path location content)
    (searched : ProcessEnvironment.get? environment "PATH" ≠ none) :
    Host.findProgram fs environment path = .ok program ↔
      program = location ∧ Host.HasFormat content ∧
        ∀ passed ∈ (Host.candidates (searchDirectories environment) path).takeWhile
          fun path => !fs.isExecutable path, Host.PassedOver fs passed := by
  rw [Host.findProgram_of_slash_not_mem bare leads.ne_empty, directoriesOf_of_ne_none searched,
    Host.search_eq_ok, find?_of_slash_not_mem resolved bare]
  simp only [Option.some.injEq, exists_eq_left', Host.executableAt_eq_ok leads,
    and_assoc]

/-! ## The binary that is started -/

/-- A call starts the program at a location. -/
def Launches (tool : NomadPack) (host : Host) (call : Call) (program : Location) : Prop :=
  ∃ launch, launch.program = program ∧ (tool.step host call).state = host.starting [launch]

/-- The environment that a call gives to its process. -/
def environmentOf (environment : ProcessEnvironment) : Call → ProcessEnvironment
  | .addRegistry _ => environment
  | .release _ invocation => releaseEnvironment environment invocation.target

/-- What a call starts is what the name of the binary leads to from where the call is made. -/
theorem launches_iff (real : tool.dryRun = false)
    (startsIn : host.StartsIn (tool.request host.environment call) there) :
    tool.Launches host call program ↔
      Host.findProgram there (environmentOf host.environment call) tool.binary = .ok program := by
  have same : (tool.request host.environment call).program = tool.binary ∧
      (tool.request host.environment call).environment.getD host.environment =
        environmentOf host.environment call := by
    cases call <;> exact ⟨rfl, rfl⟩
  rw [← same.1, ← same.2, ← startsIn.prepare_eq_ok]
  constructor
  · rintro ⟨launch, leads, started⟩
    cases prepared : host.prepare (tool.request host.environment call) with
    | error e =>
        rw [(step_of_refused real prepared).2] at started
        cases Host.eq_of_starting_eq (Host.starting_nil.trans started)
    | ok launch' =>
        rw [(step_of_prepared real prepared).2] at started
        cases Host.eq_of_starting_eq started
        exact ⟨launch, rfl, leads⟩
  · rintro ⟨launch, prepared, leads⟩
    exact ⟨launch, leads, (step_of_prepared real prepared).2⟩

/-- A release has no `PATH`. -/
theorem releaseEnvironment_path (environment : ProcessEnvironment) (target : ClusterTarget) :
    ProcessEnvironment.get? (releaseEnvironment environment target) "PATH" = none := by
  have absent (value : RawValue) : ("PATH", value) ∉ releaseEnvironment environment target := by
    simp [mem_releaseEnvironment, forwardedVariables]
  simp only [ProcessEnvironment.get?, Option.map_eq_none_iff, List.find?_eq_none,
    decide_eq_true_eq]
  rintro ⟨_, value⟩ member rfl
  exact absent value member

/-- The file that is started by a call is the file that has been checked, if its path starts at the
root or the call is made from the current directory. A relative path leads to it from the directory
of the call or it is not started. A bare name is found by a registry call as it was when it was
checked, but a release looks only in the standard directories, and so does every call of a host
without a `PATH`. -/
theorem launches_of_new {log : List LogEntry}
    (accepted : new host.fs host.environment binary = .ok (tool, log)) :
    ∃ location content, host.fs.HasProgram tool.binary location content ∧
      ∀ earlier call there, host.StartsIn (tool.request host.environment call) there →
        let now := Executor.stateAfter tool.step host earlier
        let candidates := Host.candidates (searchDirectories host.environment) tool.binary
        ('/' ∈ tool.binary.toList →
          (tool.Launches now call location ↔
            there.locate tool.binary = .ok location ∧ Host.HasFormat content) ∧
          (Path.isAbsolute tool.binary = true ∨ there.current = host.fs.current →
            ∀ program, tool.Launches now call program ↔
              program = location ∧ Host.HasFormat content)) ∧
        ('/' ∉ tool.binary.toList →
          ((∃ registry, call = .addRegistry registry) →
            ProcessEnvironment.get? host.environment "PATH" ≠ none →
            ∀ program, tool.Launches now call program ↔
              program = location ∧ Host.HasFormat content ∧
              ∀ passed ∈ candidates.takeWhile fun path => !host.fs.isExecutable path,
                Host.PassedOver host.fs passed) ∧
          ((∃ command invocation, call = .release command invocation) ∨
              ProcessEnvironment.get? host.environment "PATH" = none →
            ∀ program, tool.Launches now call program ↔
              Host.search host.fs tool.binary false Host.standardDirectories = .ok program)) := by
  obtain ⟨path, resolved, rfl, -⟩ := new_eq_ok.mp accepted
  obtain ⟨location, content, leads⟩ :=
    FileSystem.isExecutable_iff.mp (isExecutable_of_resolveBinary resolved)
  refine ⟨location, content, leads, ?_⟩
  intro earlier call there startsIn now candidates
  obtain ⟨launches, made⟩ := stateAfter_eq_starting { binary := path } host earlier
  have launched (program : Location) : ({ binary := path } : NomadPack).Launches now call program ↔
      Host.findProgram there (environmentOf host.environment call) path = .ok program := by
    rw [show now = host.starting launches from made]
    exact launches_iff rfl ⟨startsIn.entered, startsIn.clean⟩
  have entered := startsIn.eq_entered
  simp only [launched]
  constructor
  · intro slash
    simp only [Host.findProgram_of_slash_mem slash]
    rw [entered]
    refine ⟨Host.executableAt_entered leads _, ?_⟩
    intro fixed program
    rw [Host.executableAt_of_locate_eq (FileSystem.locate_entered fixed),
      Host.executableAt_eq_ok leads]
  · intro bare
    constructor
    · rintro ⟨registry, rfl⟩ searched program
      cases startsIn.entered
      exact findProgram_of_resolveBinary resolved bare leads searched
    · intro standard program
      have none : ProcessEnvironment.get? (environmentOf host.environment call) "PATH" = none := by
        cases call with
        | addRegistry registry => simpa [environmentOf] using standard
        | release command invocation => exact releaseEnvironment_path _ _
      rw [entered, Host.findProgram_of_no_path bare leads.ne_empty none]

/-- A file that can be started. -/
def programFile : Entry := .file ⟨Host.executableMagic.toArray⟩ 0o755

/-- A host on which the tool is installed, and has also been put into a checkout and into one of the
two projects in it. -/
def workshop : Host where
  fs := {
    entries := [
      (["opt"], .directory), (["opt", "nomad-pack"], programFile),
      (["w"], .directory), (["w", "bin"], .directory), (["w", "bin", "nomad-pack"], programFile),
      (["w", "plain"], .directory),
      (["w", "own"], .directory), (["w", "own", "bin"], .directory),
      (["w", "own", "bin", "nomad-pack"], programFile)]
    current := ["w"] }
  environment := [("PATH", .text "/opt")]
  behaviour := { ending := fun _ _ => { status := .exited 0 } }

/-- A plan of a release in a project. -/
def planIn (project : String) : Call :=
  .release .plan { workDir := project, packArgs := ["web"] }

/-- The installed tool is started for both projects, as it was found. -/
theorem launches_of_new_installed :
    let tool : NomadPack := { binary := "/opt/nomad-pack" }
    (∃ log, new workshop.fs workshop.environment "nomad-pack" = .ok (tool, log)) ∧
      ∀ project ∈ ["plain", "own"], ∀ earlier,
        tool.Launches (Executor.stateAfter tool.step workshop earlier) (planIn project)
          ["opt", "nomad-pack"] := by
  intro tool
  have accepted := new_eq_ok.mpr
    ⟨"/opt/nomad-pack", (by decide +kernel :
      resolveBinary workshop.fs workshop.environment "nomad-pack" = .ok "/opt/nomad-pack"),
      rfl, rfl⟩
  refine ⟨⟨_, accepted⟩, ?_⟩
  obtain ⟨location, content, leads, every⟩ := launches_of_new accepted
  have located : workshop.fs.locate tool.binary = .ok ["opt", "nomad-pack"] := by decide +kernel
  cases located.symm.trans leads.located
  have format : Host.HasFormat content := by
    obtain ⟨mode, found, -⟩ := leads.executable
    have entry : workshop.fs.entry? ["opt", "nomad-pack"] = some programFile := by decide +kernel
    cases entry.symm.trans found
    decide +kernel
  intro project listed earlier
  have startsIn : workshop.StartsIn (tool.request workshop.environment (planIn project))
      { workshop.fs with current := ["w", project] } := by
    refine Host.startsIn_of_directory rfl ?_ ?_ ?_ <;> revert project <;> decide +kernel
  obtain ⟨path, -⟩ := every earlier (planIn project) _ startsIn
  exact ((path (by decide)).2 (.inl (by decide)) _).mpr ⟨rfl, format⟩

/-- From a project, a relative binary is another file or none at all, although a registry call from
the checkout starts the one that has been checked. -/
theorem launches_elsewhere :
    let tool : NomadPack := { binary := "bin/nomad-pack" }
    let checked : Location := ["w", "bin", "nomad-pack"]
    let registry : Registry := { name := "r", url := "u" }
    (∃ log, new workshop.fs workshop.environment "bin/nomad-pack" = .ok (tool, log)) ∧
    workshop.fs.locate tool.binary = .ok checked ∧
    tool.Launches workshop (.addRegistry registry) checked ∧
    (workshop.fs.find "plain" = .ok .directory ∧
      ¬ tool.Launches workshop (planIn "plain") checked ∧
      (tool.step workshop (planIn "plain")).outcome =
        .error (.spawn "bin/nomad-pack plan --diff '--exit-code-makes-changes=0' web" .notFound)) ∧
    workshop.fs.find "own" = .ok .directory ∧
      ¬ tool.Launches workshop (planIn "own") checked ∧
      tool.Launches workshop (planIn "own") ["w", "own", "bin", "nomad-pack"] := by
  intro tool checked registry
  have accepted := new_eq_ok.mpr
    ⟨"bin/nomad-pack", (by decide +kernel :
      resolveBinary workshop.fs workshop.environment "bin/nomad-pack" = .ok "bin/nomad-pack"),
      rfl, rfl⟩
  have here : workshop.StartsIn (tool.request workshop.environment (.addRegistry registry))
      workshop.fs := ⟨rfl, by decide +kernel⟩
  have inPlain : workshop.StartsIn (tool.request workshop.environment (planIn "plain"))
      { workshop.fs with current := ["w", "plain"] } :=
    Host.startsIn_of_directory rfl (by decide +kernel) (by decide +kernel) (by decide +kernel)
  have inOwn : workshop.StartsIn (tool.request workshop.environment (planIn "own"))
      { workshop.fs with current := ["w", "own"] } :=
    Host.startsIn_of_directory rfl (by decide +kernel) (by decide +kernel) (by decide +kernel)
  rw [launches_iff rfl here, launches_iff rfl inPlain, launches_iff rfl inOwn,
    launches_iff rfl inOwn]
  exact ⟨⟨_, accepted⟩, by decide +kernel⟩

end NomadPack

end Packfile
