import Packfile.Proofs.Compiler.Arguments
import Packfile.Proofs.Compiler.Selection
import Packfile.Proofs.FileSystem

/-!
# Which var files are passed on

The var files of a release are templates. What one of them renders to is seen from the working
directory and passed on if it leads to something there; otherwise it is reported and left out. No
file gets lost this way, but not all that is passed on is a file: directories are passed on as well.
One of them is easily named by accident. A template whose variable is not set renders to the empty
name, and seen from the working directory this leads to the directory itself.
-/

namespace Packfile

namespace Expansion

variable {setting : Setting} {store : EnvironmentStore} {context : Template.Context}
variable {pair : Pair} {pairs : List Pair} {action : Action} {actions : List Action}
variable {rendered : List String} {file : String}

/-- The path of a var file. -/
def Setting.pathOf (setting : Setting) (file : String) : String :=
  Path.join setting.workDir file

/-- The var files that lead to something. -/
def existing (setting : Setting) (rendered : List String) : List String :=
  rendered.filter fun file => setting.fs.pathExists (setting.pathOf file)

/-- The var files that lead to a file. -/
def properFiles (setting : Setting) (rendered : List String) : List String :=
  rendered.filter fun file => setting.fs.hasFile (setting.pathOf file)

/-- The var files that lead nowhere. -/
def missing (setting : Setting) (rendered : List String) : List String :=
  rendered.filter fun file => !setting.fs.pathExists (setting.pathOf file)

/-- What is reported about var files. -/
def warnings (setting : Setting) (rendered : List String) : List LogEntry :=
  (missing setting rendered).map fun file => missingWarning (setting.pathOf file)

/-- What the var files of a pair render to once its environment files are loaded. -/
def Renders (setting : Setting) (store : EnvironmentStore) (pair : Pair)
    (rendered : List String) : Prop :=
  let loaded := loadedStore setting store pair.release.environmentFiles
  Accepts (Template.resolve (pair.context loaded)) pair.release.varFiles rendered

/-! ## Files, directories and the empty name -/

theorem mem_existing :
    file ∈ existing setting rendered ↔ file ∈ rendered ∧
      (setting.fs.hasFile (setting.pathOf file) = true ∨
        setting.fs.hasDirectory (setting.pathOf file) = true) := by
  rw [existing, List.mem_filter, FileSystem.pathExists_eq, Bool.or_eq_true]

theorem mem_properFiles :
    file ∈ properFiles setting rendered ↔
      file ∈ rendered ∧ setting.fs.hasFile (setting.pathOf file) = true :=
  List.mem_filter

/-- No file is left out. -/
theorem properFiles_sublist_existing (setting : Setting) (rendered : List String) :
    (properFiles setting rendered).Sublist (existing setting rendered) := by
  refine List.monotone_filter_right rendered fun file isFile => ?_
  rw [FileSystem.pathExists_eq, isFile]
  rfl

/-- What is passed on are the files if no directory is named. -/
theorem existing_eq_properFiles_iff :
    existing setting rendered = properFiles setting rendered ↔
      ∀ file ∈ rendered, setting.fs.hasDirectory (setting.pathOf file) = false := by
  constructor
  · intro same file member
    by_contra directory
    rw [Bool.not_eq_false] at directory
    have passed : file ∈ existing setting rendered := mem_existing.mpr ⟨member, .inr directory⟩
    rw [same, mem_properFiles, FileSystem.not_hasFile_of_hasDirectory directory] at passed
    cases passed.2
  · intro none
    refine List.filter_congr fun file member => ?_
    rw [FileSystem.pathExists_eq, none file member, Bool.or_false]

theorem empty_not_mem_properFiles (setting : Setting) (rendered : List String) :
    "" ∉ properFiles setting rendered := by
  rw [mem_properFiles, Setting.pathOf, FileSystem.hasFile_join_empty]
  exact fun member => Bool.false_ne_true member.2

/-- An empty name is passed on wherever there is a working directory. -/
theorem empty_mem_existing_iff (directory : setting.fs.hasDirectory setting.workDir = true)
    (short : setting.workDir.utf8ByteSize < FileSystem.maxPathBytes) :
    "" ∈ existing setting rendered ↔ "" ∈ rendered := by
  rw [mem_existing, Setting.pathOf, FileSystem.hasDirectory_join_empty directory short]
  exact and_iff_left (.inr rfl)

/-! ## One pair -/

theorem existingVarFiles_of_accepts {name : String} {templates : List String}
    (accepts : Accepts (Template.resolve context) templates rendered) :
    existingVarFiles setting context name templates =
      (.ok (existing setting rendered), warnings setting rendered) := by
  induction accepts with
  | nil => rfl
  | @cons template file rest others first _ ih =>
      have text : renderField context name "var-files" template = .ok file :=
        renderField_eq_ok.mpr first
      simp only [existingVarFiles, text, ih]
      cases exist : setting.fs.pathExists (Path.join setting.workDir file) with
      | true => simp [existing, warnings, missing, Setting.pathOf, exist, Functor.map, Except.map]
      | false => simp [existing, warnings, missing, Setting.pathOf, exist]

/-- A release reports what is reported about its var files. -/
theorem resolveRelease_log {settings : ConnectionOverride} {release : Release}
    (accepted : (resolveRelease setting context settings release).1 = .ok action) :
    (resolveRelease setting context settings release).2 =
      (existingVarFiles setting context release.name release.varFiles).2 := by
  simp only [resolveRelease] at accepted ⊢
  split at accepted
  · cases accepted
  · rfl

/-- The var files of an action, and what is reported about the others. -/
theorem Treats.varFiles (treats : Treats setting store pair action) :
    ∃ rendered, Renders setting store pair rendered ∧
      action.varFiles = existing setting rendered ∧
      (expandPair setting store pair).log = warnings setting rendered := by
  obtain ⟨rendered, accepts, kept⟩ := treats.resolves.varFiles
  refine ⟨rendered, accepts, kept, ?_⟩
  rw [expandPair_eq_of_loads treats.loads]
  dsimp only
  rw [resolveRelease_log (resolveRelease_eq_ok.mpr treats.resolves),
    existingVarFiles_of_accepts accepts]

/-! ## All pairs -/

/-- What the var files of pairs render to when one pair is treated after the other. -/
def RendersAll (setting : Setting) (store : EnvironmentStore) (pairs : List Pair)
    (rendered : List (List String)) : Prop :=
  rendered.length = pairs.length ∧ ∀ i (h : i < pairs.length) (h' : i < rendered.length),
    Renders setting (storeBefore setting store pairs i) pairs[i] rendered[i]

theorem RendersAll.cons {others : List (List String)} (first : Renders setting store pair rendered)
    (later : RendersAll setting (loadedStore setting store pair.release.environmentFiles) pairs
      others) :
    RendersAll setting store (pair :: pairs) (rendered :: others) := by
  refine ⟨by simp [later.1], ?_⟩
  intro i h h'
  cases i with
  | zero => exact first
  | succ i =>
      rw [storeBefore_cons_succ]
      exact later.2 i (by simpa using h) (by simpa using h')

theorem expandPairs_varFiles
    (accepted : (expandPairs setting store pairs).outcome = .ok actions) :
    ∃ rendered, RendersAll setting store pairs rendered ∧
      actions.map Action.varFiles = rendered.map (existing setting) ∧
      (expandPairs setting store pairs).log = rendered.flatMap (warnings setting) := by
  induction pairs generalizing store actions with
  | nil =>
      obtain rfl : [] = actions := Except.ok.inj accepted
      exact ⟨[], ⟨rfl, by simp⟩, rfl, rfl⟩
  | cons pair rest ih =>
      obtain ⟨action, others, treats, later, rfl⟩ := expandPairs_cons_eq_ok accepted
      obtain ⟨first, renders, passed, log⟩ := treats.varFiles
      obtain ⟨rendered, rendersAll, passed', log'⟩ := ih later
      refine ⟨first :: rendered, .cons renders rendersAll, ?_, ?_⟩
      · rw [List.map_cons, List.map_cons, passed, passed']
      · rw [expandPairs_cons, expandPair_eq_ok.mpr treats]
        dsimp only
        rw [(expandPair_of_loads treats.loads).2, log, log', List.flatMap_cons]

end Expansion

namespace Compiler

open Expansion (RendersAll existing properFiles warnings)

theorem compileIn_log (world : World) (compiler : Compiler) :
    (compiler.compileIn world).log = (Catalog.build compiler.manifest.registries).2 ++
      (expansion compiler.manifest world compiler.store).log := by
  rw [compileIn_eq_settle]
  simp only [settle]
  split <;> rfl

/-- When a manifest compiles, the var files of each action are those of the rendered templates, in
order, that lead to something, and there is one warning for each of the others. Every command is
given these var files. They are the files among the rendered templates exactly if none leads to a
directory. The empty name, which is the name of no file, is always passed on when a template renders
to it, if the working directory exists and its path leaves room for a slash. -/
theorem compile_varFiles (compiler : Compiler) (world : World)
    (accepted : (compiler.compileIn world).outcome = .ok ()) :
    let setting := setting world.fs world.process compiler.manifest
    let compilation := compiler.compileIn world
    let actions := compilation.compiler.actions
    ∃ rendered, RendersAll setting compiler.store (pairs compiler.manifest) rendered ∧
      actions.map Action.varFiles = rendered.map (existing setting) ∧
      compilation.log = (Catalog.build compiler.manifest.registries).2 ++
        rendered.flatMap (warnings setting) ∧
      (∀ command, ∀ action ∈ actions,
        (NomadPack.read? (NomadPack.releaseArgs command action.invocation)).map
          NomadPack.Reading.varFiles = some action.varFiles) ∧
      ∀ files ∈ rendered,
        (properFiles setting files).Sublist (existing setting files) ∧
        (existing setting files = properFiles setting files ↔
          ∀ file ∈ files, world.fs.hasDirectory (setting.pathOf file) = false) ∧
        "" ∉ properFiles setting files ∧
        (world.fs.hasDirectory setting.workDir = true →
          setting.workDir.utf8ByteSize < FileSystem.maxPathBytes →
            ("" ∈ existing setting files ↔ "" ∈ files)) := by
  intro setting compilation actions
  obtain ⟨compiled, expanded⟩ := expansion_of_compileIn_ok accepted
  obtain ⟨rendered, rendersAll, passed, log⟩ := Expansion.expandPairs_varFiles expanded
  have final : actions = compiled :=
    congrArg Compiler.actions (compileIn_of_ok expanded).2
  refine ⟨rendered, rendersAll, ?_, ?_, ?_, ?_⟩
  · rw [final]
    exact passed
  · exact (compileIn_log world compiler).trans (congrArg _ log)
  · intro command action _
    rw [NomadPack.read?_releaseArgs]
    rfl
  · intro files _
    exact ⟨Expansion.properFiles_sublist_existing setting files,
      Expansion.existing_eq_properFiles_iff, Expansion.empty_not_mem_properFiles setting files,
      Expansion.empty_mem_existing_iff⟩

/-- A release whose var files are a file, a variable that is not set, a directory and nothing. -/
def unsetExtra : Manifest where
  environments := .singleton "dev" {}
  releases := [{
    name := "web"
    pack := "web"
    varFiles := ["a.hcl", "\x7b\x7b .Env.EXTRA \x7d\x7d", "vars", "gone.hcl"] }]
  path := "/w/packfile.yaml"

/-- The world of `unsetExtra`. -/
def extraWorld : World where
  fs := {
    entries := [(["w"], .directory), (["w", "a.hcl"], .file "".toUTF8 0o644),
      (["w", "vars"], .directory)]
    current := ["w"] }
  process := []

theorem compile_varFiles_extra :
    let compilation := (new unsetExtra ∅).compileIn extraWorld
    let setting := setting extraWorld.fs extraWorld.process unsetExtra
    compilation.outcome = .ok () ∧ extraWorld.fs.hasDirectory setting.workDir = true ∧
      setting.workDir.utf8ByteSize < FileSystem.maxPathBytes ∧
      ∃ rendered, RendersAll setting ∅ (pairs unsetExtra) rendered ∧
        compilation.compiler.actions.map Action.varFiles = rendered.map (existing setting) ∧
        ∀ files ∈ rendered, "" ∈ existing setting files ↔ "" ∈ files := by
  intro compilation setting
  have accepted : compilation.outcome = .ok () := by decide +kernel
  have directory : extraWorld.fs.hasDirectory setting.workDir = true := by decide +kernel
  have short : setting.workDir.utf8ByteSize < FileSystem.maxPathBytes := by decide +kernel
  obtain ⟨rendered, rendersAll, passed, _, _, each⟩ :=
    compile_varFiles (new unsetExtra ∅) extraWorld accepted
  exact ⟨accepted, directory, short, rendered, rendersAll, passed,
    fun files member => (each files member).2.2.2 directory short⟩

/-- An empty name and a directory are passed on, so the var files of an action need not be the files
among the rendered templates. -/
theorem compile_varFiles_not_files :
    let compilation := (new unsetExtra ∅).compileIn extraWorld
    let setting := setting extraWorld.fs extraWorld.process unsetExtra
    let actions := compilation.compiler.actions
    compilation.outcome = .ok () ∧
      actions.map Action.varFiles = [["a.hcl", "", "vars"]] ∧
      actions.map (fun action => NomadPack.releaseArgs .run action.invocation) =
        [["run", "-var-file", "a.hcl", "-var-file", "", "-var-file", "vars", "web"]] ∧
      ¬ ∃ rendered, RendersAll setting ∅ (pairs unsetExtra) rendered ∧
        actions.map Action.varFiles = rendered.map (properFiles setting) := by
  intro compilation setting actions
  have passed : actions.map Action.varFiles = [["a.hcl", "", "vars"]] := by decide +kernel
  refine ⟨by decide +kernel, passed, by decide +kernel, ?_⟩
  rintro ⟨rendered, _, same⟩
  have listed : ["a.hcl", "", "vars"] ∈ rendered.map (properFiles setting) := by
    rw [← same, passed]
    exact List.mem_singleton_self _
  obtain ⟨files, _, files'⟩ := List.mem_map.mp listed
  refine Expansion.empty_not_mem_properFiles setting files ?_
  rw [files']
  decide

end Compiler

end Packfile
