import Packfile.Proofs.Compiler.History

/-!
# Isolation from the process

The plain rules for environment files look a reference up in the environment of the process before
anything else, so the entries of a file may well differ from process to process. A load does not
show it: an entry counts only if its line is free of references, and for every other line the entry
is read again from the raw text. Since a compilation has no other access to the process than through
its loads, it is the same in every process as long as its store is.
-/

namespace Packfile

namespace Dotenv

theorem loadText_process (process other : ProcessEnvironment) (store : EnvironmentStore)
    (text : String) : loadText process store text = loadText other store text := by
  rw [loadText_eq, loadText_eq]

theorem load_process (fs : FileSystem) (process other : ProcessEnvironment)
    (store : EnvironmentStore) (path : String) :
    load fs process store path = load fs other store path := by
  simp only [load, loadText_process process other]

/-- The entries of the plain rules do show the process. -/
example :
    Entry.ofLines [("B", .text "leak")] [] ["A=$B".toList] = [.ok ("A", "leak")] ∧
      Entry.ofLines [] [] ["A=$B".toList] = [.ok ("A", "")] :=
  ⟨rfl, rfl⟩

end Dotenv

namespace Expansion

variable (setting : Setting) (process : ProcessEnvironment)

theorem loadFile_process (store : EnvironmentStore) (file : String) :
    loadFile { setting with process } store file = loadFile setting store file :=
  Dotenv.load_process ..

theorem loadFiles_process (release : String) (store : EnvironmentStore) (files : List String) :
    loadFiles { setting with process } release store files =
      loadFiles setting release store files := by
  induction files generalizing store with
  | nil => rfl
  | cons file rest ih =>
      rw [loadFiles_cons, loadFiles_cons, loadFile_process]
      split
      · exact ih _
      · rfl

theorem existingVarFiles_process (context : Template.Context) (release : String)
    (templates : List String) :
    existingVarFiles { setting with process } context release templates =
      existingVarFiles setting context release templates := by
  induction templates with
  | nil => rfl
  | cons template rest ih => simp only [existingVarFiles, ih]

theorem resolveRelease_process (context : Template.Context) (settings : ConnectionOverride)
    (release : Release) :
    resolveRelease { setting with process } context settings release =
      resolveRelease setting context settings release := by
  simp only [resolveRelease, resolvePack, existingVarFiles_process]

theorem expandRelease_process (environment : String) (settings : ConnectionOverride)
    (store : EnvironmentStore) (release : Release) :
    expandRelease { setting with process } environment settings store release =
      expandRelease setting environment settings store release := by
  simp only [expandRelease, loadFiles_process, resolveRelease_process]

theorem expandPairs_process (store : EnvironmentStore) (pairs : List Pair) :
    expandPairs { setting with process } store pairs = expandPairs setting store pairs := by
  induction pairs generalizing store with
  | nil => rfl
  | cons pair rest ih => simp only [expandPairs, expandRelease_process, ih]

theorem expand_process (environments : OrderedMap ConnectionOverride) (releases : List Release)
    (store : EnvironmentStore) :
    expand { setting with process } environments releases store =
      expand setting environments releases store := by
  rw [expand_eq_expandPairs, expand_eq_expandPairs, expandPairs_process]

end Expansion

namespace Compiler

theorem compile_process (fs : FileSystem) (process other : ProcessEnvironment)
    (compiler : Compiler) : compiler.compile fs process = compiler.compile fs other :=
  congrArg compiler.settle
    (Expansion.expand_process (setting fs other compiler.manifest) process _ _ _)

/-- The environment of the process has no part in a load, nor in the compilation of any manifest
from a given store: the results are the same, and so are the store and the compiler that they
leave. -/
theorem isolated_from_process (process other : ProcessEnvironment) (fs : FileSystem) :
    (∀ store path, Dotenv.load fs process store path = Dotenv.load fs other store path) ∧
    ∀ compiler : Compiler, compiler.compile fs process = compiler.compile fs other :=
  ⟨fun store path => Dotenv.load_process fs process other store path,
    fun compiler => compile_process fs process other compiler⟩

end Compiler

end Packfile
