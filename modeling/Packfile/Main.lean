import Packfile.CommandLine.Run

/-!
# The program

The outer layer: it reads the arguments, the environment and the files that a run looks at, lets the
library decide, and prints. Files are read into a `FileSystem` before the run. Programs cannot be
started from here; they count as ended with the status that shells use for a command that cannot be
executed.
-/

namespace Packfile.Main

/-- The status of a command that cannot be executed. -/
def cannotExecute : Termination :=
  ⟨.exited 126, "programs cannot be started".toUTF8⟩

/-- The entries of an environment block, in which a zero byte follows every entry. -/
def environmentOfBlock (block : ByteArray) : ProcessEnvironment :=
  (RawValue.splitBytes 0 block.toList).filterMap fun entry =>
    let name := entry.takeWhile (· ≠ 0x3d)
    let value := entry.drop (name.length + 1)
    if entry.isEmpty then none
    else (String.fromUTF8? ⟨name.toArray⟩).map fun name =>
      (name, RawValue.ofBytes ⟨value.toArray⟩)

/-- The environment of this process. -/
def readEnvironment : IO ProcessEnvironment := do
  match ← (IO.FS.readBinFile "/proc/self/environ").toBaseIO with
  | .ok block => return environmentOfBlock block
  | .error _ => return []

/-- Adds what is at a path, if anything is. -/
def probe (fs : FileSystem) (path : String) : IO FileSystem := do
  match ← (IO.FS.readBinFile path).toBaseIO with
  | .ok content => return fs.put (fs.place path) (.file content 0o755)
  | .error (.inappropriateType ..) => return fs.put (fs.place path) .directory
  | .error _ => return fs

/-- Adds what is at several paths. -/
def probeAll (fs : FileSystem) (paths : List String) : IO FileSystem :=
  paths.foldlM probe fs

/-- The environment files of a manifest, as seen from the current directory. -/
def environmentFiles (manifest : Manifest) : List String :=
  manifest.releases.flatMap fun release =>
    release.environmentFiles.map (Path.join manifest.workDir)

/-- The places in which the pack tool is looked for. -/
def binaryPlaces (line : CommandLine) (environment : ProcessEnvironment) : List String :=
  line.binary :: (NomadPack.searchDirectories environment).map (Path.join · line.binary)

/-- The var files that a run has not found. -/
def missingFiles (result : RunResult) : List String :=
  result.log.filterMap Expansion.missingFile?

/-- A host with everything on it that a run looks at. Which var files those are shows only when the
releases are compiled, so the files that are missing then are added last. -/
def prepareHost (line : CommandLine) : IO Host := do
  let environment ← readEnvironment
  let directory ← IO.currentDir
  let root : FileSystem := { entries := [], current := [] }
  let here := root.place (toString directory)
  let fs ← probe { root.put here .directory with current := here } line.file
  let host : Host := { fs, environment, behaviour := ⟨fun _ _ => cannotExecute⟩ }
  let declared := match line.load host with
    | .ok manifest => environmentFiles manifest
    | .error _ => []
  let fs ← probeAll fs (declared ++ binaryPlaces line environment)
  let first := line.run { host with fs }
  return { host with fs := ← probeAll fs (missingFiles first) }

/-- What is printed when help is asked for. -/
def helpText : String :=
  "\n".intercalate [
    "Usage: " ++ programName ++ " [OPTIONS] <plan|render|run|compile>",
    "",
    "Options:",
    "  -f, --file <FILE>                Packfile to load [packfile.yaml]",
    "      --environment <NAME>         Only this environment",
    "      --release <NAME>             Only releases with this name",
    "      --nomad-pack-binary <PATH>   nomad-pack binary name or path [nomad-pack]",
    "      --log-level <LEVEL>          debug, info, warn, error or fatal [warn]",
    "      --dry-run                    Log nomad-pack commands instead of running them",
    "      --format <yaml|json>         Output of compile [yaml]",
    "  -h, --help                       Print help",
    "  -V, --version                    Print version"]

/-- Runs a command line. -/
def execute (line : CommandLine) : IO UInt32 := do
  let result := line.run (← prepareHost line)
  for entry in result.log do
    if line.logLevel.shows entry then IO.eprintln entry.render
  match result.outcome with
  | .ok text => IO.print text
  | .error failure => IO.eprint failure.message
  return result.exitCode.toNat.toUInt32

end Packfile.Main

/-- The entry point. -/
def main (arguments : List String) : IO UInt32 := do
  match Packfile.CommandLine.parse arguments with
  | .ok line => Packfile.Main.execute line
  | .error .help =>
    IO.println Packfile.Main.helpText
    return 0
  | .error (.version command) =>
    IO.println (Packfile.versionText command)
    return 0
  | .error .usage =>
    IO.eprintln "error: the arguments do not fit; see --help"
    return 2
