import Packfile.FileSystem.Basic
import Packfile.Manifest.Decode

/-!
# Loading manifests

A manifest is read from a file, which becomes its path, and then restricted to an environment, to
releases of a name, or to both.
-/

namespace Packfile

namespace Manifest

/-- Why a manifest cannot be loaded. -/
inductive LoadError where
  | notFound (path : String)
  | io (cause : IoError)
  | invalid (path : String) (cause : Yaml.DecodeError)
  deriving Repr

namespace LoadError

/-- The text of an error. -/
def message : LoadError → String
  | .notFound path => "Packfile not found: " ++ path
  | .io cause => "IO error: " ++ cause.message
  | .invalid path cause => "Invalid packfile " ++ path ++ ": " ++ cause.message

end LoadError

/-- What to keep of a manifest; an empty name keeps everything. -/
structure Selection where
  environment : Option String := none
  release : Option String := none
  deriving DecidableEq, Repr

/-- What a selection keeps. The environment is selected first. -/
def select (selection : Selection) (manifest : Manifest) : Manifest :=
  let chosen := match selection.environment.filter (· ≠ "") with
    | some name => manifest.selectEnvironment name
    | none => manifest
  match selection.release.filter (· ≠ "") with
  | some name => chosen.selectRelease name
  | none => chosen

/-- Reads the manifest at a path. -/
def load (fs : FileSystem) (selection : Selection) (path : String) : Except LoadError Manifest :=
  if fs.pathExists path then do
    let text ← (fs.readText path).mapError .io
    let manifest ← (parse text).mapError (.invalid path)
    return select selection { manifest with path }
  else .error (.notFound path)

end Manifest

end Packfile
