import Packfile.FileSystem.Path
import Packfile.OrderedMap
import Packfile.Registry.Basic

/-!
# Manifests

A manifest declares registries, environments and releases. Environments are listed in order of
declaration, each with the connection settings that it forces onto its releases.
-/

namespace Packfile

/-- The connection settings of an environment; an empty one leaves the choice to the release. -/
structure ConnectionOverride where
  address : String := ""
  token : String := ""
  deriving DecidableEq, Repr

/-- A declared release, which is expanded once for every environment that it applies to. -/
structure Release where
  name : String
  /-- The reference to the pack. -/
  pack : String
  varFiles : List String := []
  vars : OrderedMap String := ∅
  /-- The environments that the release applies to, if it names any. -/
  environments : Option (List String) := none
  environmentFiles : List String := []
  address : String := ""
  token : String := ""
  deriving DecidableEq

/-- A whole manifest. -/
structure Manifest where
  registries : List Registry := []
  environments : OrderedMap ConnectionOverride := ∅
  releases : List Release := []
  /-- Where the manifest was read from; empty if it was not read from a file. -/
  path : String := ""
  deriving DecidableEq

/-- The name that stands for every environment. -/
def allEnvironments : String := "all"

/-- Whether the release is deployed to an environment. Naming none, or `all`, means every one. -/
def Release.appliesTo (release : Release) (environment : String) : Bool :=
  match release.environments with
  | none | some [] => true
  | some names => names.any fun name => name = environment || name = allEnvironments

namespace Manifest

/-- The directory of the manifest, which relative paths start from. -/
def workDir (manifest : Manifest) : String :=
  Path.directory manifest.path

/-- Keeps a single environment, with empty settings if it is not declared. -/
def selectEnvironment (manifest : Manifest) (name : String) : Manifest :=
  { manifest with
    environments := .singleton name ((manifest.environments.get? name).getD {}) }

/-- Keeps the releases with the given name. -/
def selectRelease (manifest : Manifest) (name : String) : Manifest :=
  { manifest with releases := manifest.releases.filter fun release => release.name = name }

end Manifest

end Packfile
