import Packfile.Manifest.Basic

/-!
# Manifests as data

The tree that a manifest is written as. Lists and settings are written even when they are empty;
the version and target of a registry and the environments of a release only when they are there.
The path of a manifest is not part of it.
-/

namespace Packfile

/-- The settings as data. -/
def ConnectionOverride.toTree (settings : ConnectionOverride) : Tree :=
  .record [("nomad-addr", .text settings.address), ("nomad-token", .text settings.token)]

/-- The release as data. -/
def Release.toTree (release : Release) : Tree :=
  .recordOf [
    Tree.field "name" (.text release.name),
    Tree.field "pack" (.text release.pack),
    Tree.field "var-files" (.texts release.varFiles),
    Tree.field "vars" (.textFields release.vars.entries),
    release.environments.map fun names => ("environments", .texts names),
    Tree.field "environment-files" (.texts release.environmentFiles),
    Tree.field "nomad-addr" (.text release.address),
    Tree.field "nomad-token" (.text release.token)]

/-- The manifest as data. -/
def Manifest.toTree (manifest : Manifest) : Tree :=
  .record [
    ("registries", .list (manifest.registries.map Registry.toTree)),
    ("environments",
      .record (manifest.environments.entries.map fun entry => (entry.1, entry.2.toTree))),
    ("releases", .list (manifest.releases.map Release.toTree))]

end Packfile
