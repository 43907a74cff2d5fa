import Packfile.Manifest.Basic
import Packfile.Text.Blank
import Packfile.Yaml.Decode

/-!
# Manifests from YAML

A manifest is a record of registries, environments and releases, each of which may be missing.
Fields that are not known are passed over, but no known field may stand twice in a record.
Variables may be written as numbers, truth values or nothing; their text is kept. A text of nothing
but blanks is the empty manifest.
-/

namespace Packfile

namespace Manifest

open Yaml (DecodeError Decoder Node Value)

/-- Reads a field that must not have been read before. -/
def once {α : Type} (soFar : Option α) (reader : Decoder α) : Decoder (Option α) :=
  match soFar with
  | some _ => Decoder.malformed
  | none => some <$> reader

/-- A field that must have been read. -/
def required {α : Type} (name : String) (soFar : Option α) : Decoder α :=
  match soFar with
  | some value => pure value
  | none => throw (.missingField name)

/-- A text as an item of a list. -/
def textItem (_depth : Nat) (node : Node) : Decoder String :=
  Decoder.text node

/-- A list of texts. -/
def texts (depth : Nat) (node : Node) : Decoder (List String) :=
  Decoder.list textItem depth node

/-- The fields of a registry that have been read. -/
structure RegistryDraft where
  name : Option String := none
  url : Option String := none
  ref : Option (Option String) := none
  target : Option (Option String) := none

namespace RegistryDraft

/-- Takes up a field. -/
def add (depth : Nat) (draft : RegistryDraft) (name : String) (node : Node) :
    Decoder RegistryDraft := do
  match name with
  | "name" => return { draft with name := ← once draft.name (Decoder.text node) }
  | "url" => return { draft with url := ← once draft.url (Decoder.text node) }
  | "ref" => return { draft with ref := ← once draft.ref (Decoder.optional textItem depth node) }
  | "target" =>
    return { draft with target := ← once draft.target (Decoder.optional textItem depth node) }
  | _ =>
    Decoder.ignore node
    return draft

/-- The registry, if its name and its location have been read. -/
def finish (draft : RegistryDraft) : Decoder Registry := do
  let name ← required "name" draft.name
  let url ← required "url" draft.url
  return { name, url, ref := draft.ref.join, target := draft.target.join }

end RegistryDraft

/-- A registry. -/
def registry (depth : Nat) (node : Node) : Decoder Registry := do
  (← Decoder.record RegistryDraft.add {} depth node).finish

/-- The fields of an environment's settings that have been read. -/
structure OverrideDraft where
  address : Option String := none
  token : Option String := none

namespace OverrideDraft

/-- Takes up a field. -/
def add (_depth : Nat) (draft : OverrideDraft) (name : String) (node : Node) :
    Decoder OverrideDraft := do
  match name with
  | "nomad-addr" => return { draft with address := ← once draft.address (Decoder.text node) }
  | "nomad-token" => return { draft with token := ← once draft.token (Decoder.text node) }
  | _ =>
    Decoder.ignore node
    return draft

/-- The settings; what has not been read is empty. -/
def finish (draft : OverrideDraft) : ConnectionOverride :=
  { address := draft.address.getD "", token := draft.token.getD "" }

end OverrideDraft

/-- The settings of an environment. -/
def connectionOverride (depth : Nat) (node : Node) : Decoder ConnectionOverride := do
  return (← Decoder.record OverrideDraft.add {} depth node).finish

/-- Environments by name, each with settings or nothing. -/
def settingsByName (depth : Nat) (node : Node) : Decoder (OrderedMap ConnectionOverride) := do
  let read ← Decoder.optional (Decoder.map (Decoder.optional connectionOverride)) depth node
  return (read.getD ∅).map (Option.getD · {})

/-- The text of a variable. -/
def varText (key : String) (value : Value) : Except DecodeError String :=
  match value.scalarText? with
  | some text => .ok text
  | none => .error (.notScalar key value)

/-- Variables by name. All of them are read before the first that is no scalar is reported. -/
def varsByName (depth : Nat) (node : Node) : Decoder (OrderedMap String) := do
  let read ← Decoder.optional (Decoder.map Decoder.value) depth node
  match (read.getD ∅).traverse varText with
  | .ok texts => return texts
  | .error e => throw e

/-- The fields of a release that have been read. -/
structure ReleaseDraft where
  name : Option String := none
  pack : Option String := none
  varFiles : Option (List String) := none
  vars : Option (OrderedMap String) := none
  environments : Option (Option (List String)) := none
  environmentFiles : Option (List String) := none
  address : Option String := none
  token : Option String := none

namespace ReleaseDraft

/-- Takes up a field. -/
def add (depth : Nat) (draft : ReleaseDraft) (name : String) (node : Node) :
    Decoder ReleaseDraft := do
  match name with
  | "name" => return { draft with name := ← once draft.name (Decoder.text node) }
  | "pack" => return { draft with pack := ← once draft.pack (Decoder.text node) }
  | "var-files" => return { draft with varFiles := ← once draft.varFiles (texts depth node) }
  | "vars" => return { draft with vars := ← once draft.vars (varsByName depth node) }
  | "environments" =>
    return { draft with
      environments := ← once draft.environments (Decoder.optional texts depth node) }
  | "environment-files" =>
    return { draft with environmentFiles := ← once draft.environmentFiles (texts depth node) }
  | "nomad-addr" => return { draft with address := ← once draft.address (Decoder.text node) }
  | "nomad-token" => return { draft with token := ← once draft.token (Decoder.text node) }
  | _ =>
    Decoder.ignore node
    return draft

/-- The release, if its name and its pack have been read. -/
def finish (draft : ReleaseDraft) : Decoder Release := do
  let name ← required "name" draft.name
  let pack ← required "pack" draft.pack
  return {
    name, pack
    varFiles := draft.varFiles.getD []
    vars := draft.vars.getD ∅
    environments := draft.environments.join
    environmentFiles := draft.environmentFiles.getD []
    address := draft.address.getD ""
    token := draft.token.getD "" }

end ReleaseDraft

/-- A release. -/
def release (depth : Nat) (node : Node) : Decoder Release := do
  (← Decoder.record ReleaseDraft.add {} depth node).finish

/-- The fields of a manifest that have been read. -/
structure Draft where
  registries : Option (List Registry) := none
  environments : Option (OrderedMap ConnectionOverride) := none
  releases : Option (List Release) := none

namespace Draft

/-- Takes up a field. -/
def add (depth : Nat) (draft : Draft) (name : String) (node : Node) : Decoder Draft := do
  match name with
  | "registries" =>
    return { draft with registries := ← once draft.registries (Decoder.list registry depth node) }
  | "environments" =>
    return { draft with
      environments := ← once draft.environments (settingsByName depth node) }
  | "releases" =>
    return { draft with releases := ← once draft.releases (Decoder.list release depth node) }
  | _ =>
    Decoder.ignore node
    return draft

/-- The manifest; what has not been read is empty. -/
def finish (draft : Draft) : Manifest :=
  { registries := draft.registries.getD []
    environments := draft.environments.getD ∅
    releases := draft.releases.getD [] }

end Draft

/-- A manifest. -/
def ofNode (depth : Nat) (node : Node) : Decoder Manifest := do
  return (← Decoder.record Draft.add {} depth node).finish

/-- The manifest that a text describes. -/
def parse (text : String) : Except DecodeError Manifest :=
  if text.toList.all Text.isBlank then .ok {}
  else (Yaml.Document.ofText text).decode ofNode

end Manifest

end Packfile
