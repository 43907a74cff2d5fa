import Packfile.Manifest.Decode
import Packfile.Manifest.Encode
import Packfile.Proofs.Traversal
import Packfile.Proofs.Tree.Yaml
import Packfile.Proofs.Yaml.Carried

/-!
# Manifests written and read again

What a manifest is written as can be read, and gives the same manifest, except that it does not come
from a file. Fields that are left out where they have no value stay without one; an empty list is
written, so it stays a list. What a manifest has been read from does not matter: nothing, numbers
and truth values have become texts or empty settings by then.
-/

namespace Packfile

namespace Manifest

open Yaml (Decoder Document Node)
open Yaml.Decoder (Collects Folds)

variable {node : Node} {depth : Nat}

/-! ## Fields -/

theorem once_of_pure {α : Type} {reader : Decoder α} {value : α} (read : reader = pure value) :
    once none reader = pure (some value) := by
  rw [once, read, map_pure]

section Fields

variable {α σ : Type} {field : σ → String → Node → Decoder σ} {soFar final : σ} {name : String}

/-- A field that is always written. -/
theorem collects_field {set : Option α → σ} {reader : Node → Decoder α} {tree : Tree} {value : α}
    {fields : List (String × Tree)}
    (shape : ∀ node, field soFar name node = do return set (← once none (reader node)))
    (read : ∀ node : Node, node.carries tree → reader node = pure value)
    (later : Collects field (set (some value)) fields final) :
    Collects field soFar ((name, tree) :: fields) final := by
  refine .field (fun node carried => ?_) later
  rw [shape, once_of_pure (read node carried), pure_bind]

/-- A field that is only written when it has a value. -/
theorem collects_fieldIfSome {set : Option (Option α) → σ} {reader : Node → Decoder (Option α)}
    {toTree : α → Tree} {value : Option α} {fields : List (Option (String × Tree))}
    (shape : ∀ node, field soFar name node = do return set (← once none (reader node)))
    (absent : set none = soFar)
    (read : ∀ x, ∀ node : Node, node.carries (toTree x) → reader node = pure (some x))
    (later : Collects field (set (value.map some)) (fields.filterMap id) final) :
    Collects field soFar
      (((value.map fun x => (name, toTree x)) :: fields).filterMap id) final := by
  cases value with
  | none => exact absent ▸ later
  | some x => exact collects_field shape (read x) later

end Fields

/-! ## Parts of a manifest -/

theorem textItem_of_carries {value : String} (carried : node.carries (.text value)) :
    textItem depth node = pure value :=
  Decoder.text_of_carries carried

theorem texts_of_carries {values : List String} (carried : node.carries (.texts values)) :
    texts (depth + 1) node = pure values := by
  have each : ∀ value ∈ values, ∀ node : Node, node.carries (.text value) →
      textItem depth node = pure (id value) := fun _ _ _ => textItem_of_carries
  rw [texts, Decoder.list_of_carries each carried, List.map_id]

theorem optionalText_of_carries {value : String} (carried : node.carries (.text value)) :
    Decoder.optional textItem depth node = pure (some value) := by
  rw [Decoder.optional_of_text carried, textItem_of_carries carried, map_pure]

theorem optionalTexts_of_carries {values : List String} (carried : node.carries (.texts values)) :
    Decoder.optional texts (depth + 1) node = pure (some values) := by
  rw [Decoder.optional_of_list carried, texts_of_carries carried, map_pure]

theorem registry_of_carries {registry : Registry} (carried : node.carries registry.toTree) :
    Manifest.registry (depth + 1) node = pure registry := by
  obtain ⟨name, url, ref, target⟩ := registry
  have collects : Collects (RegistryDraft.add depth) {}
      ([Tree.field "name" (.text name), Tree.field "url" (.text url), Tree.fieldIfSome "ref" ref,
        Tree.fieldIfSome "target" target].filterMap id)
      { name := some name, url := some url, ref := ref.map some, target := target.map some } :=
    collects_field (fun _ => rfl) (fun _ => Decoder.text_of_carries) <|
      collects_field (fun _ => rfl) (fun _ => Decoder.text_of_carries) <|
      collects_fieldIfSome (fun _ => rfl) rfl (fun _ _ => optionalText_of_carries) <|
      collects_fieldIfSome (fun _ => rfl) rfl (fun _ _ => optionalText_of_carries) <|
      Folds.nil _
  rw [Manifest.registry, Decoder.record_of_carries collects carried, pure_bind]
  cases ref <;> cases target <;> rfl

theorem connectionOverride_of_carries {settings : ConnectionOverride}
    (carried : node.carries settings.toTree) :
    connectionOverride (depth + 1) node = pure settings := by
  have collects : Collects (OverrideDraft.add depth) {}
      [("nomad-addr", .text settings.address), ("nomad-token", .text settings.token)]
      { address := some settings.address, token := some settings.token } :=
    collects_field (fun _ => rfl) (fun _ => Decoder.text_of_carries) <|
      collects_field (fun _ => rfl) (fun _ => Decoder.text_of_carries) <|
      Folds.nil _
  rw [connectionOverride, Decoder.record_of_carries collects carried, pure_bind]
  rfl

theorem settingsByName_of_carries {environments : OrderedMap ConnectionOverride}
    (carried : node.carries (.record
      (environments.entries.map fun entry => (entry.1, entry.2.toTree)))) :
    settingsByName (depth + 2) node = pure environments := by
  have each : ∀ entry ∈ environments.entries, ∀ node : Node, node.carries entry.2.toTree →
      Decoder.optional connectionOverride (depth + 1) node = pure (some entry.2) := by
    intro entry _ node carried
    rw [Decoder.optional_of_record carried, connectionOverride_of_carries carried, map_pure]
  have kept : (environments.map some).map (Option.getD · {}) = environments := by
    refine OrderedMap.ext ?_
    simp [List.map_map, Function.comp_def]
  rw [settingsByName, Decoder.optional_of_record carried, Decoder.map_of_carries each carried,
    map_pure, pure_bind]
  exact congrArg pure kept

theorem traverse_varText (vars : OrderedMap String) :
    (vars.map Yaml.Value.text).traverse varText = .ok vars := by
  rw [OrderedMap.traverse_eq_ok, OrderedMap.entries_map, List.forall₂_map_left_iff]
  exact List.forall₂_same.mpr fun _ _ => ⟨rfl, rfl⟩

theorem varsByName_of_carries {vars : OrderedMap String}
    (carried : node.carries (.textFields vars.entries)) :
    varsByName (depth + 2) node = pure vars := by
  have each : ∀ entry ∈ vars.entries, ∀ node : Node, node.carries (.text entry.2) →
      Decoder.value (depth + 1) node = pure (.text entry.2) :=
    fun _ _ _ => Decoder.value_of_carries
  rw [varsByName, Decoder.optional_of_record carried, Decoder.map_of_carries each carried,
    map_pure, pure_bind, Option.getD_some, traverse_varText]

theorem release_of_carries {release : Release} (carried : node.carries release.toTree) :
    Manifest.release (depth + 3) node = pure release := by
  obtain ⟨name, pack, varFiles, vars, environments, environmentFiles, address, token⟩ := release
  have collects : Collects (ReleaseDraft.add (depth + 2)) {}
      ([Tree.field "name" (.text name), Tree.field "pack" (.text pack),
        Tree.field "var-files" (.texts varFiles), Tree.field "vars" (.textFields vars.entries),
        environments.map fun names => ("environments", .texts names),
        Tree.field "environment-files" (.texts environmentFiles),
        Tree.field "nomad-addr" (.text address),
        Tree.field "nomad-token" (.text token)].filterMap id)
      { name := some name, pack := some pack, varFiles := some varFiles, vars := some vars
        environments := environments.map some, environmentFiles := some environmentFiles
        address := some address, token := some token } :=
    collects_field (fun _ => rfl) (fun _ => Decoder.text_of_carries) <|
      collects_field (fun _ => rfl) (fun _ => Decoder.text_of_carries) <|
      collects_field (fun _ => rfl) (fun _ => texts_of_carries) <|
      collects_field (fun _ => rfl) (fun _ => varsByName_of_carries) <|
      collects_fieldIfSome (fun _ => rfl) rfl (fun _ _ => optionalTexts_of_carries) <|
      collects_field (fun _ => rfl) (fun _ => texts_of_carries) <|
      collects_field (fun _ => rfl) (fun _ => Decoder.text_of_carries) <|
      collects_field (fun _ => rfl) (fun _ => Decoder.text_of_carries) <|
      Folds.nil _
  rw [Manifest.release, Decoder.record_of_carries collects carried, pure_bind]
  cases environments <;> rfl

theorem ofNode_of_carries {manifest : Manifest} (carried : node.carries manifest.toTree) :
    ofNode (depth + 5) node = pure { manifest with path := "" } := by
  obtain ⟨registries, environments, releases, path⟩ := manifest
  have eachRegistry : ∀ registry ∈ registries, ∀ node : Node, node.carries registry.toTree →
      Manifest.registry (depth + 3) node = pure (id registry) := fun _ _ _ => registry_of_carries
  have eachRelease : ∀ release ∈ releases, ∀ node : Node, node.carries release.toTree →
      Manifest.release (depth + 3) node = pure (id release) := fun _ _ _ => release_of_carries
  have collects : Collects (Draft.add (depth + 4)) {}
      [("registries", .list (registries.map Registry.toTree)),
        ("environments",
          .record (environments.entries.map fun entry => (entry.1, entry.2.toTree))),
        ("releases", .list (releases.map Release.toTree))]
      { registries := some (registries.map id), environments := some environments
        releases := some (releases.map id) } :=
    collects_field (fun _ => rfl) (fun _ => Decoder.list_of_carries eachRegistry) <|
      collects_field (fun _ => rfl) (fun _ => settingsByName_of_carries) <|
      collects_field (fun _ => rfl) (fun _ => Decoder.list_of_carries eachRelease) <|
      Folds.nil _
  rw [ofNode, Decoder.record_of_carries collects carried, pure_bind, List.map_id, List.map_id]
  rfl

/-! ## Whole manifests -/

/-- A written manifest is not taken for an empty text. -/
theorem not_blank_toYaml (manifest : Manifest) :
    ¬ manifest.toTree.toYaml.toList.all Text.isBlank := by
  intro blank
  have plain : Tree.TextStyle.of "registries" = .plain := by decide +kernel
  have letter : 'r' ∈ manifest.toTree.toYaml.toList :=
    Tree.mem_toYaml plain (by decide +kernel) (by decide)
  have solid := List.all_eq_true.mp blank 'r' letter
  revert solid
  decide

theorem path_of_parse {text : String} {manifest : Manifest} (read : parse text = .ok manifest) :
    manifest.path = "" := by
  unfold parse at read
  split at read
  · cases read
    rfl
  · simp only [Document.decode] at read
    split at read
    · cases read
    · next result followed accepted =>
        split at read
        · cases read
          obtain ⟨⟨draft, _⟩, -, same⟩ := bind_eq_ok.mp accepted
          cases same
          rfl
        · cases read

theorem parse_of_carries {manifest : Manifest}
    (carried : (Document.ofText manifest.toTree.toYaml).carries manifest.toTree) :
    parse manifest.toTree.toYaml = .ok { manifest with path := "" } := by
  have read : ∀ node : Node, node.carries manifest.toTree →
      ofNode (123 + 5) node = pure { manifest with path := "" } := fun _ => ofNode_of_carries
  rw [parse, if_neg manifest.not_blank_toYaml]
  exact Document.decode_of_carries read carried

/-- Reading what a manifest was written as gives the manifest back, without its path: the same
registries, with and without version and target, the same environments and releases in their order,
the same variables in theirs, and for each release no environments, an empty list of them or the
listed ones. So a text that can be read, whatever was left open in it, can be written from what was
read and read again with the same result. That the YAML document which is written has the form of
the manifest's tree is assumed of each document. -/
theorem parse_toYaml :
    (∀ manifest : Manifest,
      (Document.ofText manifest.toTree.toYaml).carries manifest.toTree →
      parse manifest.toTree.toYaml = .ok { manifest with path := "" }) ∧
    ∀ (text : String) (manifest : Manifest), parse text = .ok manifest →
      (Document.ofText manifest.toTree.toYaml).carries manifest.toTree →
      parse manifest.toTree.toYaml = .ok manifest := by
  refine ⟨fun manifest => parse_of_carries, ?_⟩
  intro text manifest read carried
  obtain ⟨registries, environments, releases, path⟩ := manifest
  obtain rfl : path = "" := path_of_parse read
  exact parse_of_carries carried

/-- Settings without a body, a variable that is a number and one that is nothing, and a release with
an empty list of environments. -/
theorem parse_toYaml_bare :
    let text := "environments:\n  p:\nreleases:\n- name: a\n  pack: b\n" ++
      "  environments: []\n  vars: \x7bn: 10, e: \x7d\n"
    let manifest : Manifest :=
      { environments := .ofList [("p", {})]
        releases := [
          { name := "a", pack := "b", environments := some []
            vars := .ofList [("n", "10"), ("e", "")] }] }
    parse text = .ok manifest ∧ (Document.ofText manifest.toTree.toYaml).carries manifest.toTree ∧
      parse manifest.toTree.toYaml = .ok manifest ∧
      parse ({ manifest with path := "d/p.yaml" } : Manifest).toTree.toYaml = .ok manifest := by
  intro text manifest
  have read : (parse text).toOption = some manifest := by decide +kernel
  have accepted : parse text = .ok manifest := by
    cases result : parse text <;> rw [result] at read <;> cases read
    rfl
  have carried : (Document.ofText manifest.toTree.toYaml).carries manifest.toTree := by
    decide +kernel
  exact ⟨accepted, carried, parse_toYaml.2 text manifest accepted carried,
    parse_toYaml.1 { manifest with path := "d/p.yaml" } carried⟩

end Manifest

end Packfile
