import Packfile.Proofs.Release.Fields
import Packfile.Proofs.Text

/-!
# References to packs

A reference either names a pack outright or, if it begins with the scheme of registries, refers to a
pack in one. What a text refers to is said here by the text alone: the scheme, a registry, a slash
and a pack, where neither name is empty or has a slash of its own. No text can be taken apart like
that in two ways, so resolving a reference has four outcomes, each under its own condition.
-/

namespace Packfile

namespace Pack

/-- The text begins with the scheme of registries. -/
def HasScheme (reference : String) : Prop :=
  ∃ path, reference = scheme ++ path

/-- The text refers to a pack in a registry. -/
structure RefersTo (reference registry name : String) : Prop where
  text : reference = scheme ++ registry ++ "/" ++ name
  registry_ne : registry ≠ ""
  name_ne : name ≠ ""
  registry_plain : '/' ∉ registry.toList
  name_plain : '/' ∉ name.toList

variable {catalog : Catalog} {reference registry name : String} {path : List Char} {pack : Pack}

/-! ## Taking a reference apart -/

theorem afterScheme?_eq_some :
    afterScheme? reference = some path ↔ reference.toList = scheme.toList ++ path := by
  rw [afterScheme?, Option.ite_none_right_eq_some, List.isPrefixOf_iff_prefix, Option.some.injEq]
  constructor
  · rintro ⟨⟨rest, split⟩, rfl⟩
    rw [← split, List.drop_left]
  · intro split
    rw [split, List.drop_left]
    exact ⟨List.prefix_append .., rfl⟩

theorem hasScheme_iff : HasScheme reference ↔ ∃ path, afterScheme? reference = some path := by
  simp only [afterScheme?_eq_some]
  constructor
  · rintro ⟨path, rfl⟩
    exact ⟨path.toList, String.toList_append⟩
  · rintro ⟨path, split⟩
    refine ⟨String.ofList path, String.toList_inj.mp ?_⟩
    rw [split, String.toList_append, String.toList_ofList]

theorem afterScheme?_eq_none : afterScheme? reference = none ↔ ¬ HasScheme reference := by
  rw [hasScheme_iff, ← Option.isSome_iff_exists, Option.not_isSome_iff_eq_none]

/-- What follows the scheme has two fields. -/
theorem refersTo_iff :
    RefersTo reference registry name ↔
      ∃ path, afterScheme? reference = some path ∧
        Text.fields '/' path = [registry.toList, name.toList] ∧ registry ≠ "" ∧ name ≠ "" := by
  simp only [afterScheme?_eq_some, Text.fields_eq_pair]
  constructor
  · rintro ⟨rfl, registry_ne, name_ne, registry_plain, name_plain⟩
    refine ⟨registry.toList ++ '/' :: name.toList, ?_, ⟨rfl, registry_plain, name_plain⟩,
      registry_ne, name_ne⟩
    simp
  · rintro ⟨path, split, ⟨rfl, registry_plain, name_plain⟩, registry_ne, name_ne⟩
    refine ⟨String.toList_inj.mp ?_, registry_ne, name_ne, registry_plain, name_plain⟩
    simp [split]

theorem RefersTo.hasScheme (refers : RefersTo reference registry name) : HasScheme reference := by
  obtain ⟨path, split, -⟩ := refersTo_iff.mp refers
  exact hasScheme_iff.mpr ⟨path, split⟩

theorem not_refersTo (bare : ¬ HasScheme reference) : ¬ RefersTo reference registry name :=
  mt RefersTo.hasScheme bare

/-- The registry and the pack can be read off the reference. -/
theorem RefersTo.iff_eq (refers : RefersTo reference registry name) {registry' name' : String} :
    RefersTo reference registry' name' ↔ registry' = registry ∧ name' = name := by
  constructor
  · intro refers'
    obtain ⟨path, split, fields, -⟩ := refersTo_iff.mp refers
    obtain ⟨path', split', fields', -⟩ := refersTo_iff.mp refers'
    obtain rfl : path' = path := Option.some.inj (split'.symm.trans split)
    have same := fields'.symm.trans fields
    simpa [String.toList_inj] using same
  · rintro ⟨rfl, rfl⟩
    exact refers

/-! ## Resolving a reference -/

theorem resolve_of_not_hasScheme (bare : ¬ HasScheme reference) :
    resolve catalog reference = .ok { name := reference } := by
  rw [resolve, afterScheme?_eq_none.mpr bare]

theorem resolve_of_refersTo (refers : RefersTo reference registry name) :
    resolve catalog reference =
      match catalog.get? registry with
      | some node => .ok { name, registry := some node }
      | none => .error (.unknownRegistry registry) := by
  obtain ⟨path, split, fields, registry_ne, name_ne⟩ := refersTo_iff.mp refers
  have named : ¬ (registry.toList.isEmpty || name.toList.isEmpty) := by
    simp [registry_ne, name_ne]
  cases found : catalog.get? registry <;>
    simp only [resolve, split, fields, if_neg named, String.ofList_toList, found]

theorem resolve_of_malformed (scheme : HasScheme reference)
    (malformed : ∀ registry name, ¬ RefersTo reference registry name) :
    resolve catalog reference = .error .malformed := by
  obtain ⟨path, split⟩ := hasScheme_iff.mp scheme
  simp only [resolve, split]
  split
  · next registry name fields =>
      have empty : registry.isEmpty || name.isEmpty := by
        by_contra named
        refine malformed (String.ofList registry) (String.ofList name)
          (refersTo_iff.mpr ⟨path, split, ?_, ?_, ?_⟩) <;> simp_all
      rw [if_pos empty]
  · rfl

/-- A reference is a bare name, or well formed, or malformed. -/
theorem reference_cases (reference : String) :
    ¬ HasScheme reference ∨ (∃ registry name, RefersTo reference registry name) ∨
      (HasScheme reference ∧ ∀ registry name, ¬ RefersTo reference registry name) := by
  by_cases scheme : HasScheme reference
  · by_cases refers : ∃ registry name, RefersTo reference registry name
    · exact .inr (.inl refers)
    · exact .inr (.inr ⟨scheme, fun registry name found => refers ⟨registry, name, found⟩⟩)
  · exact .inl scheme

theorem resolve_eq_ok :
    resolve catalog reference = .ok pack ↔
      (¬ HasScheme reference ∧ pack = { name := reference }) ∨
        ∃ registry node, RefersTo reference registry pack.name ∧
          catalog.get? registry = some node ∧ pack.registry = some node := by
  rcases reference_cases reference with bare | ⟨registry, name, refers⟩ | ⟨scheme, malformed⟩
  · simp [resolve_of_not_hasScheme bare, bare, not_refersTo bare, eq_comm]
  · have scheme := refers.hasScheme
    obtain ⟨name', source⟩ := pack
    simp only [resolve_of_refersTo refers, scheme, refers.iff_eq]
    cases found : catalog.get? registry with
    | none => simp [found]
    | some node => simp [found, eq_comm]
  · simp [resolve_of_malformed scheme malformed, scheme, malformed]

theorem resolve_eq_unknownRegistry :
    resolve catalog reference = .error (.unknownRegistry registry) ↔
      (∃ name, RefersTo reference registry name) ∧ catalog.get? registry = none := by
  rcases reference_cases reference with bare | ⟨registry', name, refers⟩ | ⟨scheme, malformed⟩
  · simp [resolve_of_not_hasScheme bare, not_refersTo bare]
  · simp only [resolve_of_refersTo refers, refers.iff_eq]
    constructor
    · intro refused
      cases found : catalog.get? registry' with
      | none =>
          simp only [found, Except.error.injEq, PackFault.unknownRegistry.injEq] at refused
          exact ⟨⟨name, refused.symm, rfl⟩, refused ▸ found⟩
      | some node => simp [found] at refused
    · rintro ⟨⟨_, rfl, rfl⟩, unknown⟩
      simp [unknown]
  · simp [resolve_of_malformed scheme malformed, malformed]

theorem resolve_eq_malformed :
    resolve catalog reference = .error .malformed ↔
      HasScheme reference ∧ ∀ registry name, ¬ RefersTo reference registry name := by
  rcases reference_cases reference with bare | ⟨registry, name, refers⟩ | ⟨scheme, malformed⟩
  · simp [resolve_of_not_hasScheme bare, bare]
  · simp only [resolve_of_refersTo refers, refers.iff_eq]
    cases catalog.get? registry <;> simp
  · simp [resolve_of_malformed scheme malformed, scheme, malformed]

end Pack

namespace Expansion

open Pack (HasScheme RefersTo)

variable {setting : Setting} {release : Release}

/-- A release takes its pack by its bare name exactly if its reference does not begin with the
scheme. It takes a pack from a registry exactly if the reference is well formed and the catalog
lists the registry, which is then attached as it is listed. A well-formed reference to a registry
that is not listed is refused with the name of that registry, and every other reference with its
text. What a reference refers to is determined by it. -/
theorem resolvePack_reference (setting : Setting) (release : Release) :
    (∀ pack, resolvePack setting release = .ok pack ↔
      (¬ HasScheme release.pack ∧ pack = { name := release.pack }) ∨
        ∃ registry node, RefersTo release.pack registry pack.name ∧
          (registry, node) ∈ setting.catalog.registries.entries ∧ pack.registry = some node) ∧
    (∀ e, resolvePack setting release = .error e ↔
      (∃ registry name, RefersTo release.pack registry name ∧
        registry ∉ setting.catalog.names ∧ e = .registryNotFound release.name registry) ∨
        (HasScheme release.pack ∧ (∀ registry name, ¬ RefersTo release.pack registry name) ∧
          e = .invalidPackReference release.name release.pack)) ∧
    ∀ registry name, RefersTo release.pack registry name →
      ∀ registry' name', RefersTo release.pack registry' name' ↔
        registry' = registry ∧ name' = name := by
  refine ⟨?_, ?_, ?_⟩
  · intro pack
    rw [resolvePack_eq_ok, Pack.resolve_eq_ok]
    simp only [Catalog.get?, OrderedMap.get?_eq_some_iff]
  · intro e
    simp only [resolvePack_eq_error, Pack.resolve_eq_malformed, Pack.resolve_eq_unknownRegistry,
      Catalog.get?, OrderedMap.get?_eq_none_iff]
    constructor
    · rintro (⟨⟨scheme, malformed⟩, rfl⟩ | ⟨registry, ⟨⟨name, refers⟩, unknown⟩, rfl⟩)
      · exact .inr ⟨scheme, malformed, rfl⟩
      · exact .inl ⟨registry, name, refers, unknown, rfl⟩
    · rintro (⟨registry, name, refers, unknown, rfl⟩ | ⟨scheme, malformed, rfl⟩)
      · exact .inr ⟨registry, ⟨⟨name, refers⟩, unknown⟩, rfl⟩
      · exact .inl ⟨⟨scheme, malformed⟩, rfl⟩
  · intro registry name refers registry' name'
    exact refers.iff_eq

end Expansion

end Packfile
