import Mathlib.Data.List.Induction
import Mathlib.Data.List.Nodup
import Mathlib.Data.List.Perm.Subperm
import Packfile.Proofs.Registry.Catalog

/-!
# The declarations that count

A name may be declared many times, and only the first of its declarations counts. Whether a
declaration is the first of its name is a matter of the declarations before it, so the catalog of a
list is known position by position, without the catalogs that were built on the way. Everything else
about a catalog follows: what it answers for a name, what it drops, how it grows when declarations
are appended, and that their order matters only where a name occurs twice.
-/

namespace Packfile.Catalog

/-- The declarations that are accepted in view of those before them. -/
def acceptedBy (accept : List Registry → Registry → Bool) (declarations : List Registry) :
    List Registry :=
  (declarations.zipIdx.filter fun (registry, i) =>
    accept (declarations.take i) registry).map Prod.fst

/-- Whether a name is declared. -/
def Declares (declarations : List Registry) (name : String) : Prop :=
  name ∈ declarations.map Registry.name

instance (declarations : List Registry) (name : String) : Decidable (Declares declarations name) :=
  inferInstanceAs (Decidable (name ∈ _))

/-- The first declaration of every name, where it stands. -/
def firsts (declarations : List Registry) : List Registry :=
  acceptedBy (fun before registry => ¬ Declares before registry.name) declarations

/-- The declarations of names that have been declared before, where they stand. -/
def repeats (declarations : List Registry) : List Registry :=
  acceptedBy (fun before registry => Declares before registry.name) declarations

variable {catalog : Catalog} {declarations more : List Registry} {registry : Registry}
variable {name : String} {accept : List Registry → Registry → Bool}

/-! ## Position by position -/

/-- A further declaration does not change what is before the others. -/
theorem acceptedBy_concat (declarations : List Registry) (registry : Registry) :
    acceptedBy accept (declarations ++ [registry]) =
      acceptedBy accept declarations ++
        if accept declarations registry then [registry] else [] := by
  have unchanged : declarations.zipIdx.filter (fun (other, i) =>
        accept ((declarations ++ [registry]).take i) other) =
      declarations.zipIdx.filter fun (other, i) => accept (declarations.take i) other := by
    refine List.filter_congr ?_
    rintro ⟨other, i⟩ member
    have bound : i ≤ declarations.length := by
      have := List.snd_lt_of_mem_zipIdx member
      omega
    simp only [List.take_append_of_le_length bound]
  rw [acceptedBy, List.zipIdx_append, List.filter_append, unchanged, List.map_append]
  by_cases accepted : accept declarations registry <;> simp [acceptedBy, accepted]

theorem acceptedBy_sublist (declarations : List Registry) :
    (acceptedBy accept declarations).Sublist declarations := by
  have part : (acceptedBy accept declarations).Sublist (declarations.zipIdx.map Prod.fst) :=
    List.filter_sublist.map _
  rwa [List.zipIdx_map_fst] at part

@[simp] theorem firsts_nil : firsts [] = [] := rfl

theorem firsts_concat (declarations : List Registry) (registry : Registry) :
    firsts (declarations ++ [registry]) =
      firsts declarations ++
        if Declares declarations registry.name then [] else [registry] := by
  rw [firsts, acceptedBy_concat]
  by_cases known : Declares declarations registry.name <;> simp [firsts, known]

theorem repeats_concat (declarations : List Registry) (registry : Registry) :
    repeats (declarations ++ [registry]) =
      repeats declarations ++
        if Declares declarations registry.name then [registry] else [] := by
  rw [repeats, acceptedBy_concat]
  simp [repeats]

theorem firsts_sublist (declarations : List Registry) :
    (firsts declarations).Sublist declarations :=
  acceptedBy_sublist declarations

theorem length_repeats_add_length_firsts (declarations : List Registry) :
    (repeats declarations).length + (firsts declarations).length = declarations.length := by
  induction declarations using List.reverseRecOn with
  | nil => rfl
  | append_singleton declarations registry ih =>
      rw [firsts_concat, repeats_concat]
      split <;> simp <;> omega

/-- Every name keeps one of its declarations. -/
theorem declares_firsts : Declares (firsts declarations) name ↔ Declares declarations name := by
  induction declarations using List.reverseRecOn with
  | nil => rfl
  | append_singleton declarations registry ih =>
      rw [Declares] at ih
      rw [firsts_concat]
      split
      · next known =>
          simp only [Declares, List.append_nil, List.map_append, List.mem_append, List.map_cons,
            List.map_nil, List.mem_singleton, ih]
          exact ⟨.inl, fun declared => declared.elim id fun same => same ▸ known⟩
      · simp [Declares, ih]

/-- Only first declarations are found in a search by name. -/
theorem find?_firsts (declarations : List Registry) (name : String) :
    (firsts declarations).find? (fun registry => registry.name = name) =
      declarations.find? fun registry => registry.name = name := by
  induction declarations using List.reverseRecOn with
  | nil => rfl
  | append_singleton declarations registry ih =>
      rw [firsts_concat, List.find?_append, List.find?_append, ih]
      split
      · next known =>
          by_cases same : registry.name = name
          · obtain ⟨first, member, named⟩ := List.mem_map.mp known
            have found : (declarations.find? fun registry => registry.name = name).isSome := by
              rw [List.find?_isSome]
              exact ⟨first, member, by simp [named, same]⟩
            obtain ⟨found, first⟩ := Option.isSome_iff_exists.mp found
            simp [first]
          · simp [same]
      · rfl

/-- Behind other declarations, those count that are new to them. -/
theorem firsts_append (declarations more : List Registry) :
    firsts (declarations ++ more) =
      firsts declarations ++
        (firsts more).filter fun registry => ¬ Declares declarations registry.name := by
  induction more using List.reverseRecOn with
  | nil => simp
  | append_singleton more registry ih =>
      rw [← List.append_assoc, firsts_concat, firsts_concat, ih]
      have either : Declares (declarations ++ more) registry.name ↔
          Declares declarations registry.name ∨ Declares more registry.name := by
        simp [Declares]
      by_cases known : Declares declarations registry.name <;>
        by_cases later : Declares more registry.name <;> simp [either, known, later]

theorem firsts_of_nodup (distinct : (declarations.map Registry.name).Nodup) :
    firsts declarations = declarations := by
  refine (firsts_sublist declarations).eq_of_length_le ?_
  have subset : declarations.map Registry.name ⊆ (firsts declarations).map Registry.name :=
    fun _ declared => declares_firsts.mpr declared
  simpa using (List.subperm_of_subset distinct subset).length_le

/-! ## The views of a catalog -/

/-- What a catalog lists, names and answers is the same set of registries. -/
structure Coherent (catalog : Catalog) : Prop where
  names_eq : catalog.names = catalog.toList.map Registry.name
  nodup_names : catalog.names.Nodup
  get?_eq_some : ∀ name registry, catalog.get? name = some registry ↔
    registry ∈ catalog.toList ∧ registry.name = name
  contains_iff : ∀ name, catalog.contains name ↔ ∃ registry, catalog.get? name = some registry
  size_eq : catalog.size = catalog.toList.length
  isEmpty_iff : catalog.isEmpty ↔ catalog.size = 0

theorem contains_iff_mem_names : catalog.contains name ↔ name ∈ catalog.names :=
  catalog.registries.contains_iff_mem_keys name

theorem Named.get?_eq_some (named : catalog.Named) :
    catalog.get? name = some registry ↔ registry ∈ catalog.toList ∧ registry.name = name := by
  constructor
  · intro found
    exact ⟨mem_toList_of_get? found, named.name_eq found⟩
  · rintro ⟨listed, rfl⟩
    have known : catalog.contains registry.name := by
      rw [contains_iff_mem_names, ← named.names_eq]
      exact List.mem_map_of_mem listed
    obtain ⟨other, found⟩ : ∃ other, catalog.get? registry.name = some other :=
      Option.isSome_iff_exists.mp (catalog.registries.contains_eq_isSome_get? _ ▸ known)
    have same : other = registry := List.inj_on_of_nodup_map named.nodup
      (mem_toList_of_get? found) listed (named.name_eq found)
    rw [found, same]

theorem Named.coherent (named : catalog.Named) : catalog.Coherent where
  names_eq := named.names_eq.symm
  nodup_names := catalog.registries.nodup_keys
  get?_eq_some _ _ := named.get?_eq_some
  contains_iff name := by
    rw [← Option.isSome_iff_exists]
    exact Bool.coe_iff_coe.mpr (catalog.registries.contains_eq_isSome_get? name)
  size_eq := (List.length_map _).symm
  isEmpty_iff := List.isEmpty_iff_length_eq_zero

/-! ## The catalog of a list -/

theorem declareAll_concat (declarations : List Registry) (registry : Registry) :
    catalog.declareAll (declarations ++ [registry]) =
      (((catalog.declareAll declarations).1.declare registry).1,
        (catalog.declareAll declarations).2 ++
          ((catalog.declareAll declarations).1.declare registry).2) := by
  induction declarations generalizing catalog with
  | nil => simp [declareAll]
  | cons first rest ih => simp [declareAll, ih]

theorem build_concat (declarations : List Registry) (registry : Registry) :
    build (declarations ++ [registry]) =
      (((build declarations).1.declare registry).1,
        (build declarations).2 ++ ((build declarations).1.declare registry).2) :=
  declareAll_concat declarations registry

/-- A catalog that has the names of some declarations takes up another one if its name is new. -/
theorem declare_of_declares
    (known : ∀ name, catalog.contains name ↔ Declares declarations name) (registry : Registry) :
    (catalog.declare registry).1.registries.entries =
        catalog.registries.entries ++
          (if Declares declarations registry.name then [] else [(registry.name, registry)]) ∧
      (catalog.declare registry).2 =
        if Declares declarations registry.name then [duplicateWarning registry] else [] := by
  unfold declare
  by_cases declared : Declares declarations registry.name
  · simp [(known registry.name).mpr declared, declared]
  · have unknown : ¬ catalog.contains registry.name := mt (known registry.name).mp declared
    have new : registry.name ∉ catalog.registries.entries.map Prod.fst :=
      mt contains_iff_mem_names.mpr unknown
    simp [unknown, declared, OrderedMap.upsert_of_not_mem new]

/-- A catalog holds the first declarations, and reports the others. -/
theorem build_entries (declarations : List Registry) :
    (build declarations).1.registries.entries =
        (firsts declarations).map (fun registry => (registry.name, registry)) ∧
      (build declarations).2 = (repeats declarations).map duplicateWarning := by
  induction declarations using List.reverseRecOn with
  | nil => exact ⟨rfl, rfl⟩
  | append_singleton declarations registry ih =>
      have known : ∀ name, (build declarations).1.contains name ↔ Declares declarations name := by
        intro name
        rw [contains_iff_mem_names, ← declares_firsts, names, OrderedMap.keys, ih.1, List.map_map]
        rfl
      obtain ⟨entries, log⟩ := declare_of_declares known registry
      rw [build_concat, firsts_concat, repeats_concat, entries, log, ih.1, ih.2]
      split <;> simp

theorem toList_build (declarations : List Registry) :
    (build declarations).1.toList = firsts declarations := by
  simp [toList, OrderedMap.values, (build_entries declarations).1, Function.comp_def]

theorem get?_build (declarations : List Registry) (name : String) :
    (build declarations).1.get? name =
      declarations.find? fun registry => registry.name = name := by
  rw [← find?_firsts, get?, OrderedMap.get?, (build_entries declarations).1, List.find?_map,
    Option.map_map]
  exact Option.map_id'

/-- Where no name is declared twice, the order of the declarations is the order of the catalog and
nothing else. -/
theorem build_of_perm {permuted : List Registry} (permutes : permuted.Perm declarations)
    (distinct : (declarations.map Registry.name).Nodup) :
    (build permuted).1.toList = permuted ∧
      ∀ name, (build permuted).1.get? name = (build declarations).1.get? name := by
  have distinct' : (permuted.map Registry.name).Nodup :=
    (permutes.map Registry.name).nodup_iff.mpr distinct
  have kept : (build permuted).1.toList = permuted :=
    (toList_build permuted).trans (firsts_of_nodup distinct')
  have kept' : (build declarations).1.toList = declarations :=
    (toList_build declarations).trans (firsts_of_nodup distinct)
  refine ⟨kept, fun name => Option.ext fun registry => ?_⟩
  rw [(named_build permuted).get?_eq_some, (named_build declarations).get?_eq_some, kept, kept',
    permutes.mem_iff]

/-- The catalog of a list of declarations holds the first declaration of every name, under that
name and in the order of first occurrence, and all its views agree. A name is answered with its
first declaration, or not at all if it is not declared. Every other declaration is reported once, in
order. Appended declarations come behind, so far as their names are new; and where no name is
declared twice, declarations can be permuted without any effect but on the order. -/
theorem build_keeps_first (declarations : List Registry) :
    let catalog := (build declarations).1
    let log := (build declarations).2
    catalog.registries.entries =
        (firsts declarations).map (fun registry => (registry.name, registry)) ∧
      catalog.Coherent ∧
      (∀ name, catalog.get? name = declarations.find? fun registry => registry.name = name) ∧
      (∀ name, catalog.get? name = none ↔ ¬ Declares declarations name) ∧
      log = (repeats declarations).map duplicateWarning ∧
      log.length + catalog.size = declarations.length ∧
      (∀ more, (build (declarations ++ more)).1.registries.entries =
        catalog.registries.entries ++
          (build more).1.registries.entries.filter fun entry =>
            ¬ Declares declarations entry.1) ∧
      ∀ permuted, permuted.Perm declarations → (declarations.map Registry.name).Nodup →
        (build permuted).1.toList = permuted ∧
          ∀ name, (build permuted).1.get? name = catalog.get? name := by
  intro catalog log
  obtain ⟨entries, reported⟩ := build_entries declarations
  have coherent : catalog.Coherent := (named_build declarations).coherent
  refine ⟨entries, coherent, get?_build declarations, ?_, reported, ?_, ?_, ?_⟩
  · intro name
    simp [catalog, get?_build, Declares]
  · rw [coherent.size_eq, toList_build, show log = _ from reported, List.length_map]
    exact length_repeats_add_length_firsts declarations
  · intro more
    simp only [catalog, (build_entries _).1, firsts_append, List.map_append, List.filter_map]
    rfl
  · intro permuted permutes distinct
    exact build_of_perm permutes distinct

end Packfile.Catalog
