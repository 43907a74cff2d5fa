import Packfile.Registry.Catalog

/-!
# Names in a catalog

A catalog is a map, so its keys are distinct; and every registry stands under its own name, since
this is how declarations are added. Together this makes the names of the listed registries distinct.
-/

namespace Packfile

theorem OrderedMap.mem_upsert {α : Type} {key : String} {value : α}
    {entries : List (String × α)} {entry : String × α} (member : entry ∈ upsert key value entries) :
    entry = (key, value) ∨ entry ∈ entries := by
  induction entries with
  | nil => exact .inl (List.mem_singleton.mp member)
  | cons first rest ih =>
      simp only [upsert] at member
      split at member
      · rcases List.mem_cons.mp member with same | member
        · exact .inl same
        · exact .inr (List.mem_cons_of_mem _ member)
      · rcases List.mem_cons.mp member with same | member
        · exact .inr (same ▸ List.mem_cons_self)
        · exact (ih member).imp_right (List.mem_cons_of_mem _)

namespace Catalog

variable {catalog : Catalog}

/-- Every registry stands under its own name. -/
def Named (catalog : Catalog) : Prop :=
  ∀ entry ∈ catalog.registries.entries, entry.1 = entry.2.name

theorem named_empty : (∅ : Catalog).Named := by
  intro entry member
  cases member

theorem Named.declare (named : catalog.Named) (registry : Registry) :
    (catalog.declare registry).1.Named := by
  unfold Catalog.declare
  split
  · exact named
  · intro entry member
    rcases OrderedMap.mem_upsert member with rfl | member
    · rfl
    · exact named entry member

theorem Named.declareAll (named : catalog.Named) (declarations : List Registry) :
    (catalog.declareAll declarations).1.Named := by
  induction declarations generalizing catalog with
  | nil => exact named
  | cons registry rest ih => exact ih (named.declare registry)

theorem named_build (declarations : List Registry) : (build declarations).1.Named :=
  named_empty.declareAll declarations

theorem Named.names_eq (named : catalog.Named) :
    catalog.toList.map Registry.name = catalog.names := by
  simp only [toList, names, OrderedMap.values, OrderedMap.keys, List.map_map]
  refine List.map_congr_left ?_
  intro entry member
  exact (named entry member).symm

/-- The listed registries have distinct names. -/
theorem Named.nodup (named : catalog.Named) : (catalog.toList.map Registry.name).Nodup := by
  rw [named.names_eq]
  exact catalog.registries.nodup_keys

/-! ## Looking registries up -/

variable {name : String} {registry : Registry}

theorem mem_entries_of_get? (found : catalog.get? name = some registry) :
    (name, registry) ∈ catalog.registries.entries :=
  (catalog.registries.get?_eq_some_iff name registry).mp found

theorem mem_toList_of_get? (found : catalog.get? name = some registry) :
    registry ∈ catalog.toList :=
  List.mem_map_of_mem (mem_entries_of_get? found)

theorem Named.name_eq (named : catalog.Named) (found : catalog.get? name = some registry) :
    registry.name = name :=
  (named _ (mem_entries_of_get? found)).symm

end Catalog

end Packfile
