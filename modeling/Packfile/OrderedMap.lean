/-!
# Maps that remember the order of insertion

Environments, variables and registries are looked up by name and listed in the order in which they
were declared. A key that is inserted again keeps its place and takes the new value. No two entries
have the same key, and the type says so.
-/

namespace Packfile

/-- Values by name, in the order in which the names were first inserted. -/
structure OrderedMap (α : Type) where
  /-- The entries in order. -/
  entries : List (String × α)
  /-- No name occurs twice. -/
  nodup : (entries.map Prod.fst).Nodup

namespace OrderedMap

variable {α β : Type}

/-- Replaces the value of the key where it stands, or appends the entry. -/
def upsert (key : String) (value : α) : List (String × α) → List (String × α)
  | [] => [(key, value)]
  | entry :: rest =>
    if entry.1 = key then (key, value) :: rest else entry :: upsert key value rest

theorem map_fst_upsert (key : String) (value : α) (entries : List (String × α)) :
    (upsert key value entries).map Prod.fst =
      if key ∈ entries.map Prod.fst then entries.map Prod.fst
      else entries.map Prod.fst ++ [key] := by
  induction entries with
  | nil => simp [upsert]
  | cons entry rest ih =>
    by_cases h : entry.1 = key
    · simp [upsert, h]
    · have h' : ¬ key = entry.1 := fun e => h e.symm
      simp only [upsert, if_neg h, List.map_cons, List.mem_cons, h', false_or, ih]
      split <;> simp

theorem upsert_of_not_mem {key : String} {value : α} {entries : List (String × α)}
    (new : key ∉ entries.map Prod.fst) : upsert key value entries = entries ++ [(key, value)] := by
  induction entries with
  | nil => rfl
  | cons entry rest ih =>
    rw [List.map_cons] at new
    have different : entry.1 ≠ key := (List.ne_of_not_mem_cons new).symm
    rw [upsert, if_neg different, ih (List.not_mem_of_not_mem_cons new)]
    rfl

theorem nodup_upsert (key : String) (value : α) {entries : List (String × α)}
    (h : (entries.map Prod.fst).Nodup) : ((upsert key value entries).map Prod.fst).Nodup := by
  rw [map_fst_upsert]
  split
  · exact h
  · next absent =>
    refine List.nodup_append.2 ⟨h, by simp, ?_⟩
    intro a ha b hb e
    rw [List.mem_singleton] at hb
    exact absent (hb ▸ e ▸ ha)

/-- The map without entries. -/
def empty : OrderedMap α :=
  ⟨[], List.nodup_nil⟩

instance : Inhabited (OrderedMap α) := ⟨empty⟩

instance : EmptyCollection (OrderedMap α) := ⟨empty⟩

/-- Two maps are equal when they list the same entries in the same order. -/
theorem ext {m n : OrderedMap α} (h : m.entries = n.entries) : m = n := by
  cases m; cases n; simp_all

instance [DecidableEq α] : DecidableEq (OrderedMap α) := fun m n =>
  if h : m.entries = n.entries then isTrue (ext h) else isFalse fun e => h (e ▸ rfl)

/-- A map with one entry. -/
def singleton (key : String) (value : α) : OrderedMap α :=
  ⟨[(key, value)], by simp⟩

/-- Gives the key a value; a key that is already there keeps its place. -/
def insert (m : OrderedMap α) (key : String) (value : α) : OrderedMap α :=
  ⟨upsert key value m.entries, nodup_upsert key value m.nodup⟩

/-- Inserts the entries one after the other, so the last value of a repeated key counts. -/
def ofList (entries : List (String × α)) : OrderedMap α :=
  entries.foldl (fun m entry => m.insert entry.1 entry.2) empty

/-- The value of the key. -/
def get? (m : OrderedMap α) (key : String) : Option α :=
  (m.entries.find? fun entry => entry.1 = key).map Prod.snd

/-- Whether the key has a value. -/
def contains (m : OrderedMap α) (key : String) : Bool :=
  m.entries.any fun entry => entry.1 = key

/-- The keys in order. -/
def keys (m : OrderedMap α) : List String :=
  m.entries.map Prod.fst

/-- The values in order of their keys. -/
def values (m : OrderedMap α) : List α :=
  m.entries.map Prod.snd

/-- The number of entries. -/
def size (m : OrderedMap α) : Nat :=
  m.entries.length

/-- Whether there are no entries. -/
def isEmpty (m : OrderedMap α) : Bool :=
  m.entries.isEmpty

/-- Changes every value and no key. -/
def map (f : α → β) (m : OrderedMap α) : OrderedMap β :=
  ⟨m.entries.map fun entry => (entry.1, f entry.2), by
    simpa [List.map_map, Function.comp_def] using m.nodup⟩

/-- Changes the values of a list of entries one after the other, up to the first failure. -/
def traverseEntries {ε : Type} (f : String → α → Except ε β) :
    List (String × α) → Except ε (List (String × β))
  | [] => .ok []
  | entry :: rest => do
    let value ← f entry.1 entry.2
    let others ← traverseEntries f rest
    .ok ((entry.1, value) :: others)

theorem map_fst_traverseEntries {ε : Type} {f : String → α → Except ε β}
    {entries : List (String × α)} {results : List (String × β)}
    (h : traverseEntries f entries = .ok results) :
    results.map Prod.fst = entries.map Prod.fst := by
  induction entries generalizing results with
  | nil => cases h; rfl
  | cons entry rest ih =>
    simp only [traverseEntries, bind, Except.bind] at h
    cases hv : f entry.1 entry.2 with
    | error e => simp [hv] at h
    | ok value =>
      cases hr : traverseEntries f rest with
      | error e => simp [hv, hr] at h
      | ok others =>
        simp only [hv, hr, Except.ok.injEq] at h
        subst h
        simp [ih hr]

/-- Changes every value and no key, up to the first failure. -/
def traverse {ε : Type} (f : String → α → Except ε β) (m : OrderedMap α) :
    Except ε (OrderedMap β) :=
  match h : traverseEntries f m.entries with
  | .error e => .error e
  | .ok entries => .ok ⟨entries, map_fst_traverseEntries h ▸ m.nodup⟩

@[simp]
theorem entries_empty : (∅ : OrderedMap α).entries = [] := rfl

@[simp]
theorem entries_insert (m : OrderedMap α) (key : String) (value : α) :
    (m.insert key value).entries = upsert key value m.entries := rfl

@[simp]
theorem entries_map (f : α → β) (m : OrderedMap α) :
    (m.map f).entries = m.entries.map fun entry => (entry.1, f entry.2) := rfl

theorem keys_insert (m : OrderedMap α) (key : String) (value : α) :
    (m.insert key value).keys = if key ∈ m.keys then m.keys else m.keys ++ [key] :=
  map_fst_upsert key value m.entries

theorem nodup_keys (m : OrderedMap α) : m.keys.Nodup :=
  m.nodup

@[simp]
theorem get?_empty (key : String) : (∅ : OrderedMap α).get? key = none := rfl

theorem get?_insert (m : OrderedMap α) (key other : String) (value : α) :
    (m.insert key value).get? other = if key = other then some value else m.get? other := by
  simp only [get?, entries_insert]
  induction m.entries with
  | nil => simp only [upsert, List.find?_cons]; split <;> simp_all
  | cons entry rest ih =>
    by_cases h : entry.1 = key
    · simp only [upsert, if_pos h, List.find?_cons]
      by_cases hk : key = other <;> simp_all
    · simp only [upsert, if_neg h, List.find?_cons]
      by_cases ho : entry.1 = other
      · have : ¬ key = other := fun e => h (ho.trans e.symm)
        simp [ho, this]
      · simpa [ho] using ih

/-- A key is found exactly where it is listed. -/
theorem get?_eq_some_iff (m : OrderedMap α) (key : String) (value : α) :
    m.get? key = some value ↔ (key, value) ∈ m.entries := by
  obtain ⟨entries, nodup⟩ := m
  simp only [get?]
  induction entries with
  | nil => simp
  | cons entry rest ih =>
    obtain ⟨absent, nodup⟩ := List.nodup_cons.1 nodup
    by_cases h : entry.1 = key
    · subst h
      simp only [List.find?_cons, decide_true, Option.map_some, Option.some.injEq, List.mem_cons]
      refine ⟨fun same => .inl (Prod.ext rfl same.symm), ?_⟩
      rintro (same | member)
      · exact (congrArg Prod.snd same).symm
      · exact absurd (List.mem_map_of_mem member) absent
    · simp only [List.find?_cons, h, decide_false, List.mem_cons]
      rw [ih nodup]
      refine ⟨.inr, ?_⟩
      rintro (same | member)
      · exact absurd (congrArg Prod.fst same).symm h
      · exact member

theorem get?_eq_none_iff (m : OrderedMap α) (key : String) :
    m.get? key = none ↔ key ∉ m.keys := by
  simp only [get?, keys, Option.map_eq_none_iff, List.find?_eq_none, decide_eq_true_eq,
    List.mem_map, not_exists, not_and]

theorem contains_eq_isSome_get? (m : OrderedMap α) (key : String) :
    m.contains key = (m.get? key).isSome := by
  simp only [contains, get?, Option.isSome_map]
  induction m.entries with
  | nil => rfl
  | cons entry rest ih =>
    by_cases h : entry.1 = key <;> simp_all

theorem contains_iff_mem_keys (m : OrderedMap α) (key : String) :
    m.contains key ↔ key ∈ m.keys := by
  simp [contains, keys, List.any_eq_true]

end OrderedMap

end Packfile
