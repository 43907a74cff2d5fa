import Packfile.Environment.Process

/-!
# The environment store

A snapshot of variables that templates read and environment files add to. It is a value of its own,
so a compilation never sees or changes the environment of the process. Entries are kept in
increasing order of their names, by code point, which is the order in which they are listed; two
stores that answer every look-up alike are equal.
-/

namespace Packfile

/-- Variables by name, in increasing order of the names. -/
structure EnvironmentStore where
  /-- The variables in order. -/
  entries : List (String × String)
  /-- The names increase, so no name occurs twice. -/
  sorted : entries.Pairwise fun a b => a.1 < b.1

namespace EnvironmentStore

theorem eq_of_not_lt {a b : String} (h : ¬ a < b) (h' : ¬ b < a) : a = b :=
  String.le_antisymm (String.not_lt.1 h') (String.not_lt.1 h)

/-- Puts a variable at its place in a sorted list, over an older value. -/
def place (name value : String) : List (String × String) → List (String × String)
  | [] => [(name, value)]
  | entry :: rest =>
    if name < entry.1 then (name, value) :: entry :: rest
    else if entry.1 < name then entry :: place name value rest
    else (name, value) :: rest

theorem mem_place {name value : String} {entries : List (String × String)} {x : String × String}
    (h : x ∈ place name value entries) : x = (name, value) ∨ x ∈ entries := by
  induction entries with
  | nil => simpa [place] using h
  | cons entry rest ih =>
    simp only [place] at h
    split at h
    · simpa using h
    · split at h
      · rcases List.mem_cons.1 h with h | h
        · exact .inr (h ▸ List.mem_cons_self)
        · exact (ih h).imp id (List.mem_cons_of_mem _)
      · rcases List.mem_cons.1 h with h | h
        · exact .inl h
        · exact .inr (List.mem_cons_of_mem _ h)

theorem sorted_place (name value : String) {entries : List (String × String)}
    (h : entries.Pairwise fun a b => a.1 < b.1) :
    (place name value entries).Pairwise fun a b => a.1 < b.1 := by
  induction entries with
  | nil => simp [place]
  | cons entry rest ih =>
    obtain ⟨head, tail⟩ := List.pairwise_cons.1 h
    simp only [place]
    split
    · next lt =>
      refine List.pairwise_cons.2 ⟨?_, h⟩
      intro b hb
      rcases List.mem_cons.1 hb with hb | hb
      · exact hb ▸ lt
      · exact String.lt_trans lt (head b hb)
    · next notLt =>
      split
      · next gt =>
        refine List.pairwise_cons.2 ⟨?_, ih tail⟩
        intro b hb
        rcases mem_place hb with hb | hb
        · exact hb ▸ gt
        · exact head b hb
      · next notGt =>
        have same : entry.1 = name := eq_of_not_lt notGt notLt
        exact List.pairwise_cons.2 ⟨fun b hb => same ▸ head b hb, tail⟩

/-- The store without variables. -/
def empty : EnvironmentStore :=
  ⟨[], List.Pairwise.nil⟩

instance : Inhabited EnvironmentStore := ⟨empty⟩

instance : EmptyCollection EnvironmentStore := ⟨empty⟩

theorem ext {s t : EnvironmentStore} (h : s.entries = t.entries) : s = t := by
  cases s; cases t; simp_all

instance : DecidableEq EnvironmentStore := fun s t =>
  if h : s.entries = t.entries then isTrue (ext h) else isFalse fun e => h (e ▸ rfl)

/-- Gives a variable a value, over an older one. -/
def set (store : EnvironmentStore) (name value : String) : EnvironmentStore :=
  ⟨place name value store.entries, sorted_place name value store.sorted⟩

/-- The value of a variable. -/
def get? (store : EnvironmentStore) (name : String) : Option String :=
  (store.entries.find? fun entry => entry.1 = name).map Prod.snd

/-- Whether a variable is set. -/
def contains (store : EnvironmentStore) (name : String) : Bool :=
  (store.get? name).isSome

/-- The number of variables. -/
def size (store : EnvironmentStore) : Nat :=
  store.entries.length

/-- Whether no variable is set. -/
def isEmpty (store : EnvironmentStore) : Bool :=
  store.entries.isEmpty

/-- The store of a list of variables, where the last value of a name counts. -/
def ofList (entries : List (String × String)) : EnvironmentStore :=
  entries.foldl (fun store entry => store.set entry.1 entry.2) empty

/-- The variables of a process whose values are text. Unlike a look-up in the process, a snapshot is
left with the last of two entries for a name. -/
def capture (process : ProcessEnvironment) : EnvironmentStore :=
  ofList (process.filterMap fun (name, value) => value.text?.map fun t => (name, t))

@[simp]
theorem get?_empty (name : String) : (∅ : EnvironmentStore).get? name = none := rfl

theorem find?_place (name value other : String) {entries : List (String × String)}
    (h : entries.Pairwise fun a b => a.1 < b.1) :
    ((place name value entries).find? fun entry => entry.1 = other).map Prod.snd =
      if name = other then some value
      else (entries.find? fun entry => entry.1 = other).map Prod.snd := by
  induction entries with
  | nil => by_cases hn : name = other <;> simp [place, hn]
  | cons entry rest ih =>
    obtain ⟨head, tail⟩ := List.pairwise_cons.1 h
    simp only [place]
    split
    · by_cases hn : name = other <;> simp [hn]
    · next notLt =>
      split
      · next gt =>
        by_cases he : entry.1 = other
        · have : ¬ name = other := fun e => String.lt_irrefl _ (he ▸ e ▸ gt)
          simp [he, this]
        · simpa [he] using ih tail
      · next notGt =>
        have same : entry.1 = name := eq_of_not_lt notGt notLt
        by_cases hn : name = other
        · simp [hn]
        · simp [hn, same]

theorem get?_set (store : EnvironmentStore) (name value other : String) :
    (store.set name value).get? other = if name = other then some value else store.get? other :=
  find?_place name value other store.sorted

@[simp]
theorem get?_set_self (store : EnvironmentStore) (name value : String) :
    (store.set name value).get? name = some value := by
  simp [get?_set]

theorem length_place_of_not_mem (name value : String) {entries : List (String × String)}
    (absent : name ∉ entries.map Prod.fst) :
    (place name value entries).length = entries.length + 1 := by
  induction entries with
  | nil => rfl
  | cons entry rest ih =>
    obtain ⟨different, later⟩ := not_or.1 (fun h => absent (List.mem_cons.2 h))
    simp only [place]
    split
    · rfl
    · next notLt =>
      split
      · simp [ih later]
      · next notGt => exact absurd (eq_of_not_lt notLt notGt) different

theorem get?_eq_some_iff (store : EnvironmentStore) (name value : String) :
    store.get? name = some value ↔ (name, value) ∈ store.entries := by
  obtain ⟨entries, sorted⟩ := store
  simp only [get?]
  induction entries with
  | nil => simp
  | cons entry rest ih =>
    obtain ⟨head, tail⟩ := List.pairwise_cons.1 sorted
    by_cases h : entry.1 = name
    · simp only [List.find?_cons, h, decide_true, Option.map_some, Option.some.injEq,
        List.mem_cons]
      refine ⟨fun e => .inl (by cases entry; simp_all), ?_⟩
      rintro (e | e)
      · exact (congrArg Prod.snd e).symm
      · exact absurd (head _ e) (h ▸ String.lt_irrefl _)
    · simp only [List.find?_cons, h, decide_false, List.mem_cons]
      rw [ih tail]
      refine ⟨.inr, ?_⟩
      rintro (e | e)
      · exact absurd (congrArg Prod.fst e).symm h
      · exact e

theorem contains_iff_mem (store : EnvironmentStore) (name : String) :
    store.contains name ↔ name ∈ store.entries.map Prod.fst := by
  simp [contains, Option.isSome_iff_exists, get?_eq_some_iff]

theorem size_set_of_not_contains {store : EnvironmentStore} {name : String}
    (absent : store.contains name = false) (value : String) :
    (store.set name value).size = store.size + 1 := by
  refine length_place_of_not_mem name value fun present => ?_
  rw [(contains_iff_mem store name).2 present] at absent
  cases absent

/-- The order fixes the list: stores with equal look-ups are equal. -/
theorem ext_get? {s t : EnvironmentStore} (h : ∀ name, s.get? name = t.get? name) : s = t := by
  refine ext ?_
  have mem : ∀ x, x ∈ s.entries ↔ x ∈ t.entries := by
    rintro ⟨name, value⟩
    rw [← get?_eq_some_iff, ← get?_eq_some_iff, h]
  have perm : s.entries.Perm t.entries := by
    have nodup : ∀ u : EnvironmentStore, u.entries.Nodup := fun u =>
      List.Pairwise.imp (S := (· ≠ ·))
        (fun {a b} lt (e : a = b) => String.lt_irrefl b.1 (e ▸ lt)) u.sorted
    exact (List.perm_ext_iff_of_nodup (nodup s) (nodup t)).2 mem
  exact perm.eq_of_pairwise (fun a b _ _ ab ba => absurd (String.lt_trans ab ba)
    (String.lt_irrefl _)) s.sorted t.sorted

end EnvironmentStore

end Packfile
