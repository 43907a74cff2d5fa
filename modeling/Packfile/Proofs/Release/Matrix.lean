import Packfile.Release.Expand

/-!
# The matrix of environments and releases

An expansion runs over the environments and, for each of them, over the releases. Both loops
together are one loop over the matrix: the list of all pairs of an environment with a release that
applies to it, environment by environment. What is said of the single loop by induction on the list
of pairs therefore holds of the expansion.
-/

namespace Packfile.Expansion

/-- An environment with a release that applies to it. -/
structure Pair where
  environment : String
  settings : ConnectionOverride
  release : Release

/-- The pairs of one environment, in the order of the releases. -/
def row (releases : List Release) (declared : String × ConnectionOverride) : List Pair :=
  (releases.filter fun release => release.appliesTo declared.1).map fun release =>
    { environment := declared.1, settings := declared.2, release }

/-- All pairs: environments in their order, and within each the releases in theirs. -/
def matrix (environments : OrderedMap ConnectionOverride) (releases : List Release) : List Pair :=
  environments.entries.flatMap (row releases)

/-- Continues an expansion in the store that it leaves, unless it has failed. -/
def followedBy {α : Type} (first : Expansion (List α))
    (next : EnvironmentStore → Expansion (List α)) : Expansion (List α) :=
  match first.outcome with
  | .error e => ⟨.error e, first.store, first.log⟩
  | .ok found =>
    let others := next first.store
    ⟨(found ++ ·) <$> others.outcome, others.store, first.log ++ others.log⟩

/-- The actions of pairs that are treated one after the other. -/
def expandPairs (setting : Setting) (store : EnvironmentStore) :
    List Pair → Expansion (List Action)
  | [] => ⟨.ok [], store, []⟩
  | pair :: rest =>
    let first := expandRelease setting pair.environment pair.settings store pair.release
    match first.outcome with
    | .error e => ⟨.error e, first.store, first.log⟩
    | .ok action =>
      let others := expandPairs setting first.store rest
      ⟨(action :: ·) <$> others.outcome, others.store, first.log ++ others.log⟩

variable {setting : Setting} {releases : List Release}

theorem expandPairs_append (xs ys : List Pair) (store : EnvironmentStore) :
    expandPairs setting store (xs ++ ys) =
      (expandPairs setting store xs).followedBy fun after => expandPairs setting after ys := by
  induction xs generalizing store with
  | nil =>
      simp only [List.nil_append, expandPairs, followedBy]
      cases expandPairs setting store ys with
      | mk outcome after log => cases outcome <;> rfl
  | cons pair rest ih =>
      simp only [List.cons_append, expandPairs]
      cases first : expandRelease setting pair.environment pair.settings store pair.release with
      | mk outcome after log =>
          cases outcome with
          | error e => rfl
          | ok action =>
              simp only [ih, followedBy]
              cases middle : expandPairs setting after rest with
              | mk found between log' =>
                  cases found with
                  | error e => simp [Functor.map, Except.map]
                  | ok actions =>
                      cases last : expandPairs setting between ys with
                      | mk others final log'' =>
                          cases others <;>
                            simp [Functor.map, Except.map]

/-- Skipping a release that does not apply is leaving its pair out. -/
theorem expandEnvironment_eq_expandPairs (declared : String × ConnectionOverride)
    (store : EnvironmentStore) :
    expandEnvironment setting declared.1 declared.2 store releases =
      expandPairs setting store (row releases declared) := by
  induction releases generalizing store with
  | nil => rfl
  | cons release rest ih =>
      by_cases applies : release.appliesTo declared.1
      · have first : row (release :: rest) declared =
            ⟨declared.1, declared.2, release⟩ :: row rest declared := by
          simp [row, applies]
        cases outcome :
            (expandRelease setting declared.1 declared.2 store release).outcome with
        | error e => simp [first, expandEnvironment, expandPairs, applies, outcome]
        | ok action => simp [first, expandEnvironment, expandPairs, applies, outcome, ih]
      · have skipped : row (release :: rest) declared = row rest declared := by
          simp [row, applies]
        simp only [skipped, expandEnvironment, applies, Bool.false_eq_true, if_false, ih]

theorem expandAll_eq_expandPairs (declared : List (String × ConnectionOverride))
    (store : EnvironmentStore) :
    expandAll setting releases store declared =
      expandPairs setting store (declared.flatMap (row releases)) := by
  induction declared generalizing store with
  | nil => rfl
  | cons environment rest ih =>
      rw [List.flatMap_cons, expandPairs_append, ← expandEnvironment_eq_expandPairs]
      simp only [expandAll, followedBy, ih]
      cases (expandEnvironment setting environment.1 environment.2 store releases).outcome <;> rfl

/-- The two loops of an expansion are one loop over the matrix. -/
theorem expand_eq_expandPairs (environments : OrderedMap ConnectionOverride)
    (releases : List Release) (store : EnvironmentStore) :
    expand setting environments releases store =
      expandPairs setting store (matrix environments releases) :=
  expandAll_eq_expandPairs environments.entries store

end Packfile.Expansion
