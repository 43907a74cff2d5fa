import Mathlib.Data.List.Induction
import Packfile.Proofs.Environment.Growth

/-!
# What a load assigns

The assignments of a file are read one after the other. A reference in a value finds the latest
assignment before it in the file, and otherwise what the store had before the file was loaded. What
the store takes up follows the opposite rule: it keeps the variables that it has, and of several
assignments to another name the first counts. A load returns the number of names gained, or stops at
the first line that is refused with everything taken up from the lines before it.
-/

namespace Packfile.Dotenv

variable {store after : EnvironmentStore} {assignments : List (String × String)} {name : String}

theorem firstValue?_append (xs ys : List (String × String)) (name : String) :
    firstValue? (xs ++ ys) name = (firstValue? xs name).or (firstValue? ys name) := by
  simp only [firstValue?, List.find?_append]
  cases xs.find? fun entry => entry.1 = name <;> rfl

theorem firstValue?_eq_none :
    firstValue? assignments name = none ↔ ∀ entry ∈ assignments, entry.1 ≠ name := by
  simp [firstValue?]

/-- What a reference finds after assignments of a file. -/
def lookupAfter (store : EnvironmentStore) (assignments : List (String × String)) (name : String) :
    Option String :=
  (firstValue? assignments.reverse name).or (store.get? name)

/-- Lines with the assignments that they make, each read after the ones before it. -/
inductive Reads (store : EnvironmentStore) : List (List Char) → List (String × String) → Prop
  | nil : Reads store [] []
  | snoc {lines : List (List Char)} {assignments : List (String × String)} {line : List Char}
      {assignment : String × String} (earlier : Reads store lines assignments)
      (read : readLine (lookupAfter store assignments) line = .ok (some assignment)) :
      Reads store (lines ++ [line]) (assignments ++ [assignment])

/-- The store has taken up assignments: what it had is unchanged, and any other name has the value
of the first assignment to it. -/
def TakesUp (store : EnvironmentStore) (assignments : List (String × String))
    (after : EnvironmentStore) : Prop :=
  ∀ name, after.get? name = (store.get? name).or (firstValue? assignments name)

/-- There is only one such store. -/
theorem TakesUp.unique {other : EnvironmentStore} (first : TakesUp store assignments after)
    (second : TakesUp store assignments other) : after = other :=
  EnvironmentStore.ext_get? fun name => (first name).trans (second name).symm

/-! ## The state of a load -/

namespace Loading

/-- A load has come past lines that make these assignments. -/
structure Past (store : EnvironmentStore) (assignments : List (String × String))
    (state : Loading) : Prop where
  assigned : state.assigned = assignments.reverse
  takesUp : TakesUp store assignments state.store
  added : state.store.size = store.size + state.added

variable {state : Loading} {lines rest : List (List Char)} {line : List Char}

theorem past_nil (store : EnvironmentStore) : Past store [] { store } where
  assigned := rfl
  takesUp _ := (Option.or_none).symm
  added := rfl

/-- Before the store, a reference sees every assignment of the file, so it makes no difference to it
that the store has taken some of them up. -/
theorem Past.lookup (past : Past store assignments state) :
    state.lookup = lookupAfter store assignments := by
  funext name
  rw [Loading.lookup, lookupAfter, past.assigned, past.takesUp]
  cases latest : firstValue? assignments.reverse name with
  | some value => rfl
  | none =>
      have absent : firstValue? assignments name = none := by
        rw [firstValue?_eq_none] at latest ⊢
        simpa using latest
      rw [absent, Option.or_none]

theorem Past.assign (past : Past store assignments state) (key value : String) :
    Past store (assignments ++ [(key, value)]) (state.assign key value) where
  assigned := by simp [Loading.assign, past.assigned]
  takesUp := by
    intro name
    have before := past.takesUp name
    rw [firstValue?_append, ← Option.or_assoc, ← before]
    by_cases same : key = name
    · subst same
      cases known : state.store.contains key with
      | true =>
          obtain ⟨old, found⟩ := Option.isSome_iff_exists.mp known
          simp [Loading.assign, known, found]
      | false =>
          have missing : state.store.get? key = none := Option.not_isSome_iff_eq_none.mp (by
            simpa [EnvironmentStore.contains] using known)
          simp [Loading.assign, known, missing, firstValue?]
    · have other : firstValue? [(key, value)] name = none := by simp [firstValue?, same]
      rw [other, Option.or_none, Loading.assign]
      split
      · rfl
      · rw [EnvironmentStore.get?_set, if_neg same]
  added := by
    have before := past.added
    cases known : state.store.contains key with
    | true => simp [Loading.assign, known, before]
    | false =>
        simp only [Loading.assign, known, Bool.false_eq_true, if_false,
          EnvironmentStore.size_set_of_not_contains known, before, Nat.add_assoc]

/-! ## Reading lines -/

theorem addLines_of_reads (reads : Reads store lines assignments) :
    ∃ state, addLines { store } lines = (state, none) ∧ Past store assignments state := by
  induction reads with
  | nil => exact ⟨{ store }, rfl, past_nil store⟩
  | snoc _ read ih =>
      obtain ⟨state, all, past⟩ := ih
      refine ⟨_, ?_, past.assign _ _⟩
      simp only [addLines_append, all, addLines, addLine, past.lookup, read]

theorem addLines_of_refused {fault : Fault} (reads : Reads store lines assignments)
    (refused : readLine (lookupAfter store assignments) line = .error fault) :
    ∃ state, addLines { store } (lines ++ line :: rest) = (state, some fault) ∧
      Past store assignments state := by
  obtain ⟨state, all, past⟩ := addLines_of_reads reads
  refine ⟨state, ?_, past⟩
  simp only [addLines_append, all, addLines, addLine, past.lookup, refused]

theorem result_of_none {read : Loading × Option Fault} (all : read.2 = none) :
    result read = (.ok read.1.added, read.1.store) := by
  obtain ⟨state, fault⟩ := read
  subst all
  rfl

/-- Whether lines are all read depends on the lines alone. -/
theorem addLines_eq_none :
    (state.addLines lines).2 = none ↔
      ∀ line ∈ lines, ∃ found, readLine (fun _ => none) line = .ok found := by
  induction lines generalizing state with
  | nil => simp [addLines]
  | cons line rest ih =>
      rw [List.forall_mem_cons, addLines]
      cases added : state.addLine line with
      | error fault =>
          have refused : readLine (fun _ => none) line = .error fault :=
            readLine_eq_error.mp (addLine_eq_error.mp added)
          simp [refused]
      | ok next =>
          have read : ∃ found, readLine (fun _ => none) line = .ok found :=
            exists_ok_of_ok added fun _ refused =>
              addLine_eq_error.mpr (readLine_eq_error.mp refused)
          simp [ih, read]

end Loading

/-- The lines of a file are all read, or there is a first one that is refused. -/
theorem reads_or_refused (store : EnvironmentStore) (lines : List (List Char))
    (assigning : ∀ line ∈ lines, Line.isAssignment line) :
    (∃ assignments, Reads store lines assignments) ∨
      ∃ before line rest assignments fault, lines = before ++ line :: rest ∧
        Reads store before assignments ∧
        readLine (lookupAfter store assignments) line = .error fault := by
  induction lines using List.reverseRecOn with
  | nil => exact .inl ⟨[], .nil⟩
  | append_singleton lines line ih =>
      rcases ih fun other member => assigning other (List.mem_append_left _ member) with
        ⟨assignments, reads⟩ | ⟨before, other, rest, assignments, fault, split, reads, refused⟩
      · cases read : readLine (lookupAfter store assignments) line with
        | error fault => exact .inr ⟨lines, line, [], assignments, fault, rfl, reads, read⟩
        | ok found =>
            cases found with
            | none =>
                have idle := readLine_eq_none.mp read
                rw [assigning line (by simp)] at idle
                cases idle
            | some assignment => exact .inl ⟨_, reads.snoc read⟩
      · exact .inr ⟨before, other, rest ++ [line], assignments, fault, by simp [split], reads,
          refused⟩

/-! ## Loading -/

variable {fs : FileSystem} {process : ProcessEnvironment} {path text : String}

/-- There is one entry for every line that is neither blank nor a comment. -/
theorem length_entries (process : ProcessEnvironment) (earlier : List (String × String))
    (lines : List (List Char)) :
    (Entry.ofLines process earlier lines).length = (lines.filter Line.isAssignment).length := by
  induction lines generalizing earlier with
  | nil => rfl
  | cons line rest ih =>
      cases parsed : Line.parse line with
      | error e =>
          simp [Entry.ofLines, parsed, Line.isAssignment_of_refused parsed, ih]
      | ok found =>
          cases found with
          | none => simp [Entry.ofLines, parsed, Line.parse_eq_none.mp parsed, ih]
          | some assignment =>
              rw [List.filter_cons_of_pos (Line.isAssignment_of_parse parsed)]
              simp only [Entry.ofLines, parsed]
              split <;> simp [ih]

theorem loadText_of_addLines {state : Loading} {fault : Option Fault}
    (read : Loading.addLines { store } (assignmentLines text) = (state, fault)) :
    loadText process store text = Loading.result (state, fault) := by
  rw [loadText_eq, ← Loading.addLines_filter, ← read]
  rfl

theorem loadText_of_reads (process : ProcessEnvironment)
    (reads : Reads store (assignmentLines text) assignments) :
    ∃ count, (loadText process store text).1 = .ok count ∧
      (loadText process store text).2.size = store.size + count ∧
      TakesUp store assignments (loadText process store text).2 := by
  obtain ⟨state, read, past⟩ := Loading.addLines_of_reads reads
  rw [loadText_of_addLines read]
  exact ⟨state.added, rfl, past.added, past.takesUp⟩

theorem loadText_of_refused {before rest : List (List Char)} {line : List Char} {fault : Fault}
    (process : ProcessEnvironment) (split : assignmentLines text = before ++ line :: rest)
    (reads : Reads store before assignments)
    (refused : readLine (lookupAfter store assignments) line = .error fault) :
    (loadText process store text).1 = .error fault ∧
      TakesUp store assignments (loadText process store text).2 := by
  obtain ⟨state, read, past⟩ := Loading.addLines_of_refused reads refused
  rw [loadText_of_addLines (split ▸ read)]
  exact ⟨rfl, past.takesUp⟩

/-- A file that has been loaded can be loaded again and adds nothing. -/
theorem load_again {count : Nat} (process' : ProcessEnvironment)
    (loaded : (load fs process store path).1 = .ok count) :
    load fs process' (load fs process store path).2 path =
      (.ok 0, (load fs process store path).2) := by
  have known := load_knownFile loaded
  obtain ⟨text, found, accepted⟩ := load_eq_ok.mp loaded
  generalize (load fs process store path).2 = after at known ⊢
  have all : (Loading.addLines { store := after } (Text.lines text.toList)).2 = none :=
    Loading.addLines_eq_none.mpr (Loading.addLines_eq_none.mp (addLines_of_loadText accepted))
  obtain ⟨same, nothing⟩ :
      (Loading.addLines { store := after } (Text.lines text.toList)).1.store = after ∧
        (Loading.addLines { store := after } (Text.lines text.toList)).1.added = 0 :=
    Loading.addLines_of_known (known text found)
  rw [load_of_readText found, loadText_eq, Loading.result_of_none all, same, nothing]
  rfl

/-- A load agrees with reading its lines one by one. If they are all read, it succeeds with the
number of names gained, and the store has taken up their assignments; loading the file once more
then adds nothing and changes nothing. At the first line that is refused the load fails with the
fault of that line, and the store is what a file of the lines before it leaves. One of the two is
always the case, and the lines are those that the plain rules give an entry for or refuse. -/
theorem load_eq_reading (fs : FileSystem) (process : ProcessEnvironment)
    (store : EnvironmentStore) (path text : String) (found : fs.readText path = .ok text) :
    let lines := assignmentLines text
    let loaded := load fs process store path
    (Entry.ofLines process [] (Text.lines text.toList)).length = lines.length ∧
    (∀ assignments, Reads store lines assignments →
      ∃ count, loaded.1 = .ok count ∧ loaded.2.size = store.size + count ∧
        TakesUp store assignments loaded.2 ∧
        ∀ process', load fs process' loaded.2 path = (.ok 0, loaded.2)) ∧
    (∀ before line rest assignments fault, lines = before ++ line :: rest →
      Reads store before assignments →
      readLine (lookupAfter store assignments) line = .error fault →
      loaded.1 = .error ⟨path, fault⟩ ∧ TakesUp store assignments loaded.2 ∧
        ∀ process' alone, assignmentLines alone = before →
          ∃ count, loadText process' store alone = (.ok count, loaded.2)) ∧
    ((∃ assignments, Reads store lines assignments) ∨
      ∃ before line rest assignments fault, lines = before ++ line :: rest ∧
        Reads store before assignments ∧
        readLine (lookupAfter store assignments) line = .error fault) := by
  intro lines loaded
  have whole : loaded = ((loadText process store text).1.mapError (FileError.mk path),
      (loadText process store text).2) := load_of_readText found
  refine ⟨length_entries process [] _, ?_, ?_, reads_or_refused store lines fun line member =>
    (List.mem_filter.mp member).2⟩
  · intro assignments reads
    obtain ⟨count, accepted, gained, takesUp⟩ := loadText_of_reads process reads
    have outcome : loaded.1 = .ok count := load_eq_ok.mpr ⟨text, found, accepted⟩
    refine ⟨count, outcome, ?_, ?_, fun process' => load_again process' outcome⟩
    · rw [whole]
      exact gained
    · rw [whole]
      exact takesUp
  · intro before line rest assignments fault split reads refused
    obtain ⟨rejected, takesUp⟩ := loadText_of_refused process split reads refused
    rw [whole, rejected]
    refine ⟨rfl, takesUp, ?_⟩
    rintro process' alone rfl
    obtain ⟨count, accepted, _, takesUp'⟩ := loadText_of_reads process' reads
    exact ⟨count, Prod.ext accepted (takesUp'.unique takesUp)⟩

/-- A file that assigns to a name twice and reads it afterwards. -/
def reassigning : FileSystem where
  entries := [(["dc.env"], .file "DC=$REGION-1\n# fallback\nDC=b\nSITE=$DC\n".toUTF8 0o644)]
  current := []

/-- The first of the two assignments is what the store takes, and the second is what the reference
finds. -/
theorem load_eq_reading_reassigning :
    let store := EnvironmentStore.ofList [("REGION", "eu")]
    let assignments := [("DC", "eu-1"), ("DC", "b"), ("SITE", "b")]
    let loaded := load reassigning [] store "dc.env"
    reassigning.readText "dc.env" = .ok "DC=$REGION-1\n# fallback\nDC=b\nSITE=$DC\n" ∧
    Reads store ["DC=$REGION-1".toList, "DC=b".toList, "SITE=$DC".toList] assignments ∧
    loaded.1 = .ok 2 ∧ TakesUp store assignments loaded.2 ∧
    ∀ process', load reassigning process' loaded.2 "dc.env" = (.ok 0, loaded.2) := by
  intro store assignments loaded
  have found : reassigning.readText "dc.env" =
      .ok "DC=$REGION-1\n# fallback\nDC=b\nSITE=$DC\n" := by decide +kernel
  have lines : assignmentLines "DC=$REGION-1\n# fallback\nDC=b\nSITE=$DC\n" =
      ["DC=$REGION-1".toList, "DC=b".toList, "SITE=$DC".toList] := by decide +kernel
  have first : Reads store ["DC=$REGION-1".toList] [("DC", "eu-1")] :=
    Reads.nil.snoc (by decide +kernel)
  have second : Reads store ["DC=$REGION-1".toList, "DC=b".toList] [("DC", "eu-1"), ("DC", "b")] :=
    first.snoc (by decide +kernel)
  have reads : Reads store ["DC=$REGION-1".toList, "DC=b".toList, "SITE=$DC".toList] assignments :=
    second.snoc (by decide +kernel)
  obtain ⟨_, _, _, takesUp, again⟩ :=
    (load_eq_reading reassigning [] store "dc.env" _ found).2.1 assignments (lines ▸ reads)
  have two : loaded.1 = .ok 2 := by decide +kernel
  exact ⟨found, reads, two, takesUp, again⟩

end Packfile.Dotenv
