import Packfile.Dotenv.Load
import Packfile.Proofs.Environment.Lookup
import Packfile.Proofs.Text

/-!
# Environment files line by line

A load goes through the entries of a file and, beside them, through its lines that are neither blank
nor comments. The two stay in step: a line gives an entry or is refused exactly if it is one of
these lines, and what it has after its first equals sign is the value that its entry was read from.
So a load is a loop over the lines in which each line speaks for itself. The environment of the
process has no part in that loop: a value without a dollar does not refer to it, and for one with a
dollar the text of the entry is dropped.
-/

namespace Packfile.Dotenv

namespace Line

variable {line s key rest : List Char} {assignment : Assignment}

theorem not_mem_of_forall {p : Char → Bool} (all : ∀ c ∈ s, p c) (excluded : p '=' = false) :
    '=' ∉ s := by
  intro member
  rw [all _ member] at excluded
  cases excluded

/-- Between a key and the next word there are only blanks. -/
theorem key?_eq_some (found : key? s = some (key, rest)) :
    ∃ gap, s = key ++ gap ++ rest ∧ '=' ∉ key ++ gap := by
  cases s with
  | nil => cases found
  | cons c tail =>
      simp only [key?] at found
      split at found
      · obtain ⟨rfl, rfl⟩ := Prod.mk.inj (Option.some.inj found)
        obtain ⟨gap, blank, split⟩ := Text.exists_trimStart ((c :: tail).dropWhile isKeyChar)
        refine ⟨gap, ?_, ?_⟩
        · rw [List.append_assoc, ← split]
          exact List.takeWhile_append_dropWhile.symm
        · rw [List.mem_append, not_or]
          exact ⟨not_mem_of_forall (fun _ => List.mem_takeWhile_imp) (by decide),
            not_mem_of_forall blank (by decide)⟩
      · cases found

/-- A line that is passed over is blank or a comment. -/
theorem parse_eq_none : parse line = .ok none ↔ isAssignment line = false := by
  have trimmed : Text.trimStart (Text.trimEnd line) = Text.trim line :=
    (Text.trimEnd_trimStart line).symm
  unfold parse isAssignment
  simp only [trimmed]
  cases isIdle (Text.trim line) with
  | true => simp
  | false =>
      simp only [Bool.false_eq_true, if_false, Bool.not_false, reduceCtorEq, iff_false]
      -- without `export` there are three endings, and three more behind it
      split
      · simp
      · simp
      · split
        · split <;> simp
        · simp

theorem isAssignment_of_parse (parsed : parse line = .ok (some assignment)) :
    isAssignment line := by
  rw [← Bool.not_eq_false, ← parse_eq_none, parsed]
  simp

theorem isAssignment_of_refused {e : LineError} (refused : parse line = .error e) :
    isAssignment line := by
  rw [← Bool.not_eq_false, ← parse_eq_none, refused]
  simp

/-- The value of an assignment follows the first equals sign of the line. -/
theorem parse_eq_some (parsed : parse line = .ok (some assignment)) :
    ∃ before after, Text.trimStart (Text.trimEnd line) = before ++ '=' :: after ∧
      '=' ∉ before ∧ assignment.value = value after := by
  unfold parse at parsed
  simp only at parsed
  split at parsed
  · cases parsed
  · split at parsed
    · cases parsed
    · next key after found =>
        cases parsed
        obtain ⟨gap, split, absent⟩ := key?_eq_some found
        exact ⟨key ++ gap, after, split, absent, rfl⟩
    · next key rest _ found =>
        obtain ⟨gap, split, absent⟩ := key?_eq_some found
        split at parsed
        · split at parsed
          · cases parsed
          · next exported after found' =>
              cases parsed
              obtain ⟨gap', split', absent'⟩ := key?_eq_some found'
              refine ⟨(key ++ gap) ++ (exported ++ gap'), after, ?_, ?_, rfl⟩
              · rw [split, split', List.append_assoc (key ++ gap)]
              · rw [List.mem_append, not_or]
                exact ⟨absent, absent'⟩
          · cases parsed
        · cases parsed

/-- What is read again from a line is the value that was parsed. -/
theorem rawValue?_of_parse (parsed : parse line = .ok (some assignment)) :
    (rawValue? line).getD [] = assignment.value := by
  obtain ⟨before, after, start, absent, same⟩ := parse_eq_some parsed
  obtain ⟨lead, blank, front⟩ := Text.exists_trimStart (Text.trimEnd line)
  obtain ⟨tail, _, back⟩ := Text.exists_trimEnd line
  have whole : line = (lead ++ before) ++ '=' :: (after ++ tail) := by
    rw [back, front, start]
    simp
  have trimmed : Text.trimEnd (after ++ tail) = after := by
    have ends : Text.trimEnd line = (lead ++ before) ++ '=' :: Text.trimEnd (after ++ tail) := by
      rw [whole]
      exact Text.trimEnd_append_cons (by decide) _ _
    rw [front, start, ← List.append_assoc] at ends
    exact (List.cons.inj (List.append_cancel_left ends)).2.symm
  have first : Text.splitAtFirst '=' line = some (lead ++ before, after ++ tail) := by
    rw [whole]
    refine Text.splitAtFirst_of_not_mem ?_
    rw [List.mem_append, not_or]
    exact ⟨not_mem_of_forall blank (by decide), absent⟩
  have text : Text.trim (after ++ tail) = Text.trimStart after := by
    rw [Text.trim, Text.trimEnd_trimStart, trimmed]
  rw [same, rawValue?, first, value]
  simp only [text]
  cases Text.trimStart after with
  | nil => rfl
  | cons c rest =>
      by_cases comment : c = '#' <;> simp [isIdle, comment]

end Line

/-! ## One line -/

/-- What a line assigns, given what references find: nothing if it is blank or a comment. The value
has to be well formed under the plain rules; it is expanded if it holds a dollar, and its plain text
otherwise. -/
def readLine (lookup : String → Option String) (line : List Char) :
    Except Fault (Option (String × String)) :=
  match Line.parse line with
  | .error e => .error (.line e)
  | .ok none => .ok none
  | .ok (some assignment) =>
    match Entry.ofAssignment (fun _ => none) assignment with
    | .error e => .error (.line e)
    | .ok entry =>
      if assignment.value.contains '$' then
        match Expansion.expand lookup assignment.value with
        | .ok value => .ok (some (assignment.key, String.ofList value))
        | .error fault => .error (.expansion assignment.key fault)
      else .ok (some entry)

section ReadLine

variable {lookup other : String → Option String} {line : List Char} {key value : String}

theorem readLine_eq_none :
    readLine lookup line = .ok none ↔ Line.isAssignment line = false := by
  rw [← Line.parse_eq_none]
  unfold readLine
  split
  · next parsed => simp [parsed]
  · next parsed => simp [parsed]
  · next assignment parsed =>
      simp only [parsed, Except.ok.injEq, reduceCtorEq, iff_false]
      repeat' split
      all_goals simp

theorem readLine_eq_some (read : readLine lookup line = .ok (some (key, value))) :
    ∃ assignment, Line.parse line = .ok (some assignment) ∧ assignment.key = key := by
  unfold readLine at read
  split at read
  · cases read
  · cases read
  · next assignment parsed =>
      refine ⟨assignment, parsed, ?_⟩
      split at read
      · cases read
      · next entry plain =>
          split at read
          · split at read <;> cases read
            rfl
          · cases read
            exact (Entry.key_of_ofAssignment plain).symm

/-- Whether a line is refused does not depend on what its references find. -/
theorem readLine_eq_error {fault : Fault} :
    readLine lookup line = .error fault ↔ readLine other line = .error fault := by
  unfold readLine
  split
  · rfl
  · simp
  · next assignment _ =>
      split
      · rfl
      · split
        · cases expanded : Expansion.expand lookup assignment.value with
          | error cause => rw [Expansion.expand_eq_error.mp expanded]
          | ok text =>
              obtain ⟨text', expanded'⟩ := Expansion.exists_expand_eq_ok other expanded
              simp [expanded']
        · simp

end ReadLine

namespace Loading

variable {state next : Loading} {line : List Char}

/-- The load after a line. -/
def addLine (state : Loading) (line : List Char) : Except Fault Loading :=
  match readLine state.lookup line with
  | .error fault => .error fault
  | .ok none => .ok state
  | .ok (some (key, value)) => .ok (state.assign key value)

/-- The load after lines, up to the first that is refused. -/
def addLines (state : Loading) : List (List Char) → Loading × Option Fault
  | [] => (state, none)
  | line :: rest =>
    match state.addLine line with
    | .ok next => addLines next rest
    | .error fault => (state, some fault)

/-- A line that is read is passed over or records an assignment. -/
theorem addLine_eq_ok (added : state.addLine line = .ok next) :
    (Line.isAssignment line = false ∧ next = state) ∨
      ∃ key value, readLine state.lookup line = .ok (some (key, value)) ∧
        next = state.assign key value := by
  unfold addLine at added
  split at added
  · cases added
  · next idle => exact .inl ⟨readLine_eq_none.mp idle, (Except.ok.inj added).symm⟩
  · next key value read => exact .inr ⟨key, value, read, (Except.ok.inj added).symm⟩

theorem addLine_eq_error {fault : Fault} :
    state.addLine line = .error fault ↔ readLine state.lookup line = .error fault := by
  unfold addLine
  split <;> simp_all

theorem addLine_of_not_isAssignment (idle : Line.isAssignment line = false) :
    state.addLine line = .ok state := by
  rw [addLine, readLine, Line.parse_eq_none.mpr idle]

theorem addLine_of_refused {e : LineError} (refused : Line.parse line = .error e) :
    state.addLine line = .error (.line e) := by
  rw [addLine, readLine, refused]

theorem value_of_mem {entry : String × String} {text : List Char} (dollar : '$' ∈ text) :
    state.value entry (some text) =
      match Expansion.expand state.lookup text with
      | .ok value => .ok (String.ofList value)
      | .error fault => .error (.expansion entry.1 fault) :=
  if_pos (List.contains_iff_mem.mpr dollar)

theorem value_of_not_mem {entry : String × String} {raw : Option (List Char)}
    (absent : '$' ∉ raw.getD []) : state.value entry raw = .ok entry.2 := by
  cases raw with
  | none => rfl
  | some text => simp_all [value]

/-- Taking up an entry beside its own line is reading that line, whatever the names in the entry
were looked up in. -/
theorem addEntry_of_parse (state : Loading) {assignment : Assignment} (lookup : String → Option String)
    (parsed : Line.parse line = .ok (some assignment)) :
    state.addEntry (Entry.ofAssignment lookup assignment) (some line) = state.addLine line := by
  have raw := Line.rawValue?_of_parse parsed
  simp only [addLine, readLine, parsed]
  cases read : Entry.ofAssignment lookup assignment with
  | error e =>
      rw [Entry.ofAssignment_eq_error.mp read]
      rfl
  | ok entry =>
      by_cases dollar : '$' ∈ assignment.value
      · obtain ⟨entry', read'⟩ := Entry.exists_ofAssignment_eq_ok (fun _ => none) read
        have key := Entry.key_of_ofAssignment read
        have text : Line.rawValue? line = some assignment.value := by
          cases same : Line.rawValue? line with
          | none =>
              rw [same] at raw
              rw [← raw] at dollar
              cases dollar
          | some text =>
              rw [same] at raw
              exact congrArg some raw
        simp only [addEntry, Option.bind_some, text, value_of_mem dollar, read', dollar,
          List.contains_iff_mem, if_true]
        cases Expansion.expand state.lookup assignment.value with
        | error fault => rw [key]; rfl
        | ok value => rw [key]; rfl
      · have plain := Entry.ofAssignment_of_not_mem (fun _ => none) lookup dollar
        have own : state.value entry (Line.rawValue? line) = .ok entry.2 :=
          value_of_not_mem (raw ▸ dollar)
        simp only [addEntry, Option.bind_some, own, plain, read, dollar, List.contains_iff_mem,
          if_false]
        rfl

/-- The entries of lines and the lines that are read beside them stay in step. -/
theorem addEntries_ofLines (process : ProcessEnvironment) (earlier : List (String × String))
    (state : Loading) (lines : List (List Char)) :
    state.addEntries (Entry.ofLines process earlier lines) (lines.filter Line.isAssignment) =
      state.addLines lines := by
  induction lines generalizing state earlier with
  | nil => rfl
  | cons line rest ih =>
      cases parsed : Line.parse line with
      | error e =>
          simp [Entry.ofLines, parsed, Line.isAssignment_of_refused parsed, addEntries, addEntry,
            addLines, addLine_of_refused parsed]
      | ok found =>
          cases found with
          | none =>
              have idle := Line.parse_eq_none.mp parsed
              simp [Entry.ofLines, parsed, idle, addLines, addLine_of_not_isAssignment idle, ih]
          | some assignment =>
              have same := state.addEntry_of_parse (Entry.lookup process earlier) parsed
              rw [List.filter_cons_of_pos (Line.isAssignment_of_parse parsed), addLines, ← same]
              simp only [Entry.ofLines, parsed]
              cases Entry.ofAssignment (Entry.lookup process earlier) assignment with
              | error e => rfl
              | ok entry =>
                  simp only [addEntries, List.head?_cons, List.tail_cons]
                  cases state.addEntry (.ok entry) (some line) with
                  | error fault => rfl
                  | ok next => exact ih _ _

theorem addLines_append (xs ys : List (List Char)) (state : Loading) :
    state.addLines (xs ++ ys) =
      match state.addLines xs with
      | (next, none) => next.addLines ys
      | stopped => stopped := by
  induction xs generalizing state with
  | nil => rfl
  | cons line rest ih =>
      simp only [List.cons_append, addLines]
      cases state.addLine line with
      | error fault => rfl
      | ok next => exact ih next

theorem addLines_filter (state : Loading) (lines : List (List Char)) :
    state.addLines (lines.filter Line.isAssignment) = state.addLines lines := by
  induction lines generalizing state with
  | nil => rfl
  | cons line rest ih =>
      cases assigning : Line.isAssignment line with
      | false => simp [assigning, addLines, addLine_of_not_isAssignment assigning, ih]
      | true =>
          simp only [List.filter_cons_of_pos assigning, addLines]
          cases state.addLine line with
          | error fault => rfl
          | ok next => exact ih next

end Loading

/-- The lines of a text that are neither blank nor comments. -/
def assignmentLines (text : String) : List (List Char) :=
  (Text.lines text.toList).filter Line.isAssignment

/-- A load reads the lines of a text one after the other. -/
theorem loadText_eq (process : ProcessEnvironment) (store : EnvironmentStore) (text : String) :
    loadText process store text =
      Loading.result (Loading.addLines { store } (Text.lines text.toList)) :=
  congrArg Loading.result (Loading.addEntries_ofLines process [] _ _)

theorem addLines_of_loadText {process : ProcessEnvironment} {store : EnvironmentStore}
    {text : String} {count : Nat} (accepted : (loadText process store text).1 = .ok count) :
    (Loading.addLines { store } (Text.lines text.toList)).2 = none := by
  rw [loadText_eq] at accepted
  generalize Loading.addLines { store } (Text.lines text.toList) = read at accepted ⊢
  obtain ⟨state, _ | fault⟩ := read
  · rfl
  · cases accepted

end Packfile.Dotenv
