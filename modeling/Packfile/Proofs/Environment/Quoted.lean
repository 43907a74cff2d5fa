import Packfile.Proofs.Environment.Load

/-!
# Quoting values

Any text can be the value of a variable in an environment file: in double quotes, with a backslash
before every quote, dollar and backslash, and with `\n` for every newline. Which way such a value
is read depends on it. Without a dollar the plain rules give its text, and with one it is expanded;
the two are separate readers, and both give the text back. So a file with one quoted line for each
entry of a map says what the map says.
-/

namespace Packfile.Dotenv

namespace Quoted

/-- A character as it is written in double quotes. -/
def escape (c : Char) : List Char :=
  if c = '\\' || c = '"' || c = '$' then ['\\', c]
  else if c = '\n' then ['\\', 'n']
  else [c]

/-- A text in double quotes. -/
def value (text : List Char) : List Char :=
  '"' :: (text.flatMap escape ++ ['"'])

/-- The line that assigns a text to a key. -/
def line (entry : String × String) : List Char :=
  entry.1.toList ++ '=' :: value entry.2.toList

/-- The file with the lines of some entries, each ended by a newline. -/
def file (entries : List (String × String)) : String :=
  String.ofList (entries.flatMap fun entry => line entry ++ ['\n'])

/-- Whether a name can be assigned to: it starts with a letter or an underscore, and goes on with
letters, digits, underscores and dots. -/
def isKey (name : String) : Bool :=
  match name.toList with
  | [] => false
  | c :: rest => Line.isKeyStart c && rest.all Line.isKeyChar

variable {lookup : String → Option String} {text : List Char} {c : Char}

/-! ## Values -/

/-- A character is written as an escape that stands for it, or as itself if it means nothing else in
double quotes. -/
theorem escape_cases (c : Char) :
    (∃ d, escape c = ['\\', d] ∧ Value.unescape d = some c) ∨
      (escape c = [c] ∧ c ≠ '\\' ∧ c ≠ '"' ∧ c ≠ '$' ∧ c ≠ '\n') := by
  by_cases backslash : c = '\\'
  · exact .inl ⟨c, by simp [escape, backslash], by subst backslash; decide⟩
  by_cases quote : c = '"'
  · exact .inl ⟨c, by simp [escape, quote], by subst quote; decide⟩
  by_cases dollar : c = '$'
  · exact .inl ⟨c, by simp [escape, dollar], by subst dollar; decide⟩
  by_cases newline : c = '\n'
  · exact .inl ⟨'n', by simp [escape, newline], by subst newline; decide⟩
  exact .inr ⟨by simp [escape, *], backslash, quote, dollar, newline⟩

theorem decodeFrom_escapes (i : Nat) :
    Value.decodeFrom lookup .double i (text.flatMap escape ++ ['"']) = .ok text := by
  induction text generalizing i with
  | nil => rfl
  | cons c text ih =>
      rw [List.flatMap_cons, List.append_assoc]
      rcases escape_cases c with ⟨d, written, stands⟩ | ⟨written, backslash, quote, dollar, _⟩
      · simp [written, Value.decodeFrom, stands, Value.Mode.outer, ih]
      · simp [written, Value.decodeFrom, backslash, quote, dollar, ih]

/-- The plain rules read a quoted text. -/
theorem decode_value : Value.decode lookup (value text) = .ok text := by
  rw [Value.decode, value]
  exact decodeFrom_escapes 1

theorem expandFrom_escapes :
    Expansion.expandFrom lookup (some .double) (text.flatMap escape ++ ['"']) = .ok text := by
  induction text with
  | nil => simp [Expansion.expandFrom]
  | cons c text ih =>
      rw [List.flatMap_cons, List.append_assoc]
      rcases escape_cases c with ⟨d, written, stands⟩ | ⟨written, backslash, quote, dollar, _⟩
      · rw [written, List.cons_append, Expansion.expandFrom_escape (by simp)]
        simp [Expansion.escaped, stands, ih]
      · rw [written, List.cons_append, List.nil_append, Expansion.expandFrom]
        simp [backslash, quote, dollar, ih]

/-- Expanding a quoted text finds no reference in it. -/
theorem expand_value : Expansion.expand lookup (value text) = .ok text := by
  rw [Expansion.expand, value, Expansion.expandFrom]
  simp [expandFrom_escapes]

/-! ## Lines -/

variable {entry : String × String} {entries : List (String × String)}

theorem newline_not_mem_escape (c : Char) : '\n' ∉ escape c := by
  rcases escape_cases c with ⟨d, written, stands⟩ | ⟨written, _, _, _, newline⟩
  · have different : d ≠ '\n' := by
      rintro rfl
      cases stands
    simp [written, different.symm]
  · simp [written, newline.symm]

theorem isBlank_of_isKeyChar (key : Line.isKeyChar c) : Text.isBlank c = false := by
  simp only [Line.isKeyChar, Bool.or_eq_true, decide_eq_true_eq] at key
  rcases key with (ascii | rfl) | rfl
  · exact Text.isBlank_of_isAlphanum ascii
  · decide
  · decide

theorem isKeyChar_of_isKeyStart (start : Line.isKeyStart c) : Line.isKeyChar c := by
  simp only [Line.isKeyStart, Bool.or_eq_true] at start
  rcases start with letter | underscore
  · simp [Line.isKeyChar, Char.isAlphanum, letter]
  · simp [Line.isKeyChar, underscore]

theorem exists_of_isKey {name : String} (key : isKey name) :
    ∃ c rest, name.toList = c :: rest ∧ Line.isKeyStart c ∧
      ∀ d ∈ c :: rest, Line.isKeyChar d := by
  unfold isKey at key
  split at key
  · cases key
  · next c rest characters =>
      rw [Bool.and_eq_true, List.all_eq_true] at key
      refine ⟨c, rest, characters, key.1, ?_⟩
      intro d member
      rcases List.mem_cons.mp member with rfl | member
      · exact isKeyChar_of_isKeyStart key.1
      · exact key.2 d member

/-- A value as it stands in a line: there is nothing to be trimmed from it, and it is no comment. -/
structure IsValue (value : List Char) : Prop where
  trimmed : Text.trim value = value
  nonempty : value ≠ []
  noComment : value.head? ≠ some '#'

/-- The key of a line ends at its equals sign, and its value is all that follows. -/
theorem parse_assignment {name : String} {value : List Char} (key : isKey name)
    (isValue : IsValue value) :
    Line.parse (name.toList ++ '=' :: value) = .ok (some ⟨name, value⟩) := by
  obtain ⟨c, rest, characters, start, all⟩ := exists_of_isKey key
  generalize whole : name.toList ++ '=' :: value = line
  have first : line = c :: (rest ++ '=' :: value) := by
    rw [← whole, characters, List.cons_append]
  obtain ⟨v, more, filled⟩ := List.exists_cons_of_ne_nil isValue.nonempty
  have valueStart : Text.trimStart value = value := by
    have solid : Text.isBlank v = false :=
      Text.isBlank_of_head?_trim (s := value) (by rw [isValue.trimmed, filled]; rfl)
    rw [filled]
    exact Text.trimStart_cons_of_not_blank solid more
  have untrimmed : Text.trimEnd line = line := by
    have last := List.getLast?_eq_some_getLast isValue.nonempty
    have solid : Text.isBlank (value.getLast isValue.nonempty) = false :=
      Text.isBlank_of_getLast?_trim (s := value) (by rw [isValue.trimmed, last])
    have split : line = (name.toList ++ '=' :: value.dropLast) ++
        [value.getLast isValue.nonempty] := by
      rw [← whole, List.append_assoc, List.cons_append, List.dropLast_append_getLast]
    rw [split]
    exact Text.trimEnd_append_of_not_blank _ solid
  have trimmed : Text.trimStart line = line := by
    rw [first]
    exact Text.trimStart_cons_of_not_blank (isBlank_of_isKeyChar (all c List.mem_cons_self)) _
  have busy : Line.isIdle line = false := by
    have different : c ≠ '#' := by
      rintro rfl
      revert start
      decide
    simp [first, Line.isIdle, different]
  have found : Line.key? line = some (name.toList, '=' :: value) := by
    have stop : Line.isKeyChar '=' = false := by decide
    have before : line.takeWhile Line.isKeyChar = name.toList := by
      rw [← whole, characters, List.takeWhile_append_of_pos all]
      simp [stop]
    have after : line.dropWhile Line.isKeyChar = '=' :: value := by
      rw [← whole, characters, List.dropWhile_append_of_pos all]
      simp [stop]
    have next : Text.trimStart ('=' :: value) = '=' :: value :=
      Text.trimStart_cons_of_not_blank (by decide) _
    rw [← next, ← after, ← before, first]
    simp [Line.key?, start]
  have raw : Line.value value = value := by
    rw [Line.value, valueStart]
    simp [Line.isIdle, isValue.nonempty, isValue.noComment]
  simp [Line.parse, untrimmed, trimmed, busy, found, raw]

/-- A quoted text begins and ends with its quotes. -/
theorem isValue_value (text : List Char) : IsValue (value text) where
  trimmed := by
    have ends : value text = ('"' :: text.flatMap escape) ++ ['"'] := rfl
    have start : Text.trimStart (value text) = value text :=
      Text.trimStart_cons_of_not_blank (by decide) _
    rw [Text.trim, start, ends]
    exact Text.trimEnd_append_of_not_blank _ (by decide)
  nonempty := List.cons_ne_nil _ _
  noComment := by simp [value]

theorem parse_line (key : isKey entry.1) :
    Line.parse (line entry) = .ok (some ⟨entry.1, value entry.2.toList⟩) :=
  parse_assignment key (isValue_value _)

/-- Whichever of the two readers a line is for, it assigns its text. -/
theorem readLine_line (key : isKey entry.1) (lookup : String → Option String) :
    readLine lookup (line entry) = .ok (some entry) := by
  have plain : Entry.ofAssignment (fun _ => none) ⟨entry.1, value entry.2.toList⟩ = .ok entry := by
    simp [Entry.ofAssignment, decode_value]
  simp only [readLine, parse_line key, plain, expand_value, String.ofList_toList]
  split <;> rfl

theorem newline_not_mem_key {name : String} (key : isKey name) : '\n' ∉ name.toList := by
  obtain ⟨c, rest, characters, _, all⟩ := exists_of_isKey key
  rw [characters]
  intro member
  have impossible := all '\n' member
  revert impossible
  decide

theorem newline_not_mem_line (key : isKey entry.1) : '\n' ∉ line entry := by
  have quoted : '\n' ∉ entry.2.toList.flatMap escape := by
    rw [List.mem_flatMap]
    rintro ⟨d, _, member⟩
    exact newline_not_mem_escape d member
  simp [line, value, newline_not_mem_key key, quoted]

theorem getLast?_line : (line entry).getLast? = some '"' := by
  have ends : line entry =
      (entry.1.toList ++ '=' :: '"' :: entry.2.toList.flatMap escape) ++ ['"'] := by
    simp [line, value]
  rw [ends, List.getLast?_concat]

/-! ## Files -/

/-- The lines of a file are those that it was written from. -/
theorem lines_file (keys : ∀ entry ∈ entries, isKey entry.1) :
    Text.lines (file entries).toList = entries.map line := by
  rw [file, String.toList_ofList]
  induction entries with
  | nil => rfl
  | cons entry entries ih =>
      obtain ⟨key, others⟩ := List.forall_mem_cons.mp keys
      have ends : (line entry).getLast? ≠ some '\r' := by
        rw [getLast?_line]
        decide
      rw [List.flatMap_cons, List.append_assoc, List.singleton_append,
        Text.lines_append (newline_not_mem_line key) ends, ih others, List.map_cons]

theorem assignmentLines_file (keys : ∀ entry ∈ entries, isKey entry.1) :
    assignmentLines (file entries) = entries.map line := by
  rw [assignmentLines, lines_file keys, List.filter_eq_self]
  intro written member
  obtain ⟨entry, source, rfl⟩ := List.mem_map.mp member
  exact Line.isAssignment_of_parse (parse_line (keys entry source))

/-- No line looks anything up, so each assigns its entry after any others. -/
theorem reads_lines (store : EnvironmentStore) (keys : ∀ entry ∈ entries, isKey entry.1) :
    Reads store (entries.map line) entries := by
  induction entries using List.reverseRecOn with
  | nil => exact .nil
  | append_singleton entries entry ih =>
      have earlier : Reads store (entries.map line) entries :=
        ih fun other member => keys other (List.mem_append_left _ member)
      rw [List.map_append, List.map_singleton]
      exact earlier.snoc (readLine_line (keys entry (by simp)) _)

end Quoted

/-- Quoting loses nothing. Whatever the values of a map are, a load of the file with one quoted line
for each of its entries succeeds in every store, and adds exactly the entries whose keys the store
lacks, each with its own value. -/
theorem load_quoted (fs : FileSystem) (process : ProcessEnvironment) (store : EnvironmentStore)
    (path : String) (entries : OrderedMap String) (keys : ∀ key ∈ entries.keys, Quoted.isKey key)
    (found : fs.readText path = .ok (Quoted.file entries.entries)) :
    ∃ count after, load fs process store path = (.ok count, after) ∧
      after.size = store.size + count ∧
      ∀ name, after.get? name = (store.get? name).or (entries.get? name) := by
  have keys' : ∀ entry ∈ entries.entries, Quoted.isKey entry.1 := fun entry member =>
    keys entry.1 (List.mem_map_of_mem member)
  have reads : Reads store (assignmentLines (Quoted.file entries.entries)) entries.entries := by
    rw [Quoted.assignmentLines_file keys']
    exact Quoted.reads_lines store keys'
  obtain ⟨count, accepted, gained, takesUp⟩ := loadText_of_reads process reads
  refine ⟨count, (loadText process store (Quoted.file entries.entries)).2, ?_, gained, takesUp⟩
  rw [load_of_readText found, accepted]
  rfl

/-- Values that look like references, comments, quotes and assignments. -/
def intricate : OrderedMap String where
  entries := [
    ("export", "$HOME \\$\x7bHOME\x7d\n'"),
    ("DC.1", " \"a\" # b\r\nC=d\\"),
    ("_", "# none")]
  nodup := by decide

/-- A file that holds the values of `intricate`. -/
def intricateFiles : FileSystem where
  entries := [(["a.env"], .file (Quoted.file intricate.entries).toUTF8 0o644)]
  current := []

/-- A value that the store has stays, though the file has another. -/
theorem load_quoted_intricate :
    let store := EnvironmentStore.ofList [("_", "kept")]
    (∀ key ∈ intricate.keys, Quoted.isKey key) ∧
    intricateFiles.readText "a.env" = .ok (Quoted.file intricate.entries) ∧
    ∃ count after, load intricateFiles [("HOME", .text "/")] store "a.env" = (.ok count, after) ∧
      after.size = store.size + count ∧
      ∀ name, after.get? name = (store.get? name).or (intricate.get? name) := by
  intro store
  have keys : ∀ key ∈ intricate.keys, Quoted.isKey key := by decide
  have found : intricateFiles.readText "a.env" = .ok (Quoted.file intricate.entries) := by
    decide +kernel
  exact ⟨keys, found, load_quoted intricateFiles _ store "a.env" intricate keys found⟩

end Packfile.Dotenv
