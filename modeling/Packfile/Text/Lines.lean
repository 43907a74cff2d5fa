/-!
# Lines and separated fields

A line ends at a newline, or at a carriage return followed by a newline; a carriage return
anywhere else belongs to its line. A newline at the very end of the text opens no further line.
-/

namespace Packfile.Text

/-- The lines of a text, without their ends. -/
def lines : List Char → List (List Char)
  | [] => []
  | '\n' :: rest => [] :: lines rest
  | '\r' :: '\n' :: rest => [] :: lines rest
  | c :: rest =>
    match lines rest with
    | [] => [[c]]
    | first :: others => (c :: first) :: others

/-- The fields between the separators: one more than there are separators, some perhaps empty. -/
def fields (separator : Char) : List Char → List (List Char)
  | [] => [[]]
  | c :: rest =>
    if c = separator then [] :: fields separator rest
    else
      match fields separator rest with
      | [] => [[c]]
      | first :: others => (c :: first) :: others

/-- The fields of a string. -/
def splitFields (separator : Char) (s : String) : List String :=
  (fields separator s.toList).map String.ofList

/-- Cuts the text at the first separator; `none` if there is none. -/
def splitAtFirst (separator : Char) : List Char → Option (List Char × List Char)
  | [] => none
  | c :: rest =>
    if c = separator then some ([], rest)
    else (splitAtFirst separator rest).map fun (before, after) => (c :: before, after)

/-- Whether one text occurs in another. -/
def occursIn (needle : List Char) : List Char → Bool
  | [] => needle.isEmpty
  | c :: rest => needle.isPrefixOf (c :: rest) || occursIn needle rest

theorem fields_ne_nil (separator : Char) (s : List Char) : fields separator s ≠ [] := by
  cases s with
  | nil => simp [fields]
  | cons c rest =>
    simp only [fields]
    split
    · simp
    · split <;> simp

@[simp]
theorem lines_nil : lines [] = [] := rfl

/-- A newline ends a line even when the line is empty. -/
@[simp]
theorem lines_newline (rest : List Char) : lines ('\n' :: rest) = [] :: lines rest := by
  rw [lines]

end Packfile.Text
