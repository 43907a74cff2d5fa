import Packfile.Yaml.Cursor

/-!
# The texts of scalars

A scalar is plain, quoted or a block. In plain and quoted scalars a single line end between two
words is read as a space and the first of several is dropped; space around line ends is not part of
the text. A block keeps its lines or folds them, and says what becomes of the line ends after the
last line.

Every reader here goes through the text character by character and gives the text of the scalar and
the place after it, or nothing if the scalar is not well formed.
-/

namespace Packfile.Yaml

/-- What stands between two words of a scalar. -/
inductive Gap where
  /-- Space within a line. -/
  | spaces (text : List Char)
  /-- Line ends: the first, unless it is escaped, and the others. -/
  | lines (first : Option Char) (others : List Char)
  deriving DecidableEq

namespace Gap

/-- Nothing between two characters. -/
def empty : Gap := .spaces []

/-- Whether there is nothing. -/
def isEmpty (gap : Gap) : Bool :=
  gap = empty

/-- Whether the gap extends over a line end. -/
def hasBreak : Gap → Bool
  | .spaces _ => false
  | .lines .. => true

/-- The gap followed by space. -/
def addSpace (gap : Gap) (c : Char) : Gap :=
  match gap with
  | .spaces text => .spaces (text ++ [c])
  | .lines .. => gap

/-- The gap followed by a line end. -/
def addBreak (gap : Gap) (c : Char) : Gap :=
  match gap with
  | .spaces _ => .lines (some c) []
  | .lines first others => .lines first (others ++ [c])

/-- What the gap contributes to the text. -/
def folded : Gap → List Char
  | .spaces text => text
  | .lines (some '\n') [] => [' ']
  | .lines (some '\n') others => others
  | .lines first others => first.toList ++ others

end Gap

/-- The text of a scalar and the place after it. -/
abbrev ScalarText := List Char × Cursor

/-! ## Plain scalars -/

/-- The characters that begin or end something inside brackets and braces. -/
def flowIndicators : List Char := [',', '[', ']', '{', '}']

/-- A plain scalar, and whether a line has ended after its last word. It ends before a comment, a
document marker, a colon that is followed by space, and, in a block, a line that is indented less
than the scalar has to be. -/
def readPlain (inFlow : Bool) (indent : Nat) :
    List Char → (line column : Nat) → Gap → (text : List Char) → Option (ScalarText × Bool)
  | [], line, column, gap, text => some ((text.reverse, ⟨[], line, column⟩), gap.hasBreak)
  | c :: rest, line, column, gap, text =>
    if isBreak c then readPlain inFlow indent rest (line + 1) 0 (gap.addBreak c) text
    else if isSpace c then
      if gap.hasBreak && column < indent && c = '\t' then none
      else readPlain inFlow indent rest line (column + 1) (gap.addSpace c) text
    else
      let ends := c = '#' || atDocumentMarker column (c :: rest) || (!inFlow && column < indent)
      let closed := (c = ':' && startsWithGap rest) || (inFlow && flowIndicators.contains c)
      if inFlow && c = ':' && rest.head?.any fun d => d = '?' || flowIndicators.contains d then
        none
      else if (!gap.isEmpty && ends) || closed then
        some ((text.reverse, ⟨c :: rest, line, column⟩), gap.hasBreak)
      else
        readPlain inFlow indent rest line (column + 1) .empty (c :: (gap.folded.reverse ++ text))

/-! ## Quoted scalars -/

/-- The rest of a scalar in single quotes, in which a doubled quote stands for one. -/
def readSingleQuoted :
    List Char → (line column : Nat) → Gap → (text : List Char) → Option ScalarText
  | [], _, _, _, _ => none
  | c :: rest, line, column, gap, text =>
    if isBreak c then readSingleQuoted rest (line + 1) 0 (gap.addBreak c) text
    else if isSpace c then readSingleQuoted rest line (column + 1) (gap.addSpace c) text
    else if atDocumentMarker column (c :: rest) then none
    else
      let before := gap.folded.reverse ++ text
      if c = '\'' then
        match rest with
        | '\'' :: rest => readSingleQuoted rest line (column + 2) .empty ('\'' :: before)
        | rest => some (before.reverse, ⟨rest, line, column + 1⟩)
      else readSingleQuoted rest line (column + 1) .empty (c :: before)

/-- The character that a letter stands for after a backslash. -/
def escapedCharacter : Char → Option Char
  | '0' => some '\x00'
  | 'a' => some '\x07'
  | 'b' => some '\x08'
  | 't' | '\t' => some '\t'
  | 'n' => some '\n'
  | 'v' => some '\x0b'
  | 'f' => some '\x0c'
  | 'r' => some '\r'
  | 'e' => some '\x1b'
  | ' ' => some ' '
  | '"' => some '"'
  | '/' => some '/'
  | '\\' => some '\\'
  | 'N' => some '\u0085'
  | '_' => some '\u00a0'
  | 'L' => some '\u2028'
  | 'P' => some '\u2029'
  | _ => none

/-- The number of hexadecimal digits that follow a letter after a backslash. -/
def escapeDigits : Char → Option Nat
  | 'x' => some 2
  | 'u' => some 4
  | 'U' => some 8
  | _ => none

/-- The value of a hexadecimal digit. -/
def hexDigit? (c : Char) : Option Nat :=
  if '0' ≤ c && c ≤ '9' then some (c.toNat - '0'.toNat)
  else if 'a' ≤ c && c ≤ 'f' then some (c.toNat - 'a'.toNat + 10)
  else if 'A' ≤ c && c ≤ 'F' then some (c.toNat - 'A'.toNat + 10)
  else none

/-- The character with a code. -/
def characterOf? (code : Nat) : Option Char :=
  if h : code.isValidChar then some (Char.ofNatAux code h) else none

/-- How far the reader of a scalar in double quotes is inside an escape. -/
inductive Escape where
  | outside
  /-- After a backslash. -/
  | begun
  /-- Before a number of hexadecimal digits, with the code so far. -/
  | code (digits value : Nat)
  deriving DecidableEq

/-- The rest of a scalar in double quotes, in which a backslash begins an escape. -/
def readDoubleQuoted :
    List Char → (line column : Nat) → Gap → Escape → (text : List Char) → Option ScalarText
  | [], _, _, _, _, _ => none
  | c :: rest, line, column, gap, .begun, text =>
    if isBreak c then readDoubleQuoted rest (line + 1) 0 (.lines none []) .outside text
    else
      match escapeDigits c with
      | some digits => readDoubleQuoted rest line (column + 1) gap (.code digits 0) text
      | none =>
        match escapedCharacter c with
        | some d => readDoubleQuoted rest line (column + 1) gap .outside (d :: text)
        | none => none
  | c :: rest, line, column, gap, .code digits value, text =>
    match hexDigit? c with
    | none => none
    | some digit =>
      let value := value * 16 + digit
      if 1 < digits then
        readDoubleQuoted rest line (column + 1) gap (.code (digits - 1) value) text
      else
        match characterOf? value with
        | some d => readDoubleQuoted rest line (column + 1) gap .outside (d :: text)
        | none => none
  | c :: rest, line, column, gap, .outside, text =>
    if isBreak c then readDoubleQuoted rest (line + 1) 0 (gap.addBreak c) .outside text
    else if isSpace c then
      readDoubleQuoted rest line (column + 1) (gap.addSpace c) .outside text
    else if atDocumentMarker column (c :: rest) then none
    else
      let before := gap.folded.reverse ++ text
      if c = '"' then some (before.reverse, ⟨rest, line, column + 1⟩)
      else if c = '\\' then readDoubleQuoted rest line (column + 1) .empty .begun before
      else readDoubleQuoted rest line (column + 1) .empty .outside (c :: before)

/-! ## Block scalars -/

/-- What becomes of the line ends after the last line of a block. -/
inductive Chomping where
  /-- They are dropped. -/
  | strip
  /-- The first is kept. -/
  | clip
  /-- All are kept. -/
  | keep
  deriving DecidableEq

/-- The sign for the line ends. -/
def chomping? : Char → Option Chomping
  | '+' => some .keep
  | '-' => some .strip
  | _ => none

/-- The digit for the indentation, which must not be zero; the outer `none` says that it is. -/
def indentDigit? (here : Cursor) : Option (Option Nat × Cursor) :=
  match here.peek? with
  | some '0' => none
  | some c => if c.isDigit then some (some (c.toNat - '0'.toNat), here.skip 1) else some (none, here)
  | none => some (none, here)

/-- The sign for the line ends, if it stands here. -/
def readChomping (here : Cursor) : Option Chomping × Cursor :=
  match here.peek?.bind chomping? with
  | some chomping => (some chomping, here.skip 1)
  | none => (none, here)

/-- The line that opens a block, after its first character: the line ends, the indentation if it is
given, and the start of the next line. -/
def readBlockHeader (here : Cursor) : Option (Chomping × Option Nat × Cursor) := do
  let (first, here) := readChomping here
  let (indent, here) ← indentDigit? here
  let (second, here) := if first.isNone && indent.isSome then readChomping here else (none, here)
  let here ← here.finishLine
  return ((first.or second).getD .clip, indent, here)

/-- The empty lines before a block whose indentation is not given: the deepest column reached, the
line ends and the place after them. -/
def readLeadingLines :
    List Char → (line column deepest : Nat) → (breaks : List Char) →
      Option (Nat × List Char × Cursor)
  | [], line, column, deepest, breaks => some (max deepest column, breaks, ⟨[], line, column⟩)
  | c :: rest, line, column, deepest, breaks =>
    if c = ' ' then readLeadingLines rest line (column + 1) deepest breaks
    else if c = '\t' then none
    else if isBreak c then
      readLeadingLines rest (line + 1) 0 (max deepest column) (breaks ++ [c])
    else some (max deepest column, breaks, ⟨c :: rest, line, column⟩)

/-- What has been read of a block. -/
structure Block where
  /-- The text, backwards. -/
  text : List Char := []
  /-- The end of the last line that is not empty. -/
  lineEnd : Option Char := none
  /-- The ends of the empty lines after it. -/
  emptyLines : List Char := []
  /-- Whether the last line that is not empty starts with space. -/
  indented : Bool := false

namespace Block

/-- Starts a line, given its first character. Folding replaces the end of the line before by a
space, or by nothing if there are empty lines between, unless one of the two starts with space. -/
def startLine (block : Block) (folding : Bool) (c : Char) : Block :=
  let foldable := folding && block.lineEnd = some '\n' && !block.indented && !isSpace c
  let between :=
    if foldable then (if block.emptyLines.isEmpty then [' '] else block.emptyLines)
    else block.lineEnd.toList ++ block.emptyLines
  { text := c :: (between.reverse ++ block.text), indented := isSpace c }

/-- The text of the whole block. -/
def finish (block : Block) : Chomping → List Char
  | .strip => block.text.reverse
  | .clip => block.text.reverse ++ block.lineEnd.toList
  | .keep => block.text.reverse ++ block.lineEnd.toList ++ block.emptyLines

end Block

/-- The lines of a block, which have to be indented by at least `indent`. -/
def readBlockLines (folding : Bool) (indent : Nat) :
    List Char → (line column : Nat) → (inLine : Bool) → Block → Option (Block × Cursor)
  | [], line, column, _, block => some (block, ⟨[], line, column⟩)
  | c :: rest, line, column, true, block =>
    if isBreak c then
      readBlockLines folding indent rest (line + 1) 0 false { block with lineEnd := some c }
    else
      readBlockLines folding indent rest line (column + 1) true
        { block with text := c :: block.text }
  | c :: rest, line, column, false, block =>
    if c = ' ' && column < indent then
      readBlockLines folding indent rest line (column + 1) false block
    else if c = '\t' && column < indent then none
    else if isBreak c then
      readBlockLines folding indent rest (line + 1) 0 false
        { block with emptyLines := block.emptyLines ++ [c] }
    else if column = indent then
      readBlockLines folding indent rest line (column + 1) true (block.startLine folding c)
    else some (block, ⟨c :: rest, line, column⟩)

/-- A block after its first character, inside blocks that are indented by less than `minimum`. -/
def readBlock (folding : Bool) (minimum : Nat) (here : Cursor) : Option ScalarText := do
  let (chomping, given, here) ← readBlockHeader here
  let (indent, emptyLines, here) ←
    match given with
    | some indent => some (minimum - 1 + indent, [], here)
    | none => do
      let (deepest, breaks, here) ← readLeadingLines here.rest here.line here.column 0 []
      some (max deepest (max minimum 1), breaks, here)
  let (block, here) ← readBlockLines folding indent here.rest here.line here.column false
    { emptyLines }
  return (block.finish chomping, here)

end Packfile.Yaml
