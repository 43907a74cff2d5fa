/-!
# Places in YAML text

YAML text is read from a cursor, which knows the line and the column that it has come to. A carriage
return, alone or before a newline, and the next-line character are read as newlines; the line and
paragraph separators also end a line, but stand for themselves.
-/

namespace Packfile.Yaml

/-- Whether YAML text may contain the character. -/
def isAllowed (c : Char) : Bool :=
  let n := c.toNat
  n == 0x9 || n == 0xa || n == 0xd || (0x20 ≤ n && n ≤ 0x7e) || n == 0x85
    || (0xa0 ≤ n && n ≤ 0xd7ff) || (0xe000 ≤ n && n ≤ 0xfffd) || 0x10000 ≤ n

/-- The mark that may open a text. -/
def byteOrderMark : Char := '\ufeff'

/-- Writes every line end that is not a separator character as a newline. -/
def normalizeBreaks : List Char → List Char
  | [] => []
  | '\r' :: '\n' :: rest => '\n' :: normalizeBreaks rest
  | '\r' :: rest => '\n' :: normalizeBreaks rest
  | c :: rest => (if c.toNat = 0x85 then '\n' else c) :: normalizeBreaks rest

/-- Whether the character ends a line. -/
def isBreak (c : Char) : Bool :=
  c = '\n' || c.toNat = 0x2028 || c.toNat = 0x2029

/-- Whether the character is space within a line. -/
def isSpace (c : Char) : Bool :=
  c = ' ' || c = '\t'

/-- Whether the character separates words. -/
def isGap (c : Char) : Bool :=
  isSpace c || isBreak c

/-- Whether the character may stand in the name of an anchor, a directive or a tag handle. -/
def isNameCharacter (c : Char) : Bool :=
  c.isAlphanum || c = '_' || c = '-'

/-- Whether the text starts with space, with the end of a line, or not at all. -/
def startsWithGap (text : List Char) : Bool :=
  text.head?.all isGap

/-- Whether a line that starts with the text separates documents. -/
def isDocumentMarker (marker : String) (text : List Char) : Bool :=
  marker.toList.isPrefixOf text && startsWithGap (text.drop 3)

/-- Whether the text at the column is a line that separates documents. -/
def atDocumentMarker (column : Nat) (text : List Char) : Bool :=
  column = 0 && (isDocumentMarker "---" text || isDocumentMarker "..." text)

/-- A place in a text. -/
structure Cursor where
  /-- The text from here on. -/
  rest : List Char
  line : Nat := 0
  column : Nat := 0
  deriving DecidableEq

namespace Cursor

/-- The character here. -/
def peek? (here : Cursor) : Option Char :=
  here.rest.head?

/-- The place a number of characters further on in the same line. -/
def skip (here : Cursor) (count : Nat) : Cursor :=
  { here with rest := here.rest.drop count, column := here.column + count }

/-- The start of the next line, when the character here ends the line. -/
def nextLine (here : Cursor) : Cursor :=
  { rest := here.rest.drop 1, line := here.line + 1, column := 0 }

/-- The characters from here that satisfy a condition, and the place after them. They must not end
a line. -/
def takeWhile (here : Cursor) (condition : Char → Bool) : List Char × Cursor :=
  let taken := here.rest.takeWhile condition
  (taken, here.skip taken.length)

/-- The place after the characters that satisfy a condition. -/
def skipWhile (here : Cursor) (condition : Char → Bool) : Cursor :=
  (here.takeWhile condition).2

/-- The end of the line, past a comment if there is one. -/
def skipComment (here : Cursor) : Cursor :=
  if here.peek? = some '#' then here.skipWhile fun c => !isBreak c else here

/-- The next line, if nothing but space and a comment is left of this one. -/
def finishLine (here : Cursor) : Option Cursor :=
  let there := (here.skipWhile isSpace).skipComment
  match there.peek? with
  | none => some there
  | some c => if isBreak c then some there.nextLine else none

end Cursor

end Packfile.Yaml
