import Packfile.Text.Blank
import Packfile.Text.Lines

/-!
# Lines of an environment file

A line is blank, a comment, or an assignment: a key, an equals sign and a value, each with blanks
around it, perhaps after the word `export`. The word may also be the key itself. A line that is
none of these is refused at the first byte that does not fit.
-/

namespace Packfile.Dotenv

/-- A line that is not an assignment, with the place where it fails. -/
structure LineError where
  text : String
  index : Nat
  deriving DecidableEq, Repr

/-- The text of a line error. -/
def LineError.message (e : LineError) : String :=
  "Error parsing line: '" ++ e.text ++ "', error at line index: " ++ toString e.index

/-- An assignment as it is written; the value is not decoded, and empty if only a comment follows
the equals sign. -/
structure Assignment where
  key : String
  value : List Char
  deriving DecidableEq, Repr

namespace Line

/-- A character that starts a key. -/
def isKeyStart (c : Char) : Bool :=
  c.isAlpha || c = '_'

/-- A character of a key. -/
def isKeyChar (c : Char) : Bool :=
  c.isAlphanum || c = '_' || c = '.'

/-- The key at the front of the text, and the text from the next word on. -/
def key? (s : List Char) : Option (List Char × List Char) :=
  match s with
  | c :: _ =>
    if isKeyStart c then some (s.takeWhile isKeyChar, Text.trimStart (s.dropWhile isKeyChar))
    else none
  | [] => none

/-- Whether nothing but a comment is left. -/
def isIdle (s : List Char) : Bool :=
  s.isEmpty || s.head? = some '#'

/-- The value after an equals sign. -/
def value (s : List Char) : List Char :=
  let text := Text.trimStart s
  if isIdle text then [] else text

/-- Whether a line is neither blank nor a comment. -/
def isAssignment (line : List Char) : Bool :=
  !isIdle (Text.trim line)

/-- What a line has after its first equals sign, unless that is a comment. -/
def rawValue? (line : List Char) : Option (List Char) :=
  match Text.splitAtFirst '=' line with
  | none => none
  | some (_, after) =>
    let value := Text.trim after
    if value.head? = some '#' then none else some value

/-- The number of bytes of a text. -/
def byteLength (s : List Char) : Nat :=
  s.foldl (fun total c => total + c.utf8Size) 0

/-- The assignment on a line; `none` for a blank line and for a comment. -/
def parse (line : List Char) : Except LineError (Option Assignment) :=
  let text := Text.trimEnd line
  let start := Text.trimStart text
  let refuse (rest : List Char) : Except LineError (Option Assignment) :=
    .error ⟨String.ofList line, byteLength text - byteLength rest⟩
  let assign (key s : List Char) := .ok (some ⟨String.ofList key, value s⟩)
  if isIdle start then .ok none
  else
    match key? start with
    | none => refuse start
    | some (key, '=' :: after) => assign key after
    | some (key, rest) =>
      if key = "export".toList then
        match key? rest with
        | none => refuse rest
        | some (exported, '=' :: after) => assign exported after
        | some (_, other) => refuse other
      else refuse rest

example : parse "export A = 1 # c".toList = .ok (some ⟨"A", "1 # c".toList⟩) := rfl

example : parse "export=1".toList = .ok (some ⟨"export", ['1']⟩) := rfl

example : rawValue? "export A = $B # c\r".toList = some "$B # c".toList := rfl

example : parse "A B=2".toList = .error ⟨"A B=2", 2⟩ := rfl

end Line

end Packfile.Dotenv
