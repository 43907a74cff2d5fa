import Packfile.Text.Alphanumeric

/-!
# Values of an environment file

A value is bare, in single quotes, in double quotes, or any sequence of these. Single quotes are
literal. Elsewhere a backslash escapes a quote, a dollar, a space or itself, `\n` is a newline, and
`$NAME` or `$` with a name in braces refers to another variable. Bare text ends at a space or tab,
after which only a comment may follow.

`decode` reads a value character by character. A name outside braces consists of letters and
digits; the first other character ends it and is taken literally, unless it is a dollar, which
starts the next reference.
-/

namespace Packfile.Dotenv.Value

/-- What surrounds the character that is read next. -/
inductive Mode where
  | bare
  | single
  | double
  /-- After a backslash, outside single quotes. -/
  | escape (inDouble : Bool)
  /-- After a dollar, with the name so far. -/
  | name (inDouble : Bool) (name : List Char)
  /-- After a dollar and an opening brace, with the name so far. -/
  | braced (inDouble : Bool) (name : List Char)
  /-- After the blank that ends a bare value. -/
  | ended
  deriving DecidableEq, Repr

/-- Why a value is refused. -/
inductive Fault where
  /-- The character at this index, counted in characters, cannot stand there. -/
  | unexpected (index : Nat)
  /-- A quote or a brace is still open at the end. -/
  | unterminated
  deriving DecidableEq, Repr

/-- The mode that a quote or reference leaves behind. -/
def Mode.outer (inDouble : Bool) : Mode :=
  if inDouble then .double else .bare

/-- The character that an escape stands for. -/
def unescape (c : Char) : Option Char :=
  if c = '\\' || c = '\'' || c = '"' || c = '$' || c = ' ' then some c
  else if c = 'n' then some '\n'
  else none

/-- The text of a variable; a variable that is not set has no text. -/
def referenced (lookup : String → Option String) (name : List Char) : List Char :=
  ((lookup (String.ofList name)).getD "").toList

/-- Reads the characters from `index` on. -/
def decodeFrom (lookup : String → Option String) :
    Mode → Nat → List Char → Except Fault (List Char)
  | .bare, _, [] | .ended, _, [] | .escape false, _, [] => .ok []
  | .name false name, _, [] => .ok (referenced lookup name)
  | .single, _, [] | .double, _, [] | .escape true, _, [] | .name true _, _, []
  | .braced .., _, [] => .error .unterminated
  | .ended, i, c :: rest =>
    if c = ' ' || c = '\t' then decodeFrom lookup .ended (i + 1) rest
    else if c = '#' then .ok []
    else .error (.unexpected i)
  | .escape inDouble, i, c :: rest =>
    match unescape c with
    | some d => (d :: ·) <$> decodeFrom lookup (.outer inDouble) (i + 1) rest
    | none => .error (.unexpected i)
  | .single, i, c :: rest =>
    if c = '\'' then decodeFrom lookup .bare (i + 1) rest
    else (c :: ·) <$> decodeFrom lookup .single (i + 1) rest
  | .name inDouble name, i, c :: rest =>
    if Text.isAlphanumeric c then decodeFrom lookup (.name inDouble (name ++ [c])) (i + 1) rest
    else if c = '{' && name.isEmpty then decodeFrom lookup (.braced inDouble []) (i + 1) rest
    else if c = '$' then
      (referenced lookup name ++ ·) <$> decodeFrom lookup (.name inDouble []) (i + 1) rest
    else
      (referenced lookup name ++ c :: ·) <$> decodeFrom lookup (.outer inDouble) (i + 1) rest
  | .braced inDouble name, i, c :: rest =>
    if c = '}' then
      (referenced lookup name ++ ·) <$> decodeFrom lookup (.outer inDouble) (i + 1) rest
    else decodeFrom lookup (.braced inDouble (name ++ [c])) (i + 1) rest
  | .double, i, c :: rest =>
    if c = '$' then decodeFrom lookup (.name true []) (i + 1) rest
    else if c = '"' then decodeFrom lookup .bare (i + 1) rest
    else if c = '\\' then decodeFrom lookup (.escape true) (i + 1) rest
    else (c :: ·) <$> decodeFrom lookup .double (i + 1) rest
  | .bare, i, c :: rest =>
    if c = '$' then decodeFrom lookup (.name false []) (i + 1) rest
    else if c = '\'' then decodeFrom lookup .single (i + 1) rest
    else if c = '"' then decodeFrom lookup .double (i + 1) rest
    else if c = '\\' then decodeFrom lookup (.escape false) (i + 1) rest
    else if c = ' ' || c = '\t' then decodeFrom lookup .ended (i + 1) rest
    else (c :: ·) <$> decodeFrom lookup .bare (i + 1) rest

/-- The text that a value stands for, with references looked up. -/
def decode (lookup : String → Option String) (value : List Char) : Except Fault (List Char) :=
  decodeFrom lookup .bare 0 value

example : decode (fun _ => none) "a\\ b # c".toList = .ok "a b".toList := rfl

/-- A quote that follows a name directly does not close anything. -/
example : decode (fun _ => some "1") "\"$A\"".toList = .error .unterminated := rfl

end Packfile.Dotenv.Value
