import Packfile.Tree.Basic
import Packfile.Yaml.Plain

/-!
# Trees as YAML

Records and lists are written as blocks, two spaces deeper than what they are in; a list that is the
value of a field is not indented, and empty records and lists are written as brackets. A text is
written plain if it reads back as itself, as a literal block if it has several lines, and otherwise
in quotes: single ones unless it holds something that they cannot carry. There is no limit to the
width of a line.
-/

namespace Packfile.Tree

/-! ## How a text is written -/

/-- How a text is written. -/
inductive TextStyle where
  | plain
  | singleQuoted
  | doubleQuoted
  | literal
  deriving DecidableEq, Repr

namespace TextStyle

/-- Whether the character ends a line. -/
def endsLine (c : Char) : Bool :=
  c = '\n' || c = '\r' || c.toNat = 0x85 || c.toNat = 0x2028 || c.toNat = 0x2029

/-- Whether the character separates words. -/
def isGap (c : Char) : Bool :=
  c = ' ' || c = '\t' || endsLine c

/-- Whether the character may be written as it is. -/
def isShown (c : Char) : Bool :=
  let n := c.toNat
  n == 0xa || (0x20 ≤ n && n ≤ 0x7e) || (0xa0 ≤ n && n ≤ 0xd7ff)
    || (0xe000 ≤ n && n ≤ 0xfffd && n != 0xfeff) || 0x10000 ≤ n

/-- Whether two neighbours in the text satisfy a condition. -/
def hasNeighbours (condition : Char → Char → Bool) : List Char → Bool
  | a :: b :: rest => condition a b || hasNeighbours condition (b :: rest)
  | _ => false

/-- Whether the first character, before the rest of the text, begins something other than a
scalar. -/
def firstIsIndicator (c : Char) (rest : List Char) : Bool :=
  "#,[]\x7b\x7d&*!|>'\"%@\x60".toList.contains c
    || ((c = '?' || c = ':' || c = '-') && rest.head?.all isGap)

/-- Whether something after the first character would end the scalar: a colon before a gap, or a
number sign after one. -/
def restHasIndicator (text : List Char) : Bool :=
  (1 < text.length && text.getLast? = some ':')
    || hasNeighbours (fun a b => a = ':' && isGap b) (text.drop 1)
    || hasNeighbours (fun a b => isGap a && b = '#') text

/-- Whether the text would be taken for something other than a scalar. -/
def hasIndicator (text : List Char) : Bool :=
  "---".toList.isPrefixOf text || "...".toList.isPrefixOf text
    || (match text with
      | [] => false
      | c :: rest => firstIsIndicator c rest)
    || restHasIndicator text

/-- Whether the text starts or ends with a space or a line end. -/
def hasOuterGap (text : List Char) : Bool :=
  let outer (c : Char) : Bool := c = ' ' || endsLine c
  text.head?.any outer || text.getLast?.any outer

/-- Whether a space is followed by a line end. -/
def hasSpaceBeforeBreak (text : List Char) : Bool :=
  hasNeighbours (fun a b => a = ' ' && endsLine b) text

/-- Whether a line end is followed by a space. -/
def hasSpaceAfterBreak (text : List Char) : Bool :=
  hasNeighbours (fun a b => endsLine a && b = ' ') text

/-- Whether only escapes can carry the text. -/
def needsEscapes (text : List Char) : Bool :=
  !text.all isShown || hasSpaceBeforeBreak text

/-- Whether the text may be written plain, as far as its characters go. -/
def allowsPlain (text : List Char) : Bool :=
  !(needsEscapes text || hasOuterGap text || text.any endsLine || hasIndicator text)

/-- Whether the text may be written in single quotes. -/
def allowsSingleQuotes (text : List Char) : Bool :=
  !(needsEscapes text || hasSpaceAfterBreak text)

/-- Whether the text may be written as a literal block. -/
def allowsBlock (text : List Char) : Bool :=
  !(needsEscapes text || text.getLast? = some ' ')

/-- Whether the text, written plain, is read as a text. -/
def isReadAsText (text : String) : Bool :=
  match Yaml.Plain.ofText text with
  | .text => !Yaml.Plain.isZeroPadded text.toList
  | _ => false

/-- How a text is written. -/
def of (text : String) : TextStyle :=
  let characters := text.toList
  if characters.contains '\n' then
    if allowsBlock characters then .literal else .doubleQuoted
  else if isReadAsText text && allowsPlain characters then .plain
  else if allowsSingleQuotes characters then .singleQuoted
  else .doubleQuoted

end TextStyle

/-! ## Writing -/

/-- What has been written, and where the writing stands. -/
structure YamlWriter where
  /-- The text, backwards. -/
  text : List Char := []
  column : Nat := 0
  /-- Whether what comes next needs no space before it. -/
  afterSpace : Bool := true
  /-- Whether nothing but indentation and signs for items and fields is in the line. -/
  inIndent : Bool := true

namespace YamlWriter

/-- The number of spaces for each level. -/
def indentStep : Nat := 2

/-- Writes a character that does not end the line. -/
def put (w : YamlWriter) (c : Char) : YamlWriter :=
  { w with text := c :: w.text, column := w.column + 1 }

/-- Writes characters that do not end the line. -/
def puts (w : YamlWriter) (characters : List Char) : YamlWriter :=
  characters.foldl put w

/-- Ends the line with a character. -/
def putBreak (w : YamlWriter) (c : Char) : YamlWriter :=
  { w with text := c :: w.text, column := 0 }

/-- Goes to a column in a line of its own, or further on in this line if it allows that. -/
def startLine (w : YamlWriter) (indent : Nat) : YamlWriter :=
  let full := !w.inIndent || indent < w.column || (w.column = indent && !w.afterSpace)
  let w := if full then w.putBreak '\n' else w
  { w.puts (List.replicate (indent - w.column) ' ') with afterSpace := true, inIndent := true }

/-- Writes a sign, with a space before it if there is none yet. -/
def sign (w : YamlWriter) (text : String) (spaced inIndent : Bool) : YamlWriter :=
  let w := if spaced && !w.afterSpace then w.put ' ' else w
  { w.puts text.toList with afterSpace := false, inIndent := w.inIndent && inIndent }

/-- Writes a plain text. -/
def plain (w : YamlWriter) (text : List Char) : YamlWriter :=
  let w := if !w.afterSpace && !text.isEmpty then w.put ' ' else w
  { w.puts text with afterSpace := false, inIndent := false }

/-- Writes the inside of single quotes. A line end is followed by indentation. -/
def quotedLines (indent : Nat) (afterBreak : Bool) (w : YamlWriter) : List Char → YamlWriter
  | [] => if afterBreak then w.startLine indent else w
  | c :: rest =>
    if TextStyle.endsLine c then
      quotedLines indent true { w.putBreak c with inIndent := true } rest
    else
      let w := if afterBreak then w.startLine indent else w
      let w := if c = '\'' then w.put '\'' else w
      quotedLines indent false { w.put c with inIndent := c = ' ' && w.inIndent } rest

/-- Writes a text in single quotes. -/
def singleQuoted (w : YamlWriter) (indent : Nat) (text : List Char) : YamlWriter :=
  let w := quotedLines indent false (w.sign "'" true false) text
  { w.put '\'' with afterSpace := false, inIndent := false }

/-- A character with a short escape in double quotes. -/
def shortEscape? (c : Char) : Option Char :=
  match c.toNat with
  | 0x00 => some '0'
  | 0x07 => some 'a'
  | 0x08 => some 'b'
  | 0x09 => some 't'
  | 0x0a => some 'n'
  | 0x0b => some 'v'
  | 0x0c => some 'f'
  | 0x0d => some 'r'
  | 0x1b => some 'e'
  | 0x22 => some '"'
  | 0x5c => some '\\'
  | 0x85 => some 'N'
  | 0xa0 => some '_'
  | 0x2028 => some 'L'
  | 0x2029 => some 'P'
  | _ => none

/-- A number in upper-case hexadecimal, of at least the given width. -/
def hexadecimal (width n : Nat) : List Char :=
  let digits := (Nat.toDigits 16 n).map Char.toUpper
  List.replicate (width - digits.length) '0' ++ digits

/-- A character in double quotes. -/
def escaped (c : Char) : List Char :=
  if TextStyle.isShown c && !TextStyle.endsLine c && c ≠ '"' && c ≠ '\\' then [c]
  else
    match shortEscape? c with
    | some letter => ['\\', letter]
    | none =>
      let n := c.toNat
      if n ≤ 0xff then ['\\', 'x'] ++ hexadecimal 2 n
      else if n ≤ 0xffff then ['\\', 'u'] ++ hexadecimal 4 n
      else ['\\', 'U'] ++ hexadecimal 8 n

/-- Writes a text in double quotes. -/
def doubleQuoted (w : YamlWriter) (text : List Char) : YamlWriter :=
  let w := (w.sign "\"" true false).puts (text.flatMap escaped)
  { w.put '"' with afterSpace := false, inIndent := false }

/-- What is said about the line ends at the end of a block: nothing if there is exactly one. -/
def chomping (text : List Char) : String :=
  match text.reverse with
  | [] => "-"
  | [last] => if TextStyle.endsLine last then "+" else "-"
  | last :: before :: _ =>
    if !TextStyle.endsLine last then "-" else if TextStyle.endsLine before then "+" else ""

/-- The line that opens a block. The indentation is given if it cannot be seen. -/
def blockHeader (text : List Char) : String :=
  let indent :=
    if text.head?.any fun c => c = ' ' || TextStyle.endsLine c then toString indentStep else ""
  "|" ++ indent ++ chomping text

/-- Writes the lines of a block. -/
def blockLines (indent : Nat) (afterBreak : Bool) (w : YamlWriter) : List Char → YamlWriter
  | [] => w
  | c :: rest =>
    if TextStyle.endsLine c then
      blockLines indent true { w.putBreak c with inIndent := true } rest
    else
      let w := if afterBreak then w.startLine indent else w
      blockLines indent false { w.put c with inIndent := false } rest

/-- Writes a text as a literal block. -/
def literal (w : YamlWriter) (indent : Nat) (text : List Char) : YamlWriter :=
  let w := (w.sign (blockHeader text) true false).putBreak '\n'
  blockLines indent true { w with inIndent := true, afterSpace := true } text

/-- Writes a text. The lines of it after the first are indented. -/
def scalar (w : YamlWriter) (indent : Nat) (text : String) : YamlWriter :=
  let characters := text.toList
  match TextStyle.of text with
  | .plain => w.plain characters
  | .singleQuoted => w.singleQuoted indent characters
  | .doubleQuoted => w.doubleQuoted characters
  | .literal => w.literal indent characters

/-- The longest name that a colon may follow in the same line, in bytes. -/
def maxNameBytes : Nat := 128

/-- Whether a name may be followed by a colon in the same line. -/
def isSimpleName (name : String) : Bool :=
  !name.toList.any TextStyle.endsLine && name.utf8ByteSize ≤ maxNameBytes

/-- Writes the name of a field and the sign before its value. -/
def fieldName (w : YamlWriter) (indent : Nat) (name : String) : YamlWriter :=
  let w := w.startLine indent
  if isSimpleName name then (w.scalar (indent + indentStep) name).sign ":" false false
  else
    let w := (w.sign "?" true true).scalar (indent + indentStep) name
    (w.startLine indent).sign ":" true true

mutual

/-- Writes a tree that is in something indented to a column, or in nothing. -/
def tree (w : YamlWriter) (indent : Option Nat) (inField : Bool) : Tree → YamlWriter
  | .null => w.plain "null".toList
  | .bool value => w.plain (if value then "true" else "false").toList
  | .number numeral => w.plain numeral.toList
  | .text value => w.scalar (indent.getD 0 + indentStep) value
  | .list values =>
    if values.isEmpty then w.sign "[]" true false
    else
      let deeper := match indent with
        | none => 0
        | some indent => if inField && !w.inIndent then indent else indent + indentStep
      items w deeper values
  | .record named =>
    if named.isEmpty then w.sign "\x7b\x7d" true false
    else fields w (indent.elim 0 (· + indentStep)) named

/-- Writes items, each after a dash. -/
def items (w : YamlWriter) (indent : Nat) : List Tree → YamlWriter
  | [] => w
  | item :: rest =>
    let dashed := (w.startLine indent).sign "-" true true
    items (tree dashed (some indent) false item) indent rest

/-- Writes fields, each with its name. -/
def fields (w : YamlWriter) (indent : Nat) : List (String × Tree) → YamlWriter
  | [] => w
  | (name, value) :: rest =>
    fields (tree (w.fieldName indent name) (some indent) true value) indent rest

end

end YamlWriter

/-- The tree as a YAML document. -/
def toYaml (tree : Tree) : String :=
  String.ofList ((YamlWriter.tree {} none false tree).startLine 0).text.reverse

example : (Tree.record [("a", .texts ["x", "y: z"]), ("b", .record [])]).toYaml =
    "a:\n- x\n- 'y: z'\nb: \x7b\x7d\n" := by
  decide +kernel

end Packfile.Tree
