import Packfile.Text.Quoted
import Packfile.Tree.Basic

/-!
# Trees as JSON

JSON is written either on one line without spaces or with two spaces of indentation for each level.
Texts escape the quote, the backslash and the control characters below the space; all other
characters are written as they are.
-/

namespace Packfile.Tree

/-- The four hexadecimal digits of a code below sixteen to the fourth. -/
def fourHexDigits (n : Nat) : List Char :=
  let digits := Text.hexDigits n
  List.replicate (4 - digits.length) '0' ++ digits

/-- A character inside a JSON text. -/
def jsonEscaped (c : Char) : List Char :=
  if c = '"' then ['\\', '"']
  else if c = '\\' then ['\\', '\\']
  else if c = '\n' then ['\\', 'n']
  else if c = '\r' then ['\\', 'r']
  else if c = '\t' then ['\\', 't']
  else if c = '\x08' then ['\\', 'b']
  else if c = '\x0c' then ['\\', 'f']
  else if c.toNat < 0x20 then ['\\', 'u'] ++ fourHexDigits c.toNat
  else [c]

/-- A text as JSON. -/
def jsonText (s : String) : String :=
  String.ofList ('"' :: (s.toList.flatMap jsonEscaped ++ ['"']))

/-- A truth value as JSON. -/
def jsonBool (b : Bool) : String :=
  if b then "true" else "false"

mutual

/-- The tree on one line. -/
def toJson : Tree → String
  | .null => "null"
  | .bool value => jsonBool value
  | .number numeral => numeral
  | .text value => jsonText value
  | .list items => "[" ++ ",".intercalate (jsonItems items) ++ "]"
  | .record fields => "\x7b" ++ ",".intercalate (jsonFields fields) ++ "\x7d"

/-- The items of a list. -/
def jsonItems : List Tree → List String
  | [] => []
  | item :: rest => item.toJson :: jsonItems rest

/-- The fields of a record. -/
def jsonFields : List (String × Tree) → List String
  | [] => []
  | (name, value) :: rest => (jsonText name ++ ":" ++ value.toJson) :: jsonFields rest

end

/-- Lines between two brackets, indented one level below `indent`; nothing between them when there
are no lines. -/
def jsonBlock (opening closing indent : String) (lines : List String) : String :=
  if lines.isEmpty then opening ++ closing
  else
    let inner := "\n" ++ indent ++ "  "
    opening ++ inner ++ ("," ++ inner).intercalate lines ++ "\n" ++ indent ++ closing

mutual

/-- The tree over several lines, the first of them already indented. -/
def prettyFrom (indent : String) : Tree → String
  | .null => "null"
  | .bool value => jsonBool value
  | .number numeral => numeral
  | .text value => jsonText value
  | .list items => jsonBlock "[" "]" indent (prettyItems (indent ++ "  ") items)
  | .record fields => jsonBlock "\x7b" "\x7d" indent (prettyFields (indent ++ "  ") fields)

/-- The items of a list. -/
def prettyItems (indent : String) : List Tree → List String
  | [] => []
  | item :: rest => prettyFrom indent item :: prettyItems indent rest

/-- The fields of a record. -/
def prettyFields (indent : String) : List (String × Tree) → List String
  | [] => []
  | (name, value) :: rest =>
    (jsonText name ++ ": " ++ prettyFrom indent value) :: prettyFields indent rest

end

/-- The tree over several lines. -/
def toPrettyJson (tree : Tree) : String :=
  prettyFrom "" tree

end Packfile.Tree
