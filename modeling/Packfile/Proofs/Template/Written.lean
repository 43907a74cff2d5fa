import Packfile.Proofs.Template.Data

/-!
# Written templates

All ways to write a template down: texts with actions between them, actions with or without markers,
commands with their operands and the blanks between these. A written template carries what keeps its
parts apart, so that no text can be taken for an action and no comment ends early. It has a text
and, in a context, a meaning; the meaning is given part by part, without any reading of the text. A
quoted text stands for the characters that are meant, a raw one for itself, a chain for the data
that it leads to, and `index` for the entry that its keys lead to.
-/

namespace Packfile.Template.Written

/-- Blanks, perhaps none. -/
structure Blanks where
  text : List Char
  blank : ∀ c ∈ text, Text.isBlank c

/-- At least one blank. -/
structure Gap extends Blanks where
  nonempty : text ≠ []

/-- A character of a quoted text, as it is or escaped. -/
inductive QuotedChar where
  | plain (c : Char) (notQuote : c ≠ '"') (notBackslash : c ≠ '\\')
  | newline
  | tab
  | backslash
  | quote

namespace QuotedChar

/-- How the character is written. -/
def text : QuotedChar → List Char
  | .plain c _ _ => [c]
  | .newline => ['\\', 'n']
  | .tab => ['\\', 't']
  | .backslash => ['\\', '\\']
  | .quote => ['\\', '"']

/-- The character that is meant. -/
def value : QuotedChar → Char
  | .plain c _ _ => c
  | .newline => '\n'
  | .tab => '\t'
  | .backslash => '\\'
  | .quote => '"'

/-- One way to write a character. -/
def ofChar (c : Char) : QuotedChar :=
  if quote : c = '"' then .quote
  else if backslash : c = '\\' then .backslash
  else .plain c quote backslash

@[simp] theorem value_ofChar (c : Char) : (ofChar c).value = c := by
  unfold ofChar
  split
  · next same => exact same.symm
  · split
    · next same => exact same.symm
    · rfl

end QuotedChar

/-- The name of a field: ASCII letters, digits and underscores, the first no digit. -/
structure Name where
  first : Char
  rest : List Char
  start : first.isAlpha ∨ first = '_'
  others : ∀ c ∈ rest, c.isAlphanum ∨ c = '_'

/-- The characters of a name. -/
def Name.text (name : Name) : List Char :=
  name.first :: name.rest

/-- An operand. -/
inductive Operand where
  /-- Fields one after the other; without any, the bare dot. -/
  | chain (names : List Name)
  | quoted (chars : List QuotedChar)
  | raw (text : List Char) (closed : '\x60' ∉ text)

namespace Operand

/-- How the operand is written. -/
def text : Operand → List Char
  | .chain [] => ['.']
  | .chain names => names.flatMap fun name => '.' :: name.text
  | .quoted chars => '"' :: chars.flatMap QuotedChar.text ++ ['"']
  | .raw text _ => '\x60' :: text ++ ['\x60']

/-- What the operand stands for. -/
def data (context : Context) : Operand → Except ExecuteFault Data
  | .chain names => context.data.walk (names.map fun name => String.ofList name.text)
  | .quoted chars => .ok (.text (String.ofList (chars.map QuotedChar.value)))
  | .raw text _ => .ok (.text (String.ofList text))

/-- Every text can be written in quotes, whatever its characters. -/
theorem exists_quoted (context : Context) (value : String) :
    ∃ chars, (quoted chars).data context = .ok (.text value) := by
  refine ⟨value.toList.map QuotedChar.ofChar, ?_⟩
  simp [data, Function.comp_def]

end Operand

/-- A command. Its tokens have blanks between them. -/
inductive Command where
  | operand (operand : Operand)
  | index (gap : Gap) (target : Operand) (keys : List (Gap × Operand))

namespace Command

/-- How the command is written. -/
def text : Command → List Char
  | .operand single => single.text
  | .index gap target keys =>
    ['i', 'n', 'd', 'e', 'x'] ++ gap.text ++ target.text ++
      keys.flatMap fun key => key.1.text ++ key.2.text

/-- The entry that keys lead to, one after the other. -/
def lookUp (context : Context) : List (Gap × Operand) → Data → Except ExecuteFault Data
  | [], data => .ok data
  | key :: keys, data => do
    let key ← (← key.2.data context).asKey
    lookUp context keys (← data.entry key)

/-- What the command stands for. -/
def data (context : Context) : Command → Except ExecuteFault Data
  | .operand single => single.data context
  | .index _ target keys => do lookUp context keys (← target.data context)

end Command

/-- One side of an action: blanks, or a marker with at least one blank on its inner side. -/
inductive Side where
  | padded (blanks : Blanks)
  | marked (gap : Gap)

namespace Side

/-- Whether the text next to the action is trimmed. -/
def isMarked : Side → Bool
  | .padded _ => false
  | .marked _ => true

/-- The blanks of the side. -/
def blanks : Side → Blanks
  | .padded blanks => blanks
  | .marked gap => gap.toBlanks

/-- The side where it follows the opening braces. -/
def front : Side → List Char
  | .padded blanks => blanks.text
  | .marked gap => '-' :: gap.text

/-- The side where the closing braces follow. -/
def back : Side → List Char
  | .padded blanks => blanks.text
  | .marked gap => gap.text ++ ['-']

end Side

/-- What an action holds. A comment does not hold its own end. -/
inductive Content where
  | comment (text : List Char) (unended : ¬ ['*', '/'] <:+: text)
  | command (command : Command)

namespace Content

/-- How the content is written. -/
def text : Content → List Char
  | .comment text _ => '/' :: '*' :: text ++ ['*', '/']
  | .command written => written.text

/-- The text that the content stands for. -/
def value (context : Context) : Content → Except ExecuteFault (List Char)
  | .comment _ _ => .ok []
  | .command written => do .ok (← written.data context).shown.toList

end Content

/-- An action. -/
structure Action where
  before : Side
  content : Content
  after : Side

namespace Action

/-- What stands between the braces. -/
def inside (action : Action) : List Char :=
  action.before.front ++ action.content.text ++ action.after.back

/-- How the action is written. -/
def text (action : Action) : List Char :=
  ['{', '{'] ++ action.inside ++ ['}', '}']

end Action

/-- A text without the blanks on the sides that are trimmed. -/
def trimmed (trimsStart trimsEnd : Bool) (text : List Char) : List Char :=
  let text := if trimsStart then Text.trimStart text else text
  if trimsEnd then Text.trimEnd text else text

/-- A template: texts and actions in turn, and a text at the end. No text holds opening braces, and
none before an action ends in a brace that could be taken for one of the action's. -/
inductive Source where
  | tail (text : List Char) (plain : ¬ ['{', '{'] <:+: text)
  | segment (text : List Char) (plain : ¬ ['{', '{'] <:+: text)
      (closed : text.getLast? ≠ some '{') (action : Action) (rest : Source)

namespace Source

/-- How the template is written. -/
def text : Source → List Char
  | .tail text _ => text
  | .segment text _ _ action rest => text ++ action.text ++ rest.text

/-- What the template stands for: its texts, trimmed on the sides of markers, and the values of its
commands, or the first error of a command. `trimsStart` tells whether a marker stands before the
first text. -/
def meaning (context : Context) (trimsStart : Bool) : Source → Except ExecuteFault (List Char)
  | .tail text _ => .ok (trimmed trimsStart false text)
  | .segment text _ _ action rest => do
    let value ← action.content.value context
    let others ← rest.meaning context action.after.isMarked
    .ok (trimmed trimsStart action.before.isMarked text ++ value ++ others)

end Source

end Packfile.Template.Written
