import Packfile.Text.Lines
import Packfile.Text.Lossy

/-!
# Process environments

The variables that a process is started with. Their values are bytes; most are text, but nothing
forces them to be. Here a value is either its text or, when it is not UTF-8, its raw bytes.
-/

namespace Packfile

/-- The value of a process variable. -/
inductive RawValue where
  | text (value : String)
  /-- Bytes that are not UTF-8. -/
  | bytes (value : ByteArray)
  deriving DecidableEq

namespace RawValue

/-- The text where the bytes are UTF-8, the bytes otherwise. -/
def ofBytes (value : ByteArray) : RawValue :=
  match String.fromUTF8? value with
  | some decoded => .text decoded
  | none => .bytes value

/-- The value as text, if it is text. -/
def text? : RawValue → Option String
  | .text value => some value
  | .bytes _ => none

/-- The parts of a byte list between the separators. -/
def splitBytes (separator : UInt8) : List UInt8 → List (List UInt8)
  | [] => [[]]
  | b :: rest =>
    if b = separator then [] :: splitBytes separator rest
    else
      match splitBytes separator rest with
      | [] => [[b]]
      | first :: others => (b :: first) :: others

/-- The parts of the value between colons that are text. -/
def searchPath : RawValue → List String
  | .text value => Text.splitFields ':' value
  | .bytes value =>
    (splitBytes 0x3a value.toList).filterMap fun part => String.fromUTF8? ⟨part.toArray⟩

/-- Whether a NUL occurs in the value. -/
def hasNul : RawValue → Bool
  | .text value => value.toList.contains '\x00'
  | .bytes value => value.toList.contains 0

end RawValue

/-- The variables of a process, as a list that may hold a name twice. -/
abbrev ProcessEnvironment := List (String × RawValue)

namespace ProcessEnvironment

/-- The value of a variable. Of two entries for a name the first one counts. -/
def get? (process : ProcessEnvironment) (name : String) : Option RawValue :=
  (process.find? fun entry => entry.1 = name).map Prod.snd

/-- The value of a variable, if it is text. -/
def getText? (process : ProcessEnvironment) (name : String) : Option String :=
  (get? process name).bind RawValue.text?

/-- The variables with the given names that are set, in the order of the names. -/
def only (process : ProcessEnvironment) (names : List String) : ProcessEnvironment :=
  names.filterMap fun name => (get? process name).map fun value => (name, value)

end ProcessEnvironment

end Packfile
