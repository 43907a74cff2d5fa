import Packfile.Dotenv.Value
import Packfile.Text.Blank
import Packfile.Text.Lines
import Packfile.Text.Quoted

/-!
# References to other variables

A value that holds a dollar is decoded with the references in place: `$NAME`, where the name is
the longest run of letters, digits and underscores, and `$` with any name in braces. Quotes and
escapes are those of every other value.
-/

namespace Packfile.Dotenv.Expansion

/-- The quotes that a value can be inside of. -/
inductive Quote where
  | single
  | double
  deriving DecidableEq, Repr

/-- Why a value cannot be expanded. -/
inductive Fault where
  | invalidEscape (c : Char)
  | trailingBackslash
  | unterminatedReference
  | unexpectedAfterValue (rest : String)
  | unterminatedQuote
  deriving DecidableEq, Repr

/-- The text of a fault. -/
def Fault.message : Fault → String
  | .invalidEscape c => "invalid escape sequence \\" ++ String.ofList [c]
  | .trailingBackslash => "trailing backslash"
  | .unterminatedReference => "unterminated $\x7b reference"
  | .unexpectedAfterValue rest => "unexpected " ++ Text.quoted rest ++ " after value"
  | .unterminatedQuote => "unterminated quoted value"

/-- A character of a name outside braces. -/
def isNameChar (c : Char) : Bool :=
  Text.isAlphanumeric c || c = '_'

/-- After the blank that ends a bare value only a comment may follow. -/
def checkEnd (rest : List Char) : Except Fault Unit :=
  match Text.trimStart rest with
  | [] => .ok ()
  | c :: more => if c = '#' then .ok () else .error (.unexpectedAfterValue (String.ofList (c :: more)))

/-- The character that an escape stands for, and what follows it. -/
def escaped : List Char → Except Fault (Char × List Char)
  | [] => .error .trailingBackslash
  | c :: rest =>
    match Value.unescape c with
    | some d => .ok (d, rest)
    | none => .error (.invalidEscape c)

/-- The name after the dollar of a reference, and what follows it. -/
def reference : List Char → Except Fault (List Char × List Char)
  | '{' :: rest =>
    match Text.splitAtFirst '}' rest with
    | some found => .ok found
    | none => .error .unterminatedReference
  | s => .ok (s.takeWhile isNameChar, s.dropWhile isNameChar)

theorem length_escaped {s rest : List Char} {c : Char} (h : escaped s = .ok (c, rest)) :
    rest.length < s.length := by
  cases s with
  | nil => cases h
  | cons d s =>
    simp only [escaped] at h
    split at h <;> cases h
    simp

theorem length_splitAtFirst {separator : Char} {s before after : List Char}
    (h : Text.splitAtFirst separator s = some (before, after)) : after.length < s.length := by
  induction s generalizing before with
  | nil => simp [Text.splitAtFirst] at h
  | cons c rest ih =>
    simp only [Text.splitAtFirst] at h
    split at h
    · cases h; simp
    · obtain ⟨⟨b, a⟩, hb, e⟩ := Option.map_eq_some_iff.1 h
      cases e
      exact Nat.lt_succ_of_lt (ih hb)

theorem length_reference {s name rest : List Char} (h : reference s = .ok (name, rest)) :
    rest.length ≤ s.length := by
  unfold reference at h
  split at h
  · next more =>
    split at h
    · next found =>
      cases h
      exact Nat.le_succ_of_le (Nat.le_of_lt (length_splitAtFirst found))
    · cases h
  · cases h
    exact (List.dropWhile_suffix isNameChar).length_le

/-- Reads on inside the given quotes. -/
def expandFrom (lookup : String → Option String) :
    Option Quote → List Char → Except Fault (List Char)
  | none, [] => .ok []
  | some _, [] => .error .unterminatedQuote
  | quote, c :: rest =>
    if quote = some .single then
      if c = '\'' then expandFrom lookup none rest
      else (c :: ·) <$> expandFrom lookup quote rest
    else if c = '\\' then
      match h : escaped rest with
      | .error fault => .error fault
      | .ok (d, after) =>
        have := length_escaped h
        (d :: ·) <$> expandFrom lookup quote after
    else if c = '$' then
      match h : reference rest with
      | .error fault => .error fault
      | .ok (name, after) =>
        have := length_reference h
        (Value.referenced lookup name ++ ·) <$> expandFrom lookup quote after
    else if quote = some .double then
      if c = '"' then expandFrom lookup none rest
      else (c :: ·) <$> expandFrom lookup quote rest
    else if c = '\'' then expandFrom lookup (some .single) rest
    else if c = '"' then expandFrom lookup (some .double) rest
    else if c = ' ' || c = '\t' then (fun _ => []) <$> checkEnd rest
    else (c :: ·) <$> expandFrom lookup none rest
  termination_by _ s => s.length
  decreasing_by all_goals simp_all only [List.length_cons]; omega

section Equations

variable {lookup : String → Option String} {quote : Option Quote} {rest : List Char}

theorem expandFrom_escape (unquoted : quote ≠ some .single) :
    expandFrom lookup quote ('\\' :: rest) =
      match escaped rest with
      | .error fault => .error fault
      | .ok (d, after) => (d :: ·) <$> expandFrom lookup quote after := by
  rw [expandFrom, if_neg unquoted, if_pos rfl]
  split <;> simp_all

theorem expandFrom_reference (unquoted : quote ≠ some .single) :
    expandFrom lookup quote ('$' :: rest) =
      match reference rest with
      | .error fault => .error fault
      | .ok (name, after) =>
        (Value.referenced lookup name ++ ·) <$> expandFrom lookup quote after := by
  rw [expandFrom, if_neg unquoted, if_neg (by decide), if_pos rfl]
  split <;> simp_all

end Equations

/-- The text that a value stands for. -/
def expand (lookup : String → Option String) (value : List Char) : Except Fault (List Char) :=
  expandFrom lookup none value

end Packfile.Dotenv.Expansion
