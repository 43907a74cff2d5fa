import Packfile.Text.Printable

/-!
# Quoted text in messages

Messages show a text in double quotes and a character in single quotes, with everything that would
not show as itself written as an escape: `\n`, `\t`, `\r`, `\0`, a doubled backslash, a
backslash before the quote in use, and `\u` with the code in hexadecimal and braces for the rest.
-/

namespace Packfile.Text

/-- The digits of a number in lower-case hexadecimal. -/
def hexDigits (n : Nat) : List Char :=
  Nat.toDigits 16 n

/-- The escape that names a character by its code. -/
def unicodeEscape (c : Char) : List Char :=
  "\\u\x7b".toList ++ hexDigits c.toNat ++ ['}']

/-- A character as it appears between the given quotes. -/
def escaped (quote : Char) (c : Char) : List Char :=
  if c = '\n' then ['\\', 'n']
  else if c = '\t' then ['\\', 't']
  else if c = '\r' then ['\\', 'r']
  else if c = '\x00' then ['\\', '0']
  else if c = '\\' then ['\\', '\\']
  else if c = quote then ['\\', quote]
  else if isGraphemeExtend c || !isPrintable c then unicodeEscape c
  else [c]

/-- A text in double quotes. -/
def quoted (s : String) : String :=
  String.ofList ('"' :: (s.toList.flatMap (escaped '"') ++ ['"']))

/-- A character in single quotes. -/
def quotedChar (c : Char) : String :=
  String.ofList ('\'' :: (escaped '\'' c ++ ['\'']))

/-- Between double quotes a single quote needs no escape. -/
example : quoted "it's \"so\"\n" = "\"it's \\\"so\\\"\\n\"" := by decide

end Packfile.Text
