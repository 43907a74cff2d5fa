import Packfile.Yaml.Token.Basic
import Packfile.Yaml.Token.Scalar

/-!
# Anchors, tags and directives

The words that stand before a node or at the head of a document. Each reader gives what it has read
and the place after it, or nothing if the word is not well formed.
-/

namespace Packfile.Yaml

/-- Whether a name may end before the text. -/
def nameMayEnd (text : List Char) : Bool :=
  text.head?.all fun c => isGap c || "?:,]\x7d%@\x60".toList.contains c

/-- The name of an anchor or an alias, after its first character. -/
def readName (here : Cursor) : Option (String × Cursor) :=
  let (name, here) := here.takeWhile isNameCharacter
  if name.isEmpty || !nameMayEnd here.rest then none else some (String.ofList name, here)

/-! ## Tags -/

/-- Whether the character may stand in a tag; commas and brackets only in one that is delimited. -/
def isTagCharacter (delimited : Bool) (c : Char) : Bool :=
  isNameCharacter c || ";/?:@&=+$.!~*'()".toList.contains c
    || (delimited && ",[]".toList.contains c)

/-- The value of two hexadecimal digits after a percent sign. -/
def percentOctet? : List Char → Option (Nat × List Char)
  | '%' :: a :: b :: rest => do
    return ((← hexDigit? a) * 16 + (← hexDigit? b), rest)
  | _ => none

/-- The number of octets of a character and the bits of it that its first octet holds. -/
def leadingOctet? (octet : Nat) : Option (Nat × Nat) :=
  if octet < 0x80 then some (1, octet)
  else if octet / 0x20 = 6 then some (2, octet % 0x20)
  else if octet / 0x10 = 14 then some (3, octet % 0x10)
  else if octet / 0x8 = 30 then some (4, octet % 0x8)
  else none

/-- The remaining octets of a character. -/
def continuationOctets : Nat → (code : Nat) → List Char → Option (Nat × List Char)
  | 0, code, text => some (code, text)
  | count + 1, code, text => do
    let (octet, rest) ← percentOctet? text
    if octet / 0x40 = 2 then continuationOctets count (code * 0x40 + octet % 0x40) rest else none

/-- A character that is written as percent signs with its octets. -/
def percentCharacter? (text : List Char) : Option (Char × List Char) := do
  let (octet, rest) ← percentOctet? text
  let (count, bits) ← leadingOctet? octet
  let (code, rest) ← continuationOctets (count - 1) bits rest
  return ((characterOf? code).getD '\ufffd', rest)

/-- The characters of a tag, at most as many steps as `fuel` allows. -/
def readTagCharacters (delimited : Bool) : (fuel : Nat) → List Char →
    Option (List Char × List Char)
  | 0, text => some ([], text)
  | fuel + 1, text =>
    match text with
    | [] => some ([], [])
    | '%' :: _ => do
      let (c, rest) ← percentCharacter? text
      let (others, rest) ← readTagCharacters delimited fuel rest
      return (c :: others, rest)
    | c :: rest =>
      if isTagCharacter delimited c then do
        let (others, rest) ← readTagCharacters delimited fuel rest
        return (c :: others, rest)
      else some ([], text)

/-- The characters of a tag from a place on. -/
def readTagText (delimited : Bool) (here : Cursor) : Option (String × Cursor) := do
  let (text, rest) ← readTagCharacters delimited here.rest.length here.rest
  return (String.ofList text, here.skip (here.rest.length - rest.length))

/-- The handle of a tag: exclamation marks, with a name between them if there are two. Without the
second mark it is not a handle yet. -/
def readHandle (here : Cursor) : Option (List Char × Cursor) :=
  if here.peek? = some '!' then
    let (name, here) := (here.skip 1).takeWhile isNameCharacter
    if here.peek? = some '!' then some ('!' :: name ++ ['!'], here.skip 1)
    else some ('!' :: name, here)
  else none

/-- A tag between angle brackets, which is written out. -/
def readVerbatimTag (here : Cursor) : Option (WrittenTag × Cursor) := do
  let (text, here) ← readTagText true (here.skip 2)
  if text = "" then none
  else if here.peek? = some '>' then some (⟨"", text⟩, here.skip 1)
  else none

/-- A tag with a handle. A single mark in front is a handle, too, unless it stands alone. -/
def readShortTag (here : Cursor) : Option (WrittenTag × Cursor) := do
  let (handle, here) ← readHandle here
  let (text, here) ← readTagText false here
  if 1 < handle.length && handle.getLast? = some '!' then
    if text = "" then none else some (⟨String.ofList handle, text⟩, here)
  else
    let suffix := String.ofList (handle.drop 1) ++ text
    some (if suffix = "" then ⟨"", "!"⟩ else ⟨"!", suffix⟩, here)

/-- A tag, which has to be followed by space or, inside brackets, by a comma. -/
def readTag (inFlow : Bool) (here : Cursor) : Option (WrittenTag × Cursor) := do
  let (tag, here) ←
    if (here.skip 1).peek? = some '<' then readVerbatimTag here else readShortTag here
  if startsWithGap here.rest || (inFlow && here.peek? = some ',') then some (tag, here) else none

/-! ## Directives -/

/-- The longest part of a version number. -/
def maxVersionDigits : Nat := 9

/-- A part of a version number. -/
def readVersionNumber (here : Cursor) : Option (Nat × Cursor) :=
  let (digits, here) := here.takeWhile Char.isDigit
  if digits.isEmpty || maxVersionDigits < digits.length then none
  else some (digits.foldl (fun n c => n * 10 + (c.toNat - '0'.toNat)) 0, here)

/-- The two numbers of a version. -/
def readVersion (here : Cursor) : Option (Token × Cursor) := do
  let (major, here) ← readVersionNumber (here.skipWhile isSpace)
  if here.peek? = some '.' then
    let (minor, here) ← readVersionNumber (here.skip 1)
    return (.versionDirective major minor, here)
  else none

/-- A handle and what it stands for. -/
def readTagDefinition (here : Cursor) : Option (Token × Cursor) := do
  let (handle, here) ← readHandle (here.skipWhile isSpace)
  if handle.getLast? ≠ some '!' then none
  else if !here.peek?.any isSpace then none
  else
    let (start, here) ← readTagText true (here.skipWhile isSpace)
    if start ≠ "" && startsWithGap here.rest then
      some (.tagDirective (String.ofList handle) start, here)
    else none

/-- A directive, after its percent sign, and the start of the next line. -/
def readDirective (here : Cursor) : Option (Token × Cursor) := do
  let (name, here) := here.takeWhile isNameCharacter
  if name.isEmpty || !startsWithGap here.rest then none
  else
    let (token, here) ←
      if String.ofList name = "YAML" then readVersion here
      else if String.ofList name = "TAG" then readTagDefinition here
      else none
    return (token, ← here.finishLine)

end Packfile.Yaml
