/-!
# Bytes as text

Output of a process should be UTF-8 but need not be. Reading it as text keeps every well-formed
character and puts one replacement character for every maximal start of a character that is broken
off, and for every byte that starts none.
-/

namespace Packfile.Text

/-- Bytes are compared as the core library does it, whatever else is imported. -/
instance decidableEqBytes : DecidableEq ByteArray := ByteArray.instDecidableEq

/-- What stands for bytes that are no character. -/
def replacement : Char := '\ufffd'

/-- Whether a byte continues a character, within the given bounds. -/
def continues (low high : Nat) (b : UInt8) : Bool :=
  low ≤ b.toNat && b.toNat ≤ high

/-- The character of a code. -/
def charOfCode (code : Nat) : Char :=
  if h : code.isValidChar then Char.ofNatAux code h else replacement

/-- The bounds of the second byte, which exclude surrogates, codes that are too large and codes that
have a shorter form. -/
def secondBounds (lead : Nat) : Nat × Nat :=
  if lead = 0xe0 then (0xa0, 0xbf)
  else if lead = 0xed then (0x80, 0x9f)
  else if lead = 0xf0 then (0x90, 0xbf)
  else if lead = 0xf4 then (0x80, 0x8f)
  else (0x80, 0xbf)

/-- The number of bytes after the lead byte and the bits of the code in it; `none` for a byte that
starts no character. -/
def leadByte (lead : Nat) : Option (Nat × Nat) :=
  if lead < 0x80 then some (0, lead)
  else if 0xc2 ≤ lead && lead ≤ 0xdf then some (1, lead - 0xc0)
  else if 0xe0 ≤ lead && lead ≤ 0xef then some (2, lead - 0xe0)
  else if 0xf0 ≤ lead && lead ≤ 0xf4 then some (3, lead - 0xf0)
  else none

/-- Reads on, with `missing` bytes still due for the code so far, the next of them between the
bounds. -/
def decodeLossyFrom : (missing code low high : Nat) → List UInt8 → List Char
  | 0, _, _, _, [] => []
  | _ + 1, _, _, _, [] => [replacement]
  | 0, _, _, _, b :: rest =>
    match leadByte b.toNat with
    | none => replacement :: decodeLossyFrom 0 0 0 0 rest
    | some (0, code) => charOfCode code :: decodeLossyFrom 0 0 0 0 rest
    | some (missing + 1, code) =>
      let (low, high) := secondBounds b.toNat
      decodeLossyFrom (missing + 1) code low high rest
  | missing + 1, code, low, high, b :: rest =>
    if continues low high b then
      let code := code * 64 + (b.toNat - 0x80)
      if missing = 0 then charOfCode code :: decodeLossyFrom 0 0 0 0 rest
      else decodeLossyFrom missing code 0x80 0xbf rest
    else
      match leadByte b.toNat with
      | none => replacement :: replacement :: decodeLossyFrom 0 0 0 0 rest
      | some (0, code) => replacement :: charOfCode code :: decodeLossyFrom 0 0 0 0 rest
      | some (missing + 1, code) =>
        let (low, high) := secondBounds b.toNat
        replacement :: decodeLossyFrom (missing + 1) code low high rest

/-- The text of bytes. -/
def decodeLossy (bytes : ByteArray) : String :=
  String.ofList (decodeLossyFrom 0 0 0 0 bytes.toList)

end Packfile.Text
