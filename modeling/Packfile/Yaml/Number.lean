import Packfile.Decimal.Shortest

/-!
# Numbers

A number is an integer of at most sixty-four bits or of double precision. Integers are written in
decimal. A number of double precision is written with the fewest digits that read back: positional
from 0.00001 up to sixteen digits before the point, with an exponent beyond, and with `.0` where
there would be no point.
-/

namespace Packfile.Yaml

/-- A number. -/
inductive Number where
  | integer (value : Int)
  | float (value : Binary64)
  deriving DecidableEq, Repr

namespace Number

/-- Whether two numbers count as the same; an integer never counts as one of double precision. -/
def same : Number → Number → Bool
  | .integer a, .integer b => a = b
  | .float a, .float b => a.same b
  | _, _ => false

/-- The most digits before the point in positional notation. -/
def maxIntegerDigits : Int := 16

/-- The most zeros between the point and the first digit in positional notation. -/
def maxLeadingZeros : Int := 4

/-- Digits with the point after the first `point` of them; zeros fill up what is missing. -/
def positional (digits : List Char) (point : Int) : List Char :=
  let zeros (count : Int) : List Char := List.replicate count.toNat '0'
  if (digits.length : Int) ≤ point then digits ++ zeros (point - digits.length) ++ ".0".toList
  else if 0 < point then digits.take point.toNat ++ '.' :: digits.drop point.toNat
  else "0.".toList ++ zeros (-point) ++ digits

/-- Digits with the point after the first of them and an exponent. -/
def scientific (digits : List Char) (exponent : Int) : List Char :=
  let fraction := if 1 < digits.length then '.' :: digits.drop 1 else []
  digits.take 1 ++ fraction ++ 'e' :: (toString exponent).toList

/-- A decimal number as text. -/
def decimalText (number : Decimal) : List Char :=
  let digits := Nat.toDigits 10 number.digits
  let point := (digits.length : Int) + number.exponent
  if -maxLeadingZeros ≤ point && point ≤ maxIntegerDigits then positional digits point
  else scientific digits (point - 1)

/-- A number of double precision as text. -/
def floatText : Binary64 → String
  | .notANumber => ".nan"
  | .infinite negative => (if negative then "-" else "") ++ ".inf"
  | .finite negative significand exponent =>
    let magnitude :=
      if significand = 0 then "0.0"
      else String.ofList (decimalText (.shortest significand exponent))
    (if negative then "-" else "") ++ magnitude

/-- A number as text. -/
def render : Number → String
  | .integer value => toString value
  | .float value => floatText value

example : decimalText ⟨1, 21⟩ = "1e21".toList := by decide +kernel

example : decimalText ⟨15, -1⟩ = "1.5".toList := by decide +kernel

example : decimalText ⟨1, -5⟩ = "0.00001".toList := by decide +kernel

end Number

end Packfile.Yaml
