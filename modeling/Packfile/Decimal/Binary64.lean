/-!
# Binary numbers of double precision

A number of double precision is a sign and a significand of at most fifty-three bits that is scaled
by a power of two. A decimal number is read as the nearest such number, computed exactly; halfway
between two of them the even significand is taken.
-/

namespace Packfile

/-- A number of double precision. -/
inductive Binary64 where
  /-- The number `significand * 2 ^ exponent`, with a sign. -/
  | finite (negative : Bool) (significand : Nat) (exponent : Int)
  | infinite (negative : Bool)
  | notANumber
  deriving DecidableEq, Repr

namespace Binary64

/-- The number of bits of a full significand. -/
def precision : Nat := 53

/-- The least exponent. -/
def minExponent : Int := -1074

/-- The greatest exponent. -/
def maxExponent : Int := 971

/-- The integer nearest to a quotient; of two equally near ones the even one. -/
def roundQuotient (num den : Nat) : Nat :=
  let floor := num / den
  let twice := 2 * (num % den)
  if den < twice || (twice = den && floor % 2 = 1) then floor + 1 else floor

/-- A quotient divided by a power of two, as a quotient. -/
def scaleDown (num den : Nat) (exponent : Int) : Nat × Nat :=
  if 0 ≤ exponent then (num, den * Nat.pow 2 exponent.toNat)
  else (num * Nat.pow 2 (-exponent).toNat, den)

/-- The exponent at which a quotient has a full significand, or the least one. -/
def exponentOf (num den : Nat) : Int :=
  let guess : Int := (num.log2 : Int) - den.log2 - (precision - 1 : Nat)
  let (scaledNum, scaledDen) := scaleDown num den guess
  let exact := if scaledNum < scaledDen * Nat.pow 2 (precision - 1) then guess - 1 else guess
  max exact minExponent

/-- The number nearest to a positive quotient. -/
def ofQuotient (negative : Bool) (num den : Nat) : Binary64 :=
  let exponent := exponentOf num den
  let (scaledNum, scaledDen) := scaleDown num den exponent
  let rounded := roundQuotient scaledNum scaledDen
  let (significand, exponent) :=
    if rounded = Nat.pow 2 precision then (Nat.pow 2 (precision - 1), exponent + 1)
    else (rounded, exponent)
  if maxExponent < exponent then .infinite negative else .finite negative significand exponent

/-- Zero, which has a sign, too. -/
def zero (negative : Bool) : Binary64 :=
  .finite negative 0 minExponent

/-- The powers of ten that a number of double precision can reach; a decimal number beyond them is
infinite or zero. -/
def maxDecimalExponent : Int := 400

/-- The number nearest to `digits * 10 ^ exponent`. -/
def ofDecimal (negative : Bool) (digits : Nat) (exponent : Int) : Binary64 :=
  let magnitude := exponent + (Nat.toDigits 10 digits).length
  if digits = 0 || magnitude < -maxDecimalExponent then zero negative
  else if maxDecimalExponent < magnitude then .infinite negative
  else if 0 ≤ exponent then ofQuotient negative (digits * Nat.pow 10 exponent.toNat) 1
  else ofQuotient negative digits (Nat.pow 10 (-exponent).toNat)

/-- Whether two numbers count as the same: the two zeros do, and all that are not numbers. -/
def same : Binary64 → Binary64 → Bool
  | .finite _ 0 _, .finite _ 0 _ => true
  | a, b => a = b

/-- Halfway between two numbers the even one is taken. -/
example : ofDecimal false 9007199254740993 0 = ofDecimal false 9007199254740992 0 := by
  decide +kernel

end Binary64

end Packfile
