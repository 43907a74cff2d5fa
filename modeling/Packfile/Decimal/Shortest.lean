import Packfile.Decimal.Binary64

/-!
# The shortest decimal number

Of the decimal numbers that are read back as a given number of double precision, the one with the
fewest digits is written, and of several with that many digits the one nearest to the number; if two
are equally near, the one that ends in an even digit.

Decimal numbers with few digits lie on a coarse grid of multiples of a power of ten. If any point of
a grid is read back as the number, one of the two points around the number is, so only these two
are tried, on finer and finer grids.
-/

namespace Packfile

/-- The number `digits * 10 ^ exponent`. -/
structure Decimal where
  digits : Nat
  exponent : Int
  deriving DecidableEq, Repr

namespace Decimal

/-- The decimal numbers that are read as a number of double precision, as quotients with a common
denominator. -/
structure Interval where
  lower : Nat
  value : Nat
  upper : Nat
  den : Nat
  /-- Whether the bounds belong to the interval. -/
  closed : Bool

namespace Interval

/-- The interval of `significand * 2 ^ exponent`. It reaches halfway to the neighbours, of which the
lower one is nearer if the significand is a power of two. -/
def of (significand : Nat) (exponent : Int) : Interval :=
  let lowerStep :=
    if significand = Nat.pow 2 (Binary64.precision - 1) && Binary64.minExponent < exponent then 1
    else 2
  let scaled (quarters : Nat) : Nat := quarters * Nat.pow 2 exponent.toNat
  { lower := scaled (4 * significand - lowerStep)
    value := scaled (4 * significand)
    upper := scaled (4 * significand + 2)
    den := 4 * Nat.pow 2 (-exponent).toNat
    closed := significand % 2 = 0 }

/-- Whether the quotient of a number by the denominator lies in the interval. -/
def contains (i : Interval) (num : Nat) : Bool :=
  if i.closed then i.lower ≤ num && num ≤ i.upper else i.lower < num && num < i.upper

/-- The interval divided by a power of ten. -/
def scale (i : Interval) (exponent : Int) : Interval :=
  let up := Nat.pow 10 (-exponent).toNat
  { i with
    lower := i.lower * up, value := i.value * up, upper := i.upper * up
    den := i.den * Nat.pow 10 exponent.toNat }

/-- The integer in the interval that is nearest to its value, if there is one. -/
def nearestInteger? (i : Interval) : Option Nat :=
  let below := i.value / i.den
  let remainder := i.value % i.den
  let hasBelow := 0 < below && i.contains (below * i.den)
  let hasAbove := i.contains ((below + 1) * i.den)
  let preferAbove := i.den < 2 * remainder || (2 * remainder = i.den && below % 2 = 1)
  if hasAbove && (preferAbove || !hasBelow) then some (below + 1)
  else if hasBelow then some below
  else none

end Interval

/-- The number in the interval on the first grid that has one, from the grid of an exponent down. -/
def search (i : Interval) : (fuel : Nat) → (exponent : Int) → Decimal
  | 0, exponent => ⟨i.value / i.den, exponent⟩
  | fuel + 1, exponent =>
    match (i.scale exponent).nearestInteger? with
    | some digits => ⟨digits, exponent⟩
    | none => search i fuel (exponent - 1)

/-- An exponent whose grid is too coarse for the number. -/
def coarseExponent (significand : Nat) (exponent : Int) : Int :=
  ((significand.log2 : Int) + exponent) * 30103 / 100000 + 2

/-- The most grids that are tried: seventeen digits always suffice. -/
def maxGrids : Nat := 24

/-- The shortest decimal number that is read as `significand * 2 ^ exponent`, for a significand that
is not zero. -/
def shortest (significand : Nat) (exponent : Int) : Decimal :=
  search (.of significand exponent) maxGrids (coarseExponent significand exponent)

/-- The least positive number has a single digit. -/
example : shortest 1 (-1074) = ⟨5, -324⟩ := by decide +kernel

example : shortest 0x1999999999999a (-56) = ⟨1, -1⟩ := by decide +kernel

end Decimal

end Packfile
