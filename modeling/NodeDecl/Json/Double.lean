/-!
# Double precision numbers

A finite binary64 number as a sign, a mantissa and an exponent, with the two
conversions that JSON text needs. `ofDecimal?` rounds a decimal significand and a
power of ten to binary64, and `shortest` finds the fewest decimal digits that
round back to a given number. Both work in exact arithmetic on natural numbers,
so no machine floating point is involved.
-/

namespace NodeDecl.Json

/-- The number `± mantissa · 2 ^ exponent`. Numbers built in this module are
canonical: either `2 ^ 52 ≤ mantissa < 2 ^ 53`, or the exponent is the least one
and the mantissa is smaller (subnormal numbers and both zeros). -/
structure Double where
  negative : Bool
  mantissa : Nat
  exponent : Int
deriving DecidableEq, Repr

/-- The quotient of two natural numbers rounded to the nearest natural number; a
tie goes to the even one. -/
def roundHalfEven (numerator denominator : Nat) : Nat :=
  let quotient := numerator / denominator
  let doubled := 2 * (numerator % denominator)
  if doubled < denominator then quotient
  else if denominator < doubled then quotient + 1
  else quotient + quotient % 2

/-- A power of two. -/
def powerOfTwo (exponent : Nat) : Nat :=
  Nat.pow 2 exponent

/-- A power of ten. -/
def powerOfTen (exponent : Nat) : Nat :=
  Nat.pow 10 exponent

namespace Double

/-- The least mantissa of 53 bits. -/
def hiddenBit : Nat := powerOfTwo 52

/-- The exponent of subnormal numbers. -/
def leastExponent : Int := -1074

/-- The exponent of the largest finite numbers. -/
def greatestExponent : Int := 971

/-- Zero with a sign. -/
def zero (negative : Bool) : Double :=
  { negative, mantissa := 0, exponent := leastExponent }

/-- A fraction divided by a power of two, as numerator and denominator. -/
def scaleDown (numerator denominator : Nat) (exponent : Int) : Nat × Nat :=
  if 0 ≤ exponent then (numerator, denominator * powerOfTwo exponent.toNat)
  else (numerator * powerOfTwo (-exponent).toNat, denominator)

/-- The exponent at which a positive fraction has a mantissa of 53 bits, or the
least exponent for a smaller fraction. -/
def exponentOf (numerator denominator : Nat) : Int :=
  let guess : Int := (numerator.log2 : Int) - denominator.log2 - 52
  let (scaled, divisor) := scaleDown numerator denominator guess
  max leastExponent (if hiddenBit * divisor ≤ scaled then guess else guess - 1)

/-- The number nearest to `± numerator / denominator`, ties to the even mantissa,
or `none` if it lies beyond the finite numbers. -/
def ofRatio? (negative : Bool) (numerator denominator : Nat) : Option Double :=
  if numerator = 0 then some (zero negative)
  else
    let exponent := exponentOf numerator denominator
    let (scaled, divisor) := scaleDown numerator denominator exponent
    let mantissa := roundHalfEven scaled divisor
    let rounded : Double :=
      if mantissa = 2 * hiddenBit then { negative, mantissa := hiddenBit, exponent := exponent + 1 }
      else { negative, mantissa, exponent }
    if rounded.exponent ≤ greatestExponent then some rounded else none

/-- The absolute value of a number as numerator and denominator. -/
def toRatio (number : Double) : Nat × Nat :=
  scaleDown number.mantissa 1 (-number.exponent)

/-- The rounded product of a number and a power of ten that is itself rounded. -/
def timesPowerOfTen? (number : Double) (power : Nat) : Option Double := do
  let factor ← ofRatio? false (powerOfTen power) 1
  let (a, b) := number.toRatio
  let (c, d) := factor.toRatio
  ofRatio? number.negative (a * c) (b * d)

/-- The rounded quotient of a number and a power of ten that is itself rounded. -/
def overPowerOfTen? (number : Double) (power : Nat) : Option Double := do
  let divisor ← ofRatio? false (powerOfTen power) 1
  let (a, b) := number.toRatio
  let (c, d) := divisor.toRatio
  ofRatio? number.negative (a * d) (b * c)

/-- The largest power of ten that is a finite number. -/
def greatestPower : Nat := 308

/-- Repeated division by the largest power of ten, until nothing is left. -/
def overGreatestPower? : Nat → Double → Option Double
  | 0, number => some number
  | count + 1, number =>
      if number.mantissa = 0 then some number
      else (number.overPowerOfTen? greatestPower).bind (overGreatestPower? count)

/-- A number times a power of ten. Each step rounds: a single product or quotient
while the power is itself a finite number, and otherwise division by the largest
such power as often as it takes. A product beyond the finite numbers is `none`;
zero stays zero under every power. -/
def shift? (number : Double) (power : Int) : Option Double :=
  if power < 0 then
    let places := (-power).toNat
    let divisions := (places - 1) / greatestPower
    (overGreatestPower? divisions number).bind
      (·.overPowerOfTen? (places - divisions * greatestPower))
  else if power ≤ greatestPower then number.timesPowerOfTen? power.toNat
  else if number.mantissa = 0 then some number
  else none

/-- The number written as a decimal significand and a power of ten: the
significand is rounded first and then shifted. -/
def ofDecimal? (negative : Bool) (significand : Nat) (power : Int) : Option Double := do
  let whole ← ofRatio? negative significand 1
  whole.shift? power

/-- How many digits the decimal grids have that are searched for a shortest form.
Every number is the only one nearest to its best form of this many digits. -/
def mostDigits : Nat := 17

/-- A decimal `digits · 10 ^ power`. -/
structure Decimal where
  digits : Nat
  power : Int
deriving DecidableEq, Repr

/-- Position of the decimal point: the least `p` with `numerator / denominator <
10 ^ p`, for fractions of at least `10 ^ -324`. -/
def decimalPoint (numerator denominator : Nat) : Int :=
  ((Nat.toDigits 10 (numerator * powerOfTen 324 / denominator)).length : Int) - 324

/-- The decimal of `count` digits that is nearest to a positive number among those
that round to it, if there is one. The reals that round to `m · 2 ^ e` reach half
a unit up and half a unit down, only a quarter down where the exponent changes;
both ends belong to them exactly if `m` is even. A tie goes to the even digit. -/
def nearestDecimal? (number : Double) (count : Nat) : Option Decimal :=
  let (numerator, denominator) := number.toRatio
  let power := decimalPoint numerator denominator - count
  -- Everything is measured in quarters of the unit of the mantissa.
  let quarters := 4 * number.mantissa
  let below := if number.mantissa = hiddenBit ∧ leastExponent < number.exponent then 1 else 2
  let (unit, unitDivisor) := scaleDown 1 1 (-(number.exponent - 2))
  let (grid, gridDivisor) :=
    if 0 ≤ power then (powerOfTen power.toNat, 1) else (1, powerOfTen (-power).toNat)
  let measure (digits : Nat) := digits * grid * unitDivisor
  let ruler := unit * gridDivisor
  let reaches (digits : Nat) :=
    let low := (quarters - below) * ruler
    let high := (quarters + 2) * ruler
    if number.mantissa % 2 = 0 then low ≤ measure digits ∧ measure digits ≤ high
    else low < measure digits ∧ measure digits < high
  let lower := quarters * ruler / (grid * unitDivisor)
  let distanceBelow := quarters * ruler - measure lower
  let distanceAbove := measure (lower + 1) - quarters * ruler
  if reaches lower then
    if reaches (lower + 1) ∧ (distanceAbove < distanceBelow ∨
        distanceAbove = distanceBelow ∧ lower % 2 = 1) then
      some { digits := lower + 1, power }
    else some { digits := lower, power }
  else if reaches (lower + 1) then some { digits := lower + 1, power }
  else none

/-- The fewest digits that round back to a positive number, and of those the
nearest. -/
def shortest (number : Double) : Decimal :=
  ((List.range mostDigits).findSome? fun fewer => number.nearestDecimal? (fewer + 1)).getD
    { digits := 0, power := 0 }

/-- Significant digits of a decimal, without zeros at the end, and the power of
ten of the first of them. -/
def Decimal.scientific (decimal : Decimal) : List Char × Int :=
  let digits := Nat.toDigits 10 decimal.digits
  let significant := (digits.reverse.dropWhile (· = '0')).reverse
  (significant, decimal.power + digits.length - 1)

/-- The text of the absolute value of a number. Powers of ten from -5 to 15 are
written positionally and always with a point; others have one digit before the
point, no point if that is the only digit, and a signed exponent. -/
def magnitudeText (number : Double) : List Char :=
  if number.mantissa = 0 then ['0', '.', '0']
  else
    let (digits, power) := number.shortest.scientific
    if power < -5 ∨ 15 < power then
      let exponent := (if power < 0 then '-' else '+') :: Nat.toDigits 10 power.natAbs
      match digits with
      | [] => []
      | [digit] => digit :: 'e' :: exponent
      | digit :: rest => digit :: '.' :: rest ++ 'e' :: exponent
    else if power < 0 then
      '0' :: '.' :: List.replicate (power.natAbs - 1) '0' ++ digits
    else
      let whole := power.toNat + 1
      let fraction := digits.drop whole
      (digits ++ List.replicate (whole - digits.length) '0').take whole ++
        '.' :: (if fraction.isEmpty then ['0'] else fraction)

/-- The text of a number; both zeros keep their sign. -/
def text (number : Double) : List Char :=
  if number.negative then '-' :: number.magnitudeText else number.magnitudeText

end Double

end NodeDecl.Json
