/-
# Double-precision numbers

A finite double is a sign and a magnitude counted in the smallest positive double, `2 ^ -1074`.
Every magnitude of the format is a natural number in that unit, so rounding, scaling and comparison
are exact arithmetic on natural numbers and no floating-point operation is involved.
-/

namespace TypedClient

/-- A finite double-precision number: `units` times `2 ^ -1074`, with a sign that zero keeps. -/
structure Double where
  negative : Bool
  units : Nat
  deriving DecidableEq, Repr

namespace Double

/-- The number of units in one. -/
def unitsPerOne : Nat := Nat.pow 2 1074

/-- The first magnitude beyond the range of the format, in units. -/
def unitLimit : Nat := Nat.pow 2 2098

/-- The spacing exponent at a magnitude: doubles near `units` lie `2 ^ spacing units` apart. -/
def spacing (units : Nat) : Nat :=
  Nat.log2 units - 52

/-- The multiple of `step` nearest to `num / den`; a tie goes to the even multiple. -/
def roundToMultiple (num den step : Nat) : Nat :=
  let quotient := num / (den * step)
  let twice := 2 * (num % (den * step))
  let up := twice > den * step || (twice == den * step && quotient % 2 == 1)
  (if up then quotient + 1 else quotient) * step

/-- The double nearest to `num / den`, ties to even, or nothing if it is beyond the range. -/
def nearest? (negative : Bool) (num den : Nat) : Option Double :=
  let scaled := num * unitsPerOne
  let units := roundToMultiple scaled den (Nat.pow 2 (spacing (scaled / den)))
  if units < unitLimit then some ⟨negative, units⟩ else none

/-- Zero with a sign. -/
def zero (negative : Bool) : Double := ⟨negative, 0⟩

/-- A power of ten that no finite double reaches and whose inverse is below every positive one. -/
def decimalLimit : Int := 400

/-- The double nearest to a decimal: `significand` times ten to `exponent`. A decimal beyond
`decimalLimit` is settled by its number of digits, so that no power is formed for it. -/
def ofDecimal? (negative : Bool) (significand : Nat) (exponent : Int) : Option Double :=
  let magnitude := exponent + (Nat.toDigits 10 significand).length
  if significand = 0 || magnitude < -decimalLimit then some (zero negative)
  else if decimalLimit < magnitude then none
  else if exponent < 0 then nearest? negative significand (Nat.pow 10 exponent.natAbs)
  else nearest? negative (significand * Nat.pow 10 exponent.natAbs) 1

/-- The double nearest to a natural number, if in range. -/
def ofNat? (negative : Bool) (n : Nat) : Option Double :=
  nearest? negative n 1

/-- The rounded product of two magnitudes, with the sign of the first. -/
def scaleBy? (x factor : Double) : Option Double :=
  nearest? x.negative (x.units * factor.units) (unitsPerOne * unitsPerOne)

/-- The rounded quotient of two magnitudes, with the sign of the first; the divisor is not zero. -/
def divideBy? (x divisor : Double) : Option Double :=
  nearest? x.negative x.units divisor.units

/-- The double nearest to a power of ten, for exponents up to 308. -/
def powerOfTen (exponent : Nat) : Double :=
  (nearest? false (Nat.pow 10 exponent) 1).getD (zero false)

end Double

end TypedClient
