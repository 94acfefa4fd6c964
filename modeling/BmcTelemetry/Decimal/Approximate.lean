/-! Turning decimal numbers into floating-point numbers by one or two operations. -/

namespace BmcTelemetry.Decimal

/-- The floating-point number closest to a natural number. -/
def ofSignificand (significand : Nat) : Float :=
  Float.ofScientific significand false 0

/-- The floating-point number closest to a power of ten. -/
def powerOfTen (exponent : Nat) : Float :=
  Float.ofScientific 1 false exponent

/-- The greatest power of ten that is a finite floating-point number. -/
def greatestPower : Nat := 308

/--
The product of a significand below 2^64 and a power of ten, absent when it is too large.

The significand and the power are rounded before they are combined, so the result may differ in its
last bits from the closest floating-point number.
-/
def magnitude? (significand : Nat) (exponent : Int) : Option Float :=
  let number := ofSignificand significand
  let size := exponent.natAbs
  if significand = 0 then some number
  else if 0 ≤ exponent then
    if greatestPower < size then none
    else
      let product := number * powerOfTen size
      if product.isInf then none else some product
  else if size ≤ greatestPower then some (number / powerOfTen size)
  -- One division is not enough, but after two of them nothing is left of any significand.
  else if size ≤ 2 * greatestPower then
    some (number / powerOfTen greatestPower / powerOfTen (size - greatestPower))
  else some 0

end BmcTelemetry.Decimal
