import BmcTelemetry.Decimal.Shortest

/-! Laying out floating-point numbers in decimal digits, with the point in its place. -/

namespace BmcTelemetry.Decimal

/-- A decimal number in digits, before it is decided how to write it. -/
structure Laid where
  /-- Whether the number is below zero, or zero with a sign. -/
  negative : Bool
  /-- The digits, without zeros at either end unless there is only one. -/
  digits : List Digit
  /-- The power of ten that the last digit stands for. -/
  exponent : Int
deriving DecidableEq, Repr

namespace Laid

/-- The shortest digits of a finite floating-point number. -/
def ofFloat (tie : Tie) (number : Float) : Laid :=
  let bits := number.toBits
  let binary := Binary.ofBits bits
  let negative := bits.toNat.testBit 63
  -- Zero has no leading digit to search for.
  if binary.factor = 0 then { negative, digits := [0], exponent := 0 }
  else
    let decimal := (binary.shortest tie).stripped
    { negative, digits := Digit.ofNat decimal.factor, exponent := decimal.exponent }

/-- The power of ten that the first digit stands for. -/
def leading (laid : Laid) : Int :=
  laid.exponent + Int.ofNat laid.digits.length - 1

/-- The digits before and after the point. -/
def aroundPoint (laid : Laid) : List Digit × List Digit :=
  if 0 ≤ laid.exponent then
    (laid.digits ++ List.replicate laid.exponent.toNat 0, [])
  else if 0 ≤ laid.leading then
    let whole := (laid.leading + 1).toNat
    (laid.digits.take whole, laid.digits.drop whole)
  else
    -- A number below one has zeros between the point and its first digit.
    ([0], List.replicate (-laid.leading - 1).toNat 0 ++ laid.digits)

/-- The number written with a point and never with an exponent. -/
def positional (laid : Laid) : String :=
  let (whole, fraction) := laid.aroundPoint
  let sign := if laid.negative then ['-'] else []
  let point := if fraction.isEmpty then [] else '.' :: fraction.map Digit.toChar
  String.ofList (sign ++ whole.map Digit.toChar ++ point)

end Laid

/-- How a finite number is written in messages: a tie between two decimals goes upward. -/
def shown (number : Float) : String :=
  (Laid.ofFloat .upward number).positional

end BmcTelemetry.Decimal
