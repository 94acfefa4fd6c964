import BmcTelemetry.Decimal.Digits

/-! The shortest decimal that reads back as a given binary floating-point number. -/

namespace BmcTelemetry.Decimal

/-- A finite number that is not negative, as a multiple of a power of two. -/
structure Binary where
  /-- The multiple. -/
  factor : Nat
  /-- The exponent of the power of two. -/
  exponent : Int
  /-- Whether the number below is half as far away as the number above. -/
  narrowBelow : Bool
deriving DecidableEq, Repr

/-- A decimal number, as a multiple of a power of ten. -/
structure Scaled where
  /-- The multiple. -/
  factor : Nat
  /-- The exponent of the power of ten. -/
  exponent : Int
deriving DecidableEq, Repr

/-- What is done when two decimals of one length are equally close. -/
inductive Tie where
  | toEven
  | upward
deriving DecidableEq, Repr

/-- A power of two. -/
def twoTo (exponent : Nat) : Nat := Nat.pow 2 exponent

/-- A power of ten. -/
def tenTo (exponent : Nat) : Nat := Nat.pow 10 exponent

namespace Binary

/-- The magnitude in the bits of a finite floating-point number. -/
def ofBits (bits : UInt64) : Binary :=
  let biased := bits.toNat / twoTo 52 % twoTo 11
  let fraction := bits.toNat % twoTo 52
  -- Numbers below the normal range share its lowest exponent and have no leading bit.
  if biased = 0 then { factor := fraction, exponent := -1074, narrowBelow := false }
  else
    { factor := twoTo 52 + fraction, exponent := Int.ofNat biased - 1075,
      narrowBelow := fraction == 0 && 1 < biased }

/-- Compares a decimal with a multiple of a power of two, exactly. -/
def compareScaled (decimal : Scaled) (factor : Nat) (exponent : Int) : Ordering :=
  compare (decimal.factor * tenTo decimal.exponent.toNat * twoTo (-exponent).toNat)
    (factor * twoTo exponent.toNat * tenTo (-decimal.exponent).toNat)

/-- Whether a decimal lies among the numbers that round to the given one. -/
def readsBack (number : Binary) (decimal : Scaled) : Bool :=
  -- The ends lie halfway to the neighbours, here in quarters of the lowest bit.
  let low := if number.narrowBelow then 4 * number.factor - 1 else 4 * number.factor - 2
  let high := 4 * number.factor + 2
  -- A tie rounds to the even neighbour, so the ends belong to even numbers alone.
  let closed := number.factor % 2 == 0
  let atLow := compareScaled decimal low (number.exponent - 2)
  let atHigh := compareScaled decimal high (number.exponent - 2)
  (atLow == .gt || (closed && atLow == .eq)) && (atHigh == .lt || (closed && atHigh == .eq))

/-- The number in units of a power of ten: the whole units, and what to divide to get them. -/
def quotient (number : Binary) (unit : Int) : Nat × Nat :=
  let above := number.factor * twoTo number.exponent.toNat * tenTo (-unit).toNat
  let below := twoTo (-number.exponent).toNat * tenTo unit.toNat
  (above, below)

/-- Whether the number is less than a power of ten. -/
def below (number : Binary) (power : Int) : Bool :=
  let (above, under) := number.quotient power
  above < under

/-- The least power of ten above the number, searched upwards from a power known to be too small. -/
def scale (number : Binary) : Int :=
  -- No finite number reaches ten to the 309, and none but zero is below ten to the minus 324.
  let powers := (List.range 640).map fun index => Int.ofNat index - 325
  (powers.find? number.below).getD 309

/-- The closer of the two decimals around the number on a grid, of those that read back. -/
def onGrid (tie : Tie) (number : Binary) (unit : Int) : Option Scaled :=
  let (above, under) := number.quotient unit
  let lower : Scaled := { factor := above / under, exponent := unit }
  let upper : Scaled := { factor := above / under + 1, exponent := unit }
  match number.readsBack lower, number.readsBack upper with
  | true, false => some lower
  | false, true => some upper
  | false, false => none
  | true, true =>
    match compare (2 * (above % under)) under with
    | .lt => some lower
    | .gt => some upper
    | .eq => if tie = .toEven ∧ lower.factor % 2 = 0 then some lower else some upper

/-- The units of decimals of one to seventeen digits, those of the fewest digits first. -/
def grids (number : Binary) : List Int :=
  (List.range 17).map fun count => number.scale - Int.ofNat (count + 1)

/-- The decimal that is equal to the number. -/
def exact (number : Binary) : Scaled :=
  let places := (-number.exponent).toNat
  { factor := number.factor * twoTo number.exponent.toNat * (tenTo places / twoTo places),
    exponent := min number.exponent 0 }

/-- The shortest decimal that reads back as the number; of several, the closest. -/
def shortest (tie : Tie) (number : Binary) : Scaled :=
  -- Seventeen digits always suffice; the exact value stands in as an answer that is never wrong.
  (number.grids.findSome? (number.onGrid tie)).getD number.exact

end Binary

/-- The same decimal without zeros at the end of its multiple. -/
def Scaled.stripped (decimal : Scaled) : Scaled :=
  if _more : 0 < decimal.factor ∧ decimal.factor % 10 = 0 then
    Scaled.stripped { factor := decimal.factor / 10, exponent := decimal.exponent + 1 }
  else decimal
termination_by decimal.factor
decreasing_by show decimal.factor / 10 < decimal.factor; omega

end BmcTelemetry.Decimal
