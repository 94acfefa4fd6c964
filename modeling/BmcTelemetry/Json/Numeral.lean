import BmcTelemetry.Decimal.Approximate
import BmcTelemetry.Decimal.Layout

/-! Numbers as JSON spells them: their grammar, their text and their values. -/

namespace BmcTelemetry

/-- The sign in front of an exponent, which may be left out. -/
inductive ExponentSign where
  | none
  | plus
  | minus
deriving DecidableEq, Repr

/-- A number as it is spelled, digit for digit. -/
structure Numeral where
  /-- Whether a minus sign stands in front. -/
  negative : Bool
  /-- The digits before the point. -/
  whole : List Digit
  /-- The digits after the point; no digits stand for no point. -/
  fraction : List Digit
  /-- The exponent with its sign, if there is one. -/
  exponent : Option (ExponentSign × List Digit)
deriving DecidableEq, Repr

namespace Numeral

/-! The text of a numeral. -/

/-- How a sign is written. -/
def signChars : ExponentSign → List Char
  | .none => []
  | .plus => ['+']
  | .minus => ['-']

/-- How an exponent is written. -/
def exponentChars : Option (ExponentSign × List Digit) → List Char
  | none => []
  | some (sign, digits) => 'e' :: signChars sign ++ digits.map Digit.toChar

/-- The text of a numeral. -/
def toChars (numeral : Numeral) : List Char :=
  (if numeral.negative then ['-'] else [])
    ++ numeral.whole.map Digit.toChar
    ++ (if numeral.fraction.isEmpty then [] else '.' :: numeral.fraction.map Digit.toChar)
    ++ exponentChars numeral.exponent

/-! The grammar of a numeral. -/

/-- Reads the digits before the point; zero stands alone. -/
def readWhole (text : List Char) : Option (List Digit × List Char) :=
  match Digit.front text with
  | ([], _) => none
  | (0 :: _ :: _, _) => none
  | found => some found

/-- Reads a point and at least one digit after it, if a point comes next. -/
def readFraction : List Char → Option (List Digit × List Char)
  | '.' :: text =>
    match Digit.front text with
    | ([], _) => none
    | found => some found
  | text => some ([], text)

/-- Reads a sign, if one comes next. -/
def readSign : List Char → ExponentSign × List Char
  | '+' :: text => (.plus, text)
  | '-' :: text => (.minus, text)
  | text => (.none, text)

/-- Reads the mark of an exponent and at least one digit after it, if a mark comes next. -/
def readExponent (text : List Char) :
    Option (Option (ExponentSign × List Digit) × List Char) :=
  match text with
  | [] => some (none, [])
  | mark :: rest =>
    if mark = 'e' ∨ mark = 'E' then
      let (sign, rest) := readSign rest
      match Digit.front rest with
      | ([], _) => none
      | (digits, rest) => some (some (sign, digits), rest)
    else some (none, mark :: rest)

/-- Reads a numeral, and gives what follows it. -/
def read (text : List Char) : Option (Numeral × List Char) := do
  let (negative, text) := match text with
    | '-' :: rest => (true, rest)
    | rest => (false, rest)
  let (whole, text) ← readWhole text
  let (fraction, text) ← readFraction text
  let (exponent, text) ← readExponent text
  return ({ negative, whole, fraction, exponent }, text)

/-! The value of a numeral. -/

/-- Appends digits to a significand while it stays below 2^64; the rest is left over. -/
def absorb : Nat → List Digit → Nat × List Digit
  | significand, [] => (significand, [])
  | significand, digit :: rest =>
    let grown := significand * 10 + digit.val
    if grown < UInt64.size then absorb grown rest else (significand, digit :: rest)

/-- The exponent that is spelled out, zero when there is none. -/
def spelledExponent : Option (ExponentSign × List Digit) → Int
  | none => 0
  | some (.minus, digits) => -Int.ofNat (Digit.toNat digits)
  | some (_, digits) => Int.ofNat (Digit.toNat digits)

/-- The significand that is kept, and the power of ten that goes with it. -/
def scaled (numeral : Numeral) : Nat × Int :=
  let (whole, uncounted) := absorb 0 numeral.whole
  let (significand, dropped) := absorb whole numeral.fraction
  -- Whole digits that do not fit count as powers of ten; fraction digits that do not are dropped.
  let shift := Int.ofNat uncounted.length
    - Int.ofNat (numeral.fraction.length - dropped.length)
  (significand, shift + spelledExponent numeral.exponent)

/-- The value as a floating-point number, absent when it is too large. -/
def toFloat? (numeral : Numeral) : Option Float :=
  let (significand, exponent) := numeral.scaled
  (Decimal.magnitude? significand exponent).map fun magnitude =>
    if numeral.negative then -magnitude else magnitude

/-- The value as a byte; only whole numbers without sign, point and exponent have one. -/
def toByte? (numeral : Numeral) : Option UInt8 :=
  let number := Digit.toNat numeral.whole
  if numeral.negative || !numeral.fraction.isEmpty || numeral.exponent.isSome then none
  else if number < 256 then some (UInt8.ofNat number) else none

/-- A natural number in digits. -/
def ofNat (number : Nat) : Numeral :=
  { negative := false, whole := Digit.ofNat number, fraction := [], exponent := none }

/--
A finite floating-point number in its shortest digits, in a tie the even ones.

Magnitudes from 10^-5 up to 10^16 have a point and at least one digit after it; all others have an
exponent with its sign.
-/
def ofFloat (number : Float) : Numeral :=
  let laid := Decimal.Laid.ofFloat .toEven number
  if -5 ≤ laid.leading ∧ laid.leading < 16 then
    let (whole, fraction) := laid.aroundPoint
    { negative := laid.negative, whole,
      fraction := if fraction.isEmpty then Digit.ofNat 0 else fraction, exponent := none }
  else
    let sign := if laid.leading < 0 then ExponentSign.minus else .plus
    { negative := laid.negative, whole := laid.digits.take 1, fraction := laid.digits.drop 1,
      exponent := some (sign, Digit.ofNat laid.leading.natAbs) }

end Numeral

end BmcTelemetry
