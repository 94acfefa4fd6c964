/-! Decimal digits of natural numbers. -/

namespace BmcTelemetry

/-- One decimal digit. -/
abbrev Digit := Fin 10

namespace Digit

/-- How a digit is written. -/
def toChar (digit : Digit) : Char :=
  Char.ofNat (48 + digit.val)

/-- The digit that a character writes. -/
def ofChar? (char : Char) : Option Digit :=
  if within : 48 ≤ char.toNat ∧ char.toNat < 58 then
    some ⟨char.toNat - 48, by omega⟩
  else none

/-- The digits of a number, most significant first. -/
def ofNat (number : Nat) : List Digit :=
  if small : number < 10 then [⟨number, small⟩]
  else ofNat (number / 10) ++ [⟨number % 10, Nat.mod_lt _ (by decide)⟩]

/-- The number that digits spell. -/
def toNat (digits : List Digit) : Nat :=
  digits.foldl (fun number digit => number * 10 + digit.val) 0

/-- The digits at the front of a text, and what follows them. -/
def front : List Char → List Digit × List Char
  | [] => ([], [])
  | char :: rest =>
    match ofChar? char with
    | some digit => (digit :: (front rest).1, (front rest).2)
    | none => ([], char :: rest)

end Digit

end BmcTelemetry
