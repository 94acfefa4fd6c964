import BmcTelemetry.Text.Blank
import BmcTelemetry.Text.Hex

/-! Reading the bytes that the command-line tool prints. -/

namespace BmcTelemetry.Tool

/-- A token without the marks of hexadecimal in front of it. -/
def unmarked : List Char → List Char
  | '0' :: 'x' :: rest => unmarked rest
  | chars => chars

/-- The number that digits spell, absent when there are none or one of them is no digit. -/
def hexNumber? (digits : List Char) : Option Nat :=
  if digits.isEmpty then none
  else digits.foldl (fun number digit => do
    return (← number) * 16 + (← Hex.value? digit)) (some 0)

/-- The byte that a token spells; anything that is no byte counts as zero. -/
def tokenByte (token : List Char) : UInt8 :=
  let digits := match unmarked token with
    -- A plus sign may stand in front of a number.
    | '+' :: rest => rest
    | chars => chars
  match hexNumber? digits with
  | some number => if number ≤ 255 then UInt8.ofNat number else 0
  | none => 0

/-- The answer that printed text stands for. -/
def parseOutput (text : List Char) : Bytes :=
  -- The tool prints a payload only when the completion code was zero, and leaves the code out.
  0x00 :: (Text.words text).map tokenByte

end BmcTelemetry.Tool
