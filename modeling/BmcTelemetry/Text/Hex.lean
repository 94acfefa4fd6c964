import BmcTelemetry.Bytes

/-! Bytes and words written in hexadecimal digits. -/

namespace BmcTelemetry.Hex

/-- The lower-case digit of a value below sixteen. -/
def digit (value : Nat) : Char :=
  -- Ten digits come first, then the letters.
  if value < 10 then Char.ofNat (48 + value) else Char.ofNat (87 + value)

/-- The value of a digit, in either letter case. -/
def value? (char : Char) : Option Nat :=
  if 48 ≤ char.toNat ∧ char.toNat ≤ 57 then some (char.toNat - 48)
  else if 97 ≤ char.toNat ∧ char.toNat ≤ 102 then some (char.toNat - 87)
  else if 65 ≤ char.toNat ∧ char.toNat ≤ 70 then some (char.toNat - 55)
  else none

/-- The two digits of a byte. -/
def byteChars (byte : UInt8) : List Char :=
  [digit (byte.toNat / 16), digit (byte.toNat % 16)]

/-- A byte as two lower-case digits. -/
def byte (value : UInt8) : String :=
  String.ofList (byteChars value)

/-- A byte as two upper-case digits. -/
def upperByte (value : UInt8) : String :=
  String.ofList ((byteChars value).map Char.toUpper)

/-- A byte marked as hexadecimal. -/
def markedByte (value : UInt8) : String :=
  "0x" ++ byte value

/-- A word as four digits, the high byte first. -/
def word (value : UInt16) : String :=
  byte (UInt8.ofNat (value.toNat / 256)) ++ byte (UInt8.ofNat (value.toNat % 256))

/-- A word marked as hexadecimal. -/
def markedWord (value : UInt16) : String :=
  "0x" ++ word value

/-- Bytes as pairs of digits with one space between them. -/
def spaced (data : Bytes) : String :=
  " ".intercalate (data.map byte)

end BmcTelemetry.Hex
