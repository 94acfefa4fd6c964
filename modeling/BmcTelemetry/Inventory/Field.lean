import BmcTelemetry.Text.Blank
import BmcTelemetry.Text.Utf8

/-! Type/length fields: the strings of an inventory area in their four encodings. -/

namespace BmcTelemetry.Inventory.Field

/-- How the bytes of a field spell its text. -/
inductive Encoding where
  | binary
  | bcdPlus
  | sixBit
  | text
deriving DecidableEq, Repr

/-- The encoding named by the top two bits of a type/length byte. -/
def encoding (typeLength : UInt8) : Encoding :=
  match typeLength.toNat / 64 with
  | 0 => .binary
  | 1 => .bcdPlus
  | 2 => .sixBit
  | _ => .text

/-- The number of bytes that a type/length byte announces. -/
def declared (typeLength : UInt8) : Nat :=
  typeLength.toNat % 64

/-- The characters of the binary-coded decimal alphabet, by their value. -/
def bcdAlphabet : List Char := "0123456789 -.:,_".toList

/-- The text of binary-coded decimals, one in the low half of each byte. -/
def decodeBcd (bytes : Bytes) : List Char :=
  bytes.map fun byte => bcdAlphabet[byte.toNat % 16]?.getD ' '

/-- Cells through which packed bytes are shifted, six bits at a time, towards the first of them. -/
structure Register where
  /-- The cell whose lowest six bits are read next. -/
  first : UInt8
  /-- The cell whose bits follow those of the first. -/
  second : UInt8
  /-- The cell whose bits follow those of the second. -/
  third : UInt8
  /-- The cell behind the bytes of a group. -/
  fourth : UInt8
deriving DecidableEq, Repr

namespace Register

/-- The register without any bits set. -/
def empty : Register := { first := 0, second := 0, third := 0, fourth := 0 }

/-- Takes in the bytes of a group. -/
def load (register : Register) (first second third : UInt8) : Register :=
  { register with first, second, third }

/-- The character in the lowest six bits. -/
def char (register : Register) : Char :=
  Char.ofNat ((register.first &&& 0x3f) + 0x20).toNat

/-- Moves all bits down by six places, each cell taking in the lowest bits of the next. -/
def shift (register : Register) : Register :=
  { first := register.first >>> 6 ||| (register.second &&& 0x3f) <<< 2
    second := register.second >>> 6 ||| (register.third &&& 0x3f) <<< 2
    third := register.third >>> 6 ||| (register.fourth &&& 0x3f) <<< 2
    fourth := register.fourth >>> 6 }

/-- Reads so many characters, shifting after each; what is left in the cells stays there. -/
def readChars (register : Register) : Nat → List Char × Register
  | 0 => ([], register)
  | count + 1 =>
    let (chars, rest) := register.shift.readChars count
    (register.char :: chars, rest)

/-- The characters of packed bytes, four for every three; the last group is filled up with zeros. -/
def unpack (register : Register) : Bytes → List Char
  | [] => []
  | [first] => ((register.load first 0 0).readChars 4).1
  | [first, second] => ((register.load first second 0).readChars 4).1
  | first :: second :: third :: rest =>
    let (chars, emptied) := (register.load first second third).readChars 4
    chars ++ emptied.unpack rest

end Register

/-- The number of characters that so many packed bytes have room for. -/
def sixBitRoom (count : Nat) : Nat :=
  (count + 2) * 4 / 3 / 4 * 4

/-- The text of packed characters, least significant bits first. -/
def decodeSixBit (bytes : Bytes) : List Char :=
  (Register.empty.unpack bytes).take (sixBitRoom bytes.length)

/-- The bytes of a field before the first one that marks its end. -/
def content (bytes : Bytes) : Bytes :=
  bytes.takeWhile fun byte => byte != 0x00 && byte != 0xFF

/-- The characters that a field's bytes spell. -/
def spell : Encoding → Bytes → List Char
  -- Binary fields hold no text.
  | .binary, _ => []
  | .bcdPlus, bytes => decodeBcd bytes
  | .sixBit, bytes => decodeSixBit bytes
  | .text, bytes => Utf8.decodeLossy bytes

/-- The text of the field that data begins with, trimmed; empty when the data ends too soon. -/
def decode : Bytes → String
  | [] => ""
  | typeLength :: rest =>
    if rest.length < declared typeLength then ""
    else
      String.ofList
        (Text.trim (spell (encoding typeLength) (content (rest.take (declared typeLength)))))

end BmcTelemetry.Inventory.Field
