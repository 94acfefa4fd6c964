/-! Byte strings as they travel to and from a management controller. -/

namespace BmcTelemetry

/-- A byte string, first byte first. -/
abbrev Bytes := List UInt8

namespace Bytes

/-- The little-endian word whose low byte stands at an offset, when both of its bytes are there. -/
def word? (data : Bytes) (offset : Nat) : Option UInt16 :=
  match data[offset]?, data[offset + 1]? with
  | some low, some high => some (UInt16.ofNat (low.toNat + 256 * high.toNat))
  -- A word cut off by the end of the data is no word.
  | _, _ => none

/-- The byte at an offset, zero past the end. -/
def byteAt (data : Bytes) (offset : Nat) : UInt8 :=
  data[offset]?.getD 0

/-- The little-endian word at an offset, zero where it is cut off. -/
def wordAt (data : Bytes) (offset : Nat) : UInt16 :=
  (data.word? offset).getD 0

/-- The two bytes of a word, low byte first. -/
def ofWord (word : UInt16) : Bytes :=
  [UInt8.ofNat (word.toNat % 256), UInt8.ofNat (word.toNat / 256)]

/-- The bytes from a start on, as many as asked for or as there are. -/
def slice (data : Bytes) (start count : Nat) : Bytes :=
  (data.drop start).take count

/-- The same bytes with some of them written over from an offset on, grown by zeros where short. -/
def patch (data : Bytes) (offset : Nat) (bytes : Bytes) : Bytes :=
  -- Growing first makes room for the whole patch, so it replaces as many bytes as it has.
  let grown := data ++ List.replicate (offset + bytes.length - data.length) 0
  grown.take offset ++ bytes ++ grown.drop (offset + bytes.length)

end Bytes

end BmcTelemetry
