import BmcTelemetry.Error

/-! Sensor data records: their header and the fields that identify a sensor. -/

namespace BmcTelemetry.Sensor

/-- The header of a record, together with the link that its controller gives to the next one. -/
structure RecordHeader where
  /-- The record that follows. -/
  nextId : UInt16
  /-- The record's own id. -/
  id : UInt16
  /-- The version of the record layout. -/
  version : UInt8
  /-- What the record describes. -/
  type : UInt8
  /-- The number of bytes after the header. -/
  length : UInt8
deriving DecidableEq, Repr

/-- A record of a sensor. -/
structure Record where
  /-- The header, as the record itself has it. -/
  header : RecordHeader
  /-- The number by which the sensor is read. -/
  number : UInt8
  /-- What the sensor measures. -/
  type : UInt8
  /-- How the sensor's readings are to be understood. -/
  readingType : UInt8
deriving DecidableEq, Repr

/-- The number of bytes of a header. -/
def headerSize : Nat := 5

/-- The id that marks the end of the links. -/
def lastId : UInt16 := 0xFFFF

namespace RecordHeader

/-- Reads the header that a record begins with. -/
def ofBytes (nextId : UInt16) (bytes : Bytes) : Except IpmiError RecordHeader :=
  if bytes.length < headerSize then
    -- The size in the message counts the link's two bytes, which the controller sends in front.
    .error (.protocol (.headerTooShort (bytes.length + 2)))
  else
    .ok { nextId, id := bytes.wordAt 0, version := bytes.byteAt 2, type := bytes.byteAt 3,
          length := bytes.byteAt 4 }

/-- Whether the record is a full or a compact one, which describe sensors. -/
def isSensor (header : RecordHeader) : Bool :=
  header.type == 0x01 || header.type == 0x02

/-- The number of bytes of the record that are read: as many as one-byte addresses reach. -/
def readSize (header : RecordHeader) : Nat :=
  min (header.length.toNat + headerSize) 255

end RecordHeader

/-- Reads a record of a sensor from all of its bytes. -/
def Record.ofBytes (nextId : UInt16) (bytes : Bytes) : Except IpmiError Record := do
  let header ← RecordHeader.ofBytes nextId bytes
  if !header.isSensor then
    throw (.protocol (.unexpectedRecordType header.id header.type))
  -- The reading type is the last field that is needed.
  if bytes.length < 14 then
    throw (.protocol (.recordTooShort header.id (bytes.length + 2)))
  return { header, number := bytes.byteAt 7, type := bytes.byteAt 12,
           readingType := bytes.byteAt 13 }

end BmcTelemetry.Sensor
