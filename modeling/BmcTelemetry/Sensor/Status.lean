import BmcTelemetry.Metric.Catalog
import BmcTelemetry.Sensor.Scan

/-! The live state of sensors. -/

namespace BmcTelemetry.Sensor

/-- The live state of a sensor. -/
structure Status where
  /-- The number by which the sensor is read. -/
  number : UInt8
  /-- What the sensor measures. -/
  type : UInt8
  /-- How the sensor's readings are to be understood. -/
  readingType : UInt8
  /-- The state bits. -/
  status : UInt16
  /-- Whether the sensor has no state to report. -/
  unavailable : Bool
deriving DecidableEq, Repr

/-- The reading type of sensors that compare with thresholds. -/
def thresholdReading : UInt8 := 0x01

/-- Whether a reading type is that of a sensor with discrete states. -/
def isDiscrete (readingType : UInt8) : Bool :=
  readingType == 0x6f || (0x02 ≤ readingType && readingType ≤ 0x0c)

namespace Status

/-- The state of a sensor that has none to report. -/
def unreadable (record : Record) : Status :=
  { number := record.number, type := record.type, readingType := record.readingType,
    status := 0, unavailable := true }

/-- The state bits in a reading, by the reading type of its sensor. -/
def bits (readingType : UInt8) (payload : Bytes) : UInt16 :=
  if isDiscrete readingType then
    -- The top bit of the second state byte is reserved.
    UInt16.ofNat ((payload.byteAt 2).toNat + 256 * ((payload.byteAt 3).toNat % 128))
  else if readingType = thresholdReading then
    UInt16.ofNat ((payload.byteAt 2).toNat % 64)
  else 0

/-- The state of a sensor according to a reading. -/
def decode (record : Record) (payload : Bytes) : Status :=
  let flags := (payload.byteAt 1).toNat
  -- Without scanning, or while an update is under way, the states mean nothing.
  if payload.length < 3 ∨ flags.testBit 5 ∨ !flags.testBit 6 then unreadable record
  else
    { number := record.number, type := record.type, readingType := record.readingType,
      status := bits record.readingType payload, unavailable := false }

/-- The state of a sensor according to an answer, failing ones included. -/
def ofResponse (record : Record) (response : Response) : Status :=
  match response.completionCode with
  | some 0 => decode record response.payload
  | _ => unreadable record

/-- Reads the state of one sensor. -/
def read (record : Record) : Attempt controller Status := do
  let response ← Controller.exec (Catalog.sensorReading record.number)
  return ofResponse record response

/-- Reads the states of sensors one after another. -/
def readAll (records : List Record) : Attempt controller (List Status) :=
  records.mapM read

end Status

end BmcTelemetry.Sensor
