import BmcTelemetry.Response

/-! Formats: the layout by which an answer is read as named 16-bit values. -/

namespace BmcTelemetry

/-- The layout of an answer, named after the command that it answers. -/
inductive Format where
  /-- Dynamic load factors of processor, memory and input/output. -/
  | cups
  /-- The combined load index. -/
  | cupsIndex
  /-- Node manager statistics: current, minimum, maximum and average. -/
  | nodeManager
  /-- Temperatures of processor sockets and memory slots. -/
  | temperature
  /-- The thermal margin of a processor and its limit. -/
  | peci
  /-- Temperatures of the voltage regulators. -/
  | pmbus
  /-- Temperatures of the power supplies. -/
  | psu
  /-- A sensor reading reported under a name of its own. -/
  | sensorReading
  /-- A sensor reading reported as the main value. -/
  | sensorRecord
  /-- The limit of a power policy. -/
  | policy
  /-- A power reading: current, minimum, maximum and average. -/
  | dcmiPower
deriving DecidableEq, Repr

/-- How many bytes a value takes. -/
inductive Width where
  | byte
  | word
deriving DecidableEq, Repr

/-- One named value of a format and the place it is read from. -/
structure Field where
  /-- The name below the metric root; the main value has the empty name. -/
  name : String
  /-- Where the value starts, counted from the completion code. -/
  offset : Nat
  /-- How many bytes the value takes. -/
  width : Width
  /-- Whether the value is left out when the answer ends before it. -/
  omissible : Bool
deriving DecidableEq, Repr

/-- Named values in the order of their format. -/
abbrev Submetrics := List (String × UInt16)

namespace Field

/-- A value of one byte that is always reported. -/
def byte (name : String) (offset : Nat) : Field :=
  { name, offset, width := .byte, omissible := false }

/-- A little-endian word that is always reported. -/
def word (name : String) (offset : Nat) : Field :=
  { name, offset, width := .word, omissible := false }

/-- The value at the field's place, when the answer reaches it. -/
def read? (field : Field) (data : Bytes) : Option UInt16 :=
  match field.width with
  | .byte => data[field.offset]?.map UInt8.toUInt16
  | .word => data.word? field.offset

end Field

namespace Format

/-- The value reported for everything that an answer does not carry. -/
def invalidValue : UInt16 := 0xFFFF

/-- The value reported for what the platform does not provide. -/
def absentValue : UInt16 := 0xFFFE

/-- How many processor sockets a temperature answer covers. -/
def sockets : Nat := 4

/-- How many memory slots a temperature answer covers. -/
def memorySlots : Nat := 64

/-- The least payload that covers all voltage regulators. -/
def regulatorPayload : Nat := 14

/-- The fields of a format, in the order in which they are declared. -/
def fields : Format → List Field
  | .cups => [.word "cpu_bandwith" 4, .word "memory_bandwith" 6, .word "io_bandwith" 8]
  | .cupsIndex => [.word "index" 4]
  | .nodeManager => [.word "" 4, .word "min" 6, .word "max" 8, .word "avg" 10]
  | .temperature =>
    -- Every socket is there; an unpopulated slot is known by the answer ending before it.
    (List.range sockets).map (fun i => .byte ("cpu/" ++ toString i) (4 + i))
      ++ (List.range memorySlots).map (fun i =>
        { name := "memory/dimm/" ++ toString i, offset := 8 + i, width := .byte,
          omissible := true })
  | .peci => [.word "" 7, .byte "margin_offset" 6]
  | .pmbus =>
    [.word "VR0" 4, .word "VR1" 6, .word "VR2" 8, .word "VR3" 10, .word "VR4" 12, .word "VR5" 14]
  | .psu => [.word "0" 4, .word "1" 6]
  | .sensorReading => [.byte "cur" 1]
  | .sensorRecord => [.byte "" 1]
  | .policy => [.word "power_limit" 13]
  | .dcmiPower => [.word "cur" 2, .word "min" 4, .word "max" 6, .word "avg" 8]

/-- The names that a format declares, in order. -/
def metrics (format : Format) : List String :=
  format.fields.map (·.name)

/-- Every declared name with one and the same value. -/
def sentinels (format : Format) (value : UInt16) : Submetrics :=
  format.metrics.map fun name => (name, value)

/-- Refuses an answer that cannot be decoded at all. -/
def validate (response : Response) : Except IpmiError Unit :=
  -- An answer flagged invalid passes, since its values are reported as invalid one by one.
  if !response.valid then .ok ()
  else match response.completionCode with
    | none => .error .zeroLength
    | some 0 => .ok ()
    | some code => .error (.completionCode code)

/-- What one field contributes to the values of an answer flagged valid. -/
def contribution (data : Bytes) (field : Field) : Option (String × UInt16) :=
  match field.read? data with
  | some value => some (field.name, value)
  | none => if field.omissible then none else some (field.name, invalidValue)

/-- Reads every value of an answer, with an agreed value for each one that it does not carry. -/
def parse (format : Format) (response : Response) : Submetrics :=
  -- A short regulator answer says that the platform has no regulators to report.
  if format = .pmbus ∧ response.payload.length < regulatorPayload then
    format.sentinels absentValue
  else if response.valid then format.fields.filterMap (contribution response.data)
  else format.sentinels invalidValue

/-- Refuses an answer that cannot be decoded and reads the values of any other. -/
def decode (format : Format) (response : Response) : Except IpmiError Submetrics :=
  match validate response with
  | .ok () => .ok (format.parse response)
  | .error error => .error error

/-- The name of a format. -/
def name : Format → String
  | .cups => "Cups"
  | .cupsIndex => "CupsIndex"
  | .nodeManager => "NodeManager"
  | .temperature => "Temperature"
  | .peci => "Peci"
  | .pmbus => "Pmbus"
  | .psu => "Psu"
  | .sensorReading => "SensorReading"
  | .sensorRecord => "SensorRecord"
  | .policy => "Policy"
  | .dcmiPower => "DcmiPower"

/-- All formats. -/
def all : List Format :=
  [.cups, .cupsIndex, .nodeManager, .temperature, .peci, .pmbus, .psu, .sensorReading,
    .sensorRecord, .policy, .dcmiPower]

end Format

end BmcTelemetry
