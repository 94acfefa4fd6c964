import BmcTelemetry.Metric.Catalog
import BmcTelemetry.Sensor.Repository

/-! Discovery of the inlet temperature sensor, whose number differs from platform to platform. -/

namespace BmcTelemetry.Sensor.Inlet

/-- The request for the sensors of the inlet. -/
def capabilityRequest : Request :=
  .direct [0x2c, 0x07, 0xdc, 0x01, 0x40, 0x00, 0x00]

/-- The request for the first eight bytes of the record with the given id, without reservation. -/
def recordRequest (id : Bytes) : Request :=
  (Request.direct [0x0a, 0x23, 0x00, 0x00, 0x00, 0x00, 0x00, 0x08]).patched 4 id

/-- Reads the number of the inlet sensor from the record that the controller names. -/
def discover (host : String) : Dialogue controller (Option Description) := do
  match ← Controller.send capabilityRequest with
  | .error error =>
    Dialogue.report (.inletQueryFailed host error)
    return none
  | .ok capability =>
    -- The id of the record stands after the three bytes of the answer's own header.
    if capability.data.length ≤ 5 then
      Dialogue.report (.inletUnreported host capability.data.length)
      return none
    else
      match ← Controller.send (recordRequest (capability.payload.slice 3 2)) with
      | .error error =>
        Dialogue.report (.inletRecordFailed host error)
        return none
      | .ok record =>
        -- The sensor number is byte seven of the record, which a two-byte link precedes.
        if record.data.length ≤ 10 then
          Dialogue.report (.inletRecordShort host)
          return none
        else
          let sensor := record.payload.byteAt 9
          Dialogue.report (.inletDiscovered host sensor)
          return some (Catalog.inletTemperature sensor)

end BmcTelemetry.Sensor.Inlet
