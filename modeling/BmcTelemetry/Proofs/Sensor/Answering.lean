import BmcTelemetry.Metric.Catalog
import BmcTelemetry.Proofs.Dialogue.Eval
import BmcTelemetry.Proofs.Sensor.Chain

/-! Controllers with sensors: fixed answers to all that reading their health asks. -/

namespace BmcTelemetry.Sensor

namespace Repository

/-- The answers of a controller with a device id, records, and a reading for each sensor. -/
def answering (repository : Repository) (contents : List Stored) (reservation : UInt16)
    (device : Bytes) (reading : UInt8 → Response) (otherwise : Response) : controller.Answers :=
  fun request : Request => .ok <|
    if request = Controller.deviceIdRequest then .answered (0x00 :: device)
    else if request = Catalog.sensorReading (request.data.byteAt 2) then
      reading (request.data.byteAt 2)
    else repository.serve contents reservation otherwise request

variable {repository : Repository} {contents : List Stored} {reservation : UInt16} {device : Bytes}
  {reading : UInt8 → Response} {otherwise : Response}

/-- A request with another command than those for the device id and for readings is served. -/
theorem answering_serve {request : Request} {command : UInt8}
    (named : request.data[1]? = some command) (other : command ≠ 0x01 ∧ command ≠ 0x2d) :
    repository.answering contents reservation device reading otherwise request
      = (.ok (repository.serve contents reservation otherwise request) :
        Except IpmiError Response) := by
  -- A request is told from these two by its command alone.
  have notDevice : request ≠ Controller.deviceIdRequest := by
    rintro rfl
    exact other.1 (Option.some.inj named).symm
  have notReading : request ≠ Catalog.sensorReading (request.data.byteAt 2) := by
    intro same
    rw [same] at named
    exact other.2 (Option.some.inj named).symm
  rw [answering, if_neg notDevice, if_neg notReading]

/-- Such a controller hands out every part of its records. -/
theorem handsOut_answering {exchange : Exchange controller}
    (answered : exchange.answer
      = repository.answering contents reservation device reading otherwise exchange.request) :
    HandsOut repository contents reservation exchange := by
  -- What concerns the repository is answered as by a controller without sensors.
  have served : ∀ command, exchange.request.data[1]? = some command →
      command ≠ 0x01 ∧ command ≠ 0x2d → HandsOut repository contents reservation exchange :=
    fun command named other => handsOut_serve (answered.trans (answering_serve named other))
  -- A reservation and a part of a record have commands of their own, in either repository.
  refine ⟨⟨_, answered⟩, fun asked => ?_, fun id offset count stored asked => ?_⟩
  · have named : exchange.request.data[1]? = some 0x22 := by
      rw [asked]
      cases repository <;> rfl
    exact (served _ named (by decide)).reserved asked
  -- The command is one of two, and neither is that for the device id or for a reading.
  · have named : ∃ command, exchange.request.data[1]? = some command ∧
        command ≠ 0x01 ∧ command ≠ 0x2d := by
      rw [asked]
      cases repository
      · exact ⟨0x23, rfl, by decide⟩
      · exact ⟨0x21, rfl, by decide⟩
    obtain ⟨command, named, other⟩ := named
    exact (served command named other).part id offset count stored asked

end Repository

/-- Sensors for a temperature, a power supply and a fan, with another record among them. -/
def rackChain : List Stored :=
  [⟨[0x01, 0x00, 0x51, 0x01, 0x09, 0x20, 0x00, 0x30, 0x03, 0x01, 0x7f, 0x68, 0x01, 0x01], 0x0002⟩,
    ⟨[0x02, 0x00, 0x51, 0x02, 0x09, 0x20, 0x00, 0x31, 0x0a, 0x01, 0x67, 0x40, 0x08, 0x6f], 0x0003⟩,
    ⟨[0x03, 0x00, 0x51, 0x12, 0x02, 0x20, 0x00], 0x0004⟩,
    ⟨[0x04, 0x00, 0x51, 0x01, 0x09, 0x20, 0x00, 0x32, 0x1d, 0x01, 0x7f, 0x68, 0x04, 0x01], 0xffff⟩]

/-- The chain states its ids, its lengths and its links truly. -/
theorem wellFormed_rackChain : WellFormed rackChain := by
  -- Every condition on a single record is decidable, so they are checked all at once.
  have facts : ∀ stored ∈ rackChain, headerSize ≤ stored.bytes.length ∧
      stored.header.length.toNat = stored.bytes.length - headerSize ∧
      (stored.header.isSensor → 9 ≤ stored.header.length.toNat) := by decide
  exact ⟨by decide, by decide, by decide, by decide,
    fun stored member => ⟨(facts stored member).1, (facts stored member).2.1,
      (facts stored member).2.2⟩, rfl, rfl, rfl, rfl⟩

/-- A warm rack: the temperature is high, the power supply has failed, the fan is not ready. -/
def rackAnswers : controller.Answers :=
  Repository.storage.answering rackChain 0x3412 [0x20, 0x01]
    (fun sensor =>
      if sensor = 0x30 then .answered [0x00, 0x19, 0x40, 0x08]
      else if sensor = 0x31 then .answered [0x00, 0x00, 0x40, 0x02, 0x80]
      else .answered [0x00, 0x00, 0x60, 0x00])
    (.answered [0xc1])

end BmcTelemetry.Sensor
