import BmcTelemetry.Controller

/-! Repositories: where a controller keeps its sensor records, and the commands to get at them. -/

namespace BmcTelemetry.Sensor

/-- The place where sensor records are kept. -/
inductive Repository where
  /-- The controller's own record repository. -/
  | storage
  /-- A repository that resides on the device. -/
  | device
deriving DecidableEq, Repr

namespace Repository

/-- How a repository is named in messages. -/
def label : Repository → String
  | .storage => "Storage"
  | .device => "Device"

/-- The request for general information. -/
def infoRequest : Repository → Request
  | .storage => .direct [0x0a, 0x20]
  | .device => .direct [0x04, 0x20]

/-- The request that reserves the repository for a walk. -/
def reserveRequest : Repository → Request
  | .storage => .direct [0x0a, 0x22]
  | .device => .direct [0x04, 0x22]

/-- The request for part of a record, still without its parameters. -/
def recordRequest : Repository → Request
  | .storage => .direct [0x0a, 0x23, 0x00, 0x00, 0x00, 0x00, 0x00, 0x00]
  | .device => .direct [0x04, 0x21, 0x00, 0x00, 0x00, 0x00, 0x00, 0x00]

/-- The request for how much the repository hands out at once. -/
def allocationRequest : Request := .direct [0x0a, 0x21]

/-- The repository that a device id points to. -/
def ofDeviceId (payload : Bytes) : Except IpmiError Repository :=
  match payload[1]? with
  | none => .error (.protocol .deviceRevisionMissing)
  | some revision =>
    -- A device that provides no records of its own leaves them to the controller.
    if !revision.toNat.testBit 7 then .ok .storage
    else match payload[5]? with
      | none => .error (.protocol .deviceSupportMissing)
      | some support =>
        if support.toNat.testBit 1 then .ok .storage
        else if support.toNat.testBit 0 then .ok .device
        else .error (.protocol .noRepository)

/-- Asks the controller which repository to walk. -/
def probe : Attempt controller Repository := do
  let payload ← Controller.fetch Controller.deviceIdRequest 2 .deviceId
  Attempt.lift (ofDeviceId payload)

end Repository

end BmcTelemetry.Sensor
