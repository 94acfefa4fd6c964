import BmcTelemetry.Dialogue
import BmcTelemetry.Request

/-! The kernel driver: a device that takes messages and delivers answers under their ids. -/

namespace BmcTelemetry.Driver

/-- Where a message goes. -/
inductive Address where
  /-- A slave on a bus behind the controller. -/
  | bus (channel : Int16) (slave : UInt8)
  /-- The controller itself. -/
  | controller
deriving DecidableEq, Repr

/-- A call into the driver. -/
inductive Call where
  /-- Opens the device. -/
  | openDevice (path : String)
  /-- Sends a message under an id. -/
  | send (id : Nat) (address : Address) (data : Bytes)
  /-- Waits until a message can be taken. -/
  | wait
  /-- Takes a message. -/
  | receive
deriving DecidableEq, Repr

/-- How waiting ends. -/
inductive Readiness where
  /-- A message can be taken. -/
  | ready
  /-- No message came in time. -/
  | timedOut
  /-- Waiting itself failed. -/
  | failed (error : OsError)
deriving DecidableEq, Repr

/-- A message that the driver delivers. -/
structure Message where
  /-- The id that the driver gives for it. -/
  id : Int
  /-- The answer, completion code first. -/
  data : Bytes
deriving DecidableEq, Repr

/-- The result of a call. -/
def Call.Result : Call → Type
  | .openDevice _ => Except OsError Unit
  | .send _ _ _ => Except OsError Unit
  | .wait => Readiness
  | .receive => Except OsError Message

/-- The driver as seen by a program. -/
def kernel : Interface where
  Query := Call
  Reply := Call.Result

end BmcTelemetry.Driver
