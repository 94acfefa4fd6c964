import BmcTelemetry.Dialogue
import BmcTelemetry.Request
import BmcTelemetry.Response

/-! The conversation with one management controller: a request, then its answer or a failure. -/

namespace BmcTelemetry

/-- A controller as seen through a transport, which may fail to deliver an answer. -/
def controller : Interface where
  Query := Request
  Reply := fun _ => Except IpmiError Response

namespace Controller

/-- Sends a request and waits for what becomes of it. -/
def send (request : Request) : Dialogue controller (Except IpmiError Response) :=
  Dialogue.query (I := controller) request

/-- Sends a request and gives up when the transport fails. -/
def exec (request : Request) : Attempt controller Response :=
  .of (send request)

/-- Sends a request and gives up unless the answer succeeds with so many payload bytes. -/
def fetch (request : Request) (least : Nat) (step : Step) : Attempt controller Bytes := do
  let response ← exec request
  Attempt.lift (response.requirePayload least step)

/-- The request for the device id. -/
def deviceIdRequest : Request := .direct [0x06, 0x01]

end Controller

end BmcTelemetry
