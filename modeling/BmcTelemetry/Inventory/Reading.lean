import BmcTelemetry.Inventory.Basic
import BmcTelemetry.Inventory.ProductArea

/-! Reading the inventory of a platform from its controller. -/

namespace BmcTelemetry

namespace Controller

/-- The request for the network address of the controller, on its first channel. -/
def lanAddressRequest : Request := .direct [0x0c, 0x02, 0x01, 0x05, 0x00, 0x00]

/-- What can be read from an answer, if it comes and suffices; a missing one is reported. -/
def tryFetch {α : Type} (request : Request) (least : Nat) (step : Step)
    (unavailable : IpmiError → Event) (read : Bytes → Option α) :
    Dialogue controller (Option α) := do
  match ← send request with
  | .error error =>
    Dialogue.report (unavailable error)
    return none
  | .ok response =>
    match response.requirePayload least step with
    -- An answer that says nothing useful is passed over in silence.
    | .error _ => return none
    | .ok payload => return read payload

end Controller

namespace Inventory

/-- Reads the inventory; only a product area that cannot be found makes it fail. -/
def read (host : String) : Attempt controller Inventory := do
  let area ← ProductArea.locate
  Attempt.report (.productAreaFound host area.start area.size)
  let bytes ← ExceptT.lift (area.read host)
  let firmwareVersion ← ExceptT.lift
    (Controller.tryFetch Controller.deviceIdRequest 4 .deviceId (.deviceIdUnavailable host)
      firmwareVersion?)
  let lanAddress ← ExceptT.lift
    (Controller.tryFetch Controller.lanAddressRequest 7 .lanAddress (.lanAddressUnavailable host)
      lanAddress?)
  return {
    -- The fields between name and serial number are part number and version.
    manufacturer := ProductArea.field? bytes 0
    productName := ProductArea.field? bytes 1
    serial := ProductArea.field? bytes 4
    firmwareVersion
    lanAddress }

end Inventory

end BmcTelemetry
