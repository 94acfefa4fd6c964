import BmcTelemetry.Driver.Batch
import BmcTelemetry.Transport.Basic

/-! The transport that uses the kernel driver of the machine itself. -/

namespace BmcTelemetry.Transport

namespace KernelDriver

/-- Sends one request, always to the controller itself. -/
def exec (device : String) (request : Request) :
    Dialogue Driver.kernel (Except IpmiError Response) :=
  Attempt.outcome do
    let answers ← Driver.batch device .controller [request]
    match answers.getLast? with
    | some answer => return answer
    | none => Attempt.fail (.protocol .noDriverResponse)

/-- How the batches of a command family are addressed: the node manager sits on a bus. -/
def addressing : Protocol → Driver.Addressing
  | .nodeManager => .bus
  | .dcmi | .ipmi => .controller

/-- Sends several requests; without any, the device is left alone. -/
def batch (device : String) (protocol : Protocol) (requests : List Request) :
    Dialogue Driver.kernel (Except IpmiError (List Response)) :=
  if requests.isEmpty then return .ok []
  else (Driver.batch device (addressing protocol) requests).outcome

/-- The candidates that were answered at all. -/
def keep (candidates : List Description) (answers : List Response) : List Description :=
  ((candidates.zip answers).filter fun (_, answer) => answer.valid).map (·.1)

/-- Probes the machine with all candidates in one batch. -/
def capabilities (device : String) (protocol : Protocol) (machine : String)
    (candidates : List Description) (hosts : List String) :
    Dialogue Driver.kernel Capabilities := do
  let host := localHost machine hosts
  let kept ← match ← batch device protocol (candidates.map (·.request)) with
    | .ok answers => pure (keep candidates answers)
    | .error error => do
      Dialogue.report (.probeFailed device error)
      pure []
  let discovered ← inlet (fun _ => exec device) protocol host
  let found := kept ++ discovered
  Dialogue.report (.probed host found.length candidates.length)
  return (∅ : Capabilities).insert host found

end KernelDriver

/-- The transport that uses a driver device on a machine of the given name. -/
def kernelDriver (device : String) (protocol : Protocol) (machine : String) :
    Transport Driver.kernel where
  exec _ := KernelDriver.exec device
  batch _ := KernelDriver.batch device protocol
  capabilities := KernelDriver.capabilities device protocol machine
  pacing := .oneByOne

end BmcTelemetry.Transport
