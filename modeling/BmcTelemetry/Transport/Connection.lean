import BmcTelemetry.Machine
import BmcTelemetry.Transport.KernelDriver
import BmcTelemetry.Transport.LocalTool
import BmcTelemetry.Transport.Mode
import BmcTelemetry.Transport.RemoteTool

/-! Connections: the transport that a user's choices stand for. -/

namespace BmcTelemetry.Transport

/-- Everything that a transport is made from. -/
structure Options where
  /-- The way of reaching controllers. -/
  mode : Mode
  /-- The command family to probe for. -/
  protocol : Protocol
  /-- The device of the kernel driver. -/
  device : String
  /-- The command-line tool. -/
  tool : Tool
  /-- Who asks, for sessions over the network. -/
  credentials : Credentials
deriving DecidableEq, Repr

/-- The same transport over other surroundings, which answer each question by a program. -/
def through {I J : Interface} (answer : (question : I.Query) → Dialogue J (I.Reply question))
    (transport : Transport I) : Transport J where
  exec host request := (transport.exec host request).translate answer
  batch host requests := (transport.batch host requests).translate answer
  capabilities candidates hosts := (transport.capabilities candidates hosts).translate answer
  pacing := transport.pacing

/-- The transport for the given choices, on a machine of the given name. -/
def connect (options : Options) (name : String) : Transport machine :=
  match options.mode with
  | .localTool => (localTool options.tool options.protocol name).through Machine.start
  | .remoteTool =>
    (remoteTool options.tool options.credentials options.protocol).through Machine.start
  | .kernelDriver =>
    (kernelDriver options.device options.protocol name).through Machine.callDriver

end BmcTelemetry.Transport
