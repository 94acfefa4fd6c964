import BmcTelemetry.Sensor.Inlet
import BmcTelemetry.Transport.Pacing

/-! Transports: the ways of reaching controllers, each over surroundings of its own. -/

namespace BmcTelemetry

/-- The descriptions that each host was found to answer. -/
abbrev Capabilities := Std.TreeMap String (List Description)

/-- A way of reaching controllers. -/
structure Transport (I : Interface) where
  /-- Sends one request to a host. -/
  exec : String → Request → Dialogue I (Except IpmiError Response)
  /-- Sends several requests to a host; the answers come in the order of the requests. -/
  batch : String → List Request → Dialogue I (Except IpmiError (List Response))
  /-- Probes every candidate on every host and keeps those that are answered. -/
  capabilities : List Description → List String → Dialogue I Capabilities
  /-- How conversations with several hosts share it. -/
  pacing : Transport.Pacing

namespace Transport

variable {I : Interface} {α : Type}

/-- Holds a conversation with the controller of a host. -/
def converse (transport : Transport I) (host : String) (dialogue : Dialogue controller α) :
    Dialogue I α :=
  dialogue.translate (transport.exec host)

/-- Holds a conversation with the controller of each host. -/
def converseWithAll (transport : Transport I) (dialogue : String → Dialogue controller α)
    (hosts : List String) : Dialogue I (Std.TreeMap String α) :=
  let conversations := hosts.map fun host => (host, addressed host (dialogue host))
  (transport.pacing.hold conversations).translate fun (asked : Addressed) =>
    transport.exec asked.host asked.request

/-- The inlet description of a host, for the command family that knows one. -/
def inlet (exec : String → Request → Dialogue I (Except IpmiError Response))
    (protocol : Protocol) (host : String) : Dialogue I (List Description) :=
  match protocol with
  | .dcmi => return ((← (Sensor.Inlet.discover host).translate (exec host))).toList
  | .nodeManager | .ipmi => return []

/-- Sends requests one after another and stops at the first that fails. -/
def inOrder (exec : Request → Dialogue I (Except IpmiError Response)) (requests : List Request) :
    Dialogue I (Except IpmiError (List Response)) :=
  (requests.mapM fun request => Attempt.of (exec request)).outcome

/-- The host under which a transport that reaches one machine reports: the first configured. -/
def localHost (machine : String) (hosts : List String) : String :=
  hosts.head?.getD machine

/-- Whether an answer without a sign of validity shows that a request is supported. -/
def showsSupport (data : Bytes) : Bool :=
  data.any (· != 0)

end Transport

end BmcTelemetry
