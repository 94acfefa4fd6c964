import BmcTelemetry.Collector.Metrics
import BmcTelemetry.Collector.Snapshot
import BmcTelemetry.Inventory.Reading

/-! The collector: surveys hosts through a transport and collects their metrics. -/

namespace BmcTelemetry

/-- What is collected and how. -/
structure CollectorOptions where
  /-- The command family to probe for. -/
  protocol : Protocol
  /-- Whether a collection ends with the first answer that cannot be decoded. -/
  strict : Bool
  /-- Whether inventories are read. -/
  collectInventory : Bool
  /-- Whether health is read. -/
  collectHealth : Bool
deriving DecidableEq, Repr

/-- Collects from hosts through a transport. -/
structure Collector (I : Interface) where
  /-- The way to the hosts. -/
  transport : Transport I
  /-- The hosts; a transport that reaches one machine needs none. -/
  hosts : List String
  /-- What is collected and how. -/
  options : CollectorOptions

namespace Collector

variable {I : Interface} {α : Type}

/-- Reports events in order. -/
def reportAll (events : List Event) : Dialogue I Unit :=
  events.forM Dialogue.report

/-- The result of an attempt, or a stand-in after reporting why there is none. -/
def orElse (attempt : Attempt I α) (fallback : α) (unavailable : IpmiError → Event) :
    Dialogue I α := do
  match ← attempt.outcome with
  | .ok value => return value
  | .error error =>
    Dialogue.report (unavailable error)
    return fallback

/-- The inventory of a host, unknown where it cannot be read. -/
def inventoryOf (host : String) : Dialogue controller Inventory :=
  orElse (Inventory.read host) .unknown (.inventoryUnavailable host)

/-- The health of a host, unknown where it cannot be read. -/
def healthOf (host : String) : Dialogue controller ComponentHealth :=
  orElse (ComponentHealth.read host) .unknown (.healthUnavailable host)

/-- The inventories of hosts. -/
def readInventory (collector : Collector I) (hosts : List String) :
    Dialogue I (Std.TreeMap String Inventory) :=
  collector.transport.converseWithAll inventoryOf hosts

/-- The health of hosts. -/
def readHealth (collector : Collector I) (hosts : List String) :
    Dialogue I (Std.TreeMap String ComponentHealth) :=
  collector.transport.converseWithAll healthOf hosts

/-- Learns everything about the hosts anew. -/
def survey (collector : Collector I) : Dialogue I Snapshot := do
  let options := collector.options
  let capabilities ←
    collector.transport.capabilities (Catalog.vendor options.protocol) collector.hosts
  let hosts := capabilities.keys
  let inventory ← if options.collectInventory then collector.readInventory hosts else pure ∅
  let health ← if options.collectHealth then collector.readHealth hosts else pure ∅
  Dialogue.report (.surveyed hosts.length options.protocol.name)
  return { capabilities, inventory, health }

/-- Reads the health of the known hosts anew and keeps everything else. -/
def refreshHealth (collector : Collector I) (snapshot : Snapshot) : Dialogue I Snapshot :=
  return { snapshot with health := ← collector.readHealth snapshot.hosts }

/-- Collects the metrics of one host; a batch that fails as a whole leaves it without any. -/
def collectHost (collector : Collector I) (snapshot : Snapshot) (host : String) :
    Dialogue I (Except IpmiError Metrics) := do
  let descriptions := snapshot.descriptions host
  match ← collector.transport.batch host (descriptions.map (·.request)) with
  | .error error =>
    Dialogue.report (.batchFailed host error)
    return .ok ∅
  | .ok responses =>
    let answers := descriptions.zip responses
    reportAll (Metrics.remarks collector.options.strict host answers)
    return Metrics.addAll collector.options.strict ∅ answers

/-- The metrics of all hosts, or the failure of the first host that has one. -/
def gather : HostMetrics → List (String × Except IpmiError Metrics) →
    Except IpmiError HostMetrics
  | found, [] => .ok found
  | found, (host, .ok metrics) :: rest => gather (found.insert host metrics) rest
  | _, (_, .error error) :: _ => .error error

/-- Collects the metrics of every host of a snapshot; each host gets its turn in any case. -/
def collect (collector : Collector I) (snapshot : Snapshot) :
    Dialogue I (Except IpmiError HostMetrics) := do
  let hosts := snapshot.hosts
  let results ← hosts.mapM (collector.collectHost snapshot)
  let gathered := gather ∅ (hosts.zip results)
  if gathered.isOk then Dialogue.report .collectionCompleted
  return gathered

end Collector

end BmcTelemetry
