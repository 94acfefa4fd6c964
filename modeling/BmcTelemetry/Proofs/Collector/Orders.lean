import BmcTelemetry.Collector.Basic

/-! Orders: what a collector may be told to do, one thing after another. -/

namespace BmcTelemetry

/-- One thing that a collector may be told to do. -/
inductive Order where
  /-- Learns everything about the hosts anew. -/
  | survey
  /-- Reads the health of the known hosts anew. -/
  | refreshHealth
  /-- Collects the metrics of the known hosts. -/
  | collect
deriving DecidableEq, Repr

/-- How far a collector has come. -/
structure Progress where
  /-- What readers see of what was learned. -/
  publication : Publication
  /-- What the last collection came to, once there was one. -/
  collected : Option (Except IpmiError HostMetrics)

/-- The beginning, before anything was learned or collected. -/
def Progress.initial : Progress :=
  { publication := .initial, collected := none }

/-- What was learned about one host. -/
structure Knowledge where
  /-- The descriptions that it was found to answer, if it was probed. -/
  capabilities : Option (List Description)
  /-- Its inventory, if it was read. -/
  inventory : Option Inventory
  /-- Its health, if it was read. -/
  health : Option ComponentHealth

/-- What a snapshot holds about one host. -/
def Snapshot.about (snapshot : Snapshot) (host : String) : Knowledge where
  capabilities := snapshot.capabilities[host]?
  inventory := snapshot.inventory[host]?
  health := snapshot.health[host]?

/-- What a collector has about one host: what it learned, and what the last collection brought. -/
def Progress.about (progress : Progress) (host : String) :
    Knowledge × Option (Except IpmiError (Option Metrics)) :=
  (progress.publication.snapshot.about host,
    progress.collected.map fun collected => collected.map (·[host]?))

namespace Collector

variable {I : Interface}

/-- Carries out an order and publishes what was learned. -/
def carryOut (collector : Collector I) (progress : Progress) : Order → Dialogue I Progress
  | .survey => do
    let snapshot ← collector.survey
    return { progress with publication := progress.publication.publish snapshot }
  | .refreshHealth => do
    let snapshot ← collector.refreshHealth progress.publication.snapshot
    return { progress with publication := progress.publication.publish snapshot }
  | .collect => do
    let collected ← collector.collect progress.publication.snapshot
    return { progress with collected := some collected }

/-- Carries out orders one after another, from the beginning. -/
def carryOutAll (collector : Collector I) (orders : List Order) : Dialogue I Progress :=
  orders.foldlM collector.carryOut .initial

end Collector

end BmcTelemetry
