import BmcTelemetry.Health.Component
import BmcTelemetry.Inventory.Basic
import BmcTelemetry.Transport.Basic

/-! Snapshots: everything that was learned about the hosts, as one value. -/

namespace BmcTelemetry

/-- One metric that can be reported. -/
structure MetricName where
  /-- The path of the metric. -/
  path : String
  /-- The host that it is reported for. -/
  source : String
deriving DecidableEq, Repr

/-- What was learned about the hosts. -/
structure Snapshot where
  /-- The requests that each host answers. -/
  capabilities : Capabilities
  /-- The inventory of each host, where inventories are collected. -/
  inventory : Std.TreeMap String Inventory
  /-- The health of each host, where health is collected. -/
  health : Std.TreeMap String ComponentHealth

namespace Snapshot

/-- The snapshot before anything was learned. -/
def empty : Snapshot :=
  { capabilities := ∅, inventory := ∅, health := ∅ }

/-- The hosts that were probed, sorted. -/
def hosts (snapshot : Snapshot) : List String :=
  snapshot.capabilities.keys

/-- The descriptions that a host was found to answer. -/
def descriptions (snapshot : Snapshot) (host : String) : List Description :=
  snapshot.capabilities.getD host []

/-- Every metric path of a host: of its requests, its inventory and its health. -/
def paths (snapshot : Snapshot) (host : String) : List String :=
  (snapshot.descriptions host).flatMap Description.paths ++ Inventory.metrics
    ++ HealthDomain.metrics

/-- Every metric of every host. -/
def metricNames (snapshot : Snapshot) : List MetricName :=
  snapshot.hosts.flatMap fun host =>
    (snapshot.paths host).map fun path => { path, source := host }

end Snapshot

/-- The snapshot that readers see, told apart from those before it by its edition. -/
structure Publication where
  /-- How many snapshots were published before. -/
  edition : Nat
  /-- The snapshot. -/
  snapshot : Snapshot

namespace Publication

/-- The publication before the first survey. -/
def initial : Publication :=
  { edition := 0, snapshot := .empty }

/-- Puts a snapshot in the place of the one that readers see. -/
def publish (publication : Publication) (snapshot : Snapshot) : Publication :=
  { edition := publication.edition + 1, snapshot }

end Publication

end BmcTelemetry
