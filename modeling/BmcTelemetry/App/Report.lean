import BmcTelemetry.Collector.Basic
import BmcTelemetry.Json.Printer

/-! Reports: the lines that the program writes to its output, one JSON document each. -/

namespace BmcTelemetry

/-- A metric that can be reported, as a document. -/
def MetricName.toJson (name : MetricName) : Json :=
  .record [("path", .text name.path), ("source", .text name.source)]

/-- The lines that list every metric. -/
def Snapshot.catalogLines (snapshot : Snapshot) : List String :=
  snapshot.metricNames.map fun name => name.toJson.compact

namespace Report

/-- Values at metric paths, sorted by path. -/
def sorted (entries : List (String × String)) : Json :=
  .record ((Std.TreeMap.ofList entries compare).toList.map fun (path, value) =>
    (path, Json.text value))

/-- The metrics of a host. -/
def metrics (values : Metrics) : Json :=
  .record (values.toList.map fun (path, value) => (path, Json.nat value.toNat))

/-- A document where there is something to report, null where there is nothing. -/
def orNull {α : Type} (document : α → Json) : Option α → Json
  | some value => document value
  | none => .null

/-- Everything that is reported for a host. -/
def host (timestamp : String) (snapshot : Snapshot) (collected : HostMetrics) (host : String) :
    Json :=
  .record
    [("timestamp", .text timestamp), ("source", .text host),
     ("metrics", orNull metrics collected[host]?),
     ("inventory", orNull (sorted ∘ Inventory.toMetrics) snapshot.inventory[host]?),
     ("health", orNull (sorted ∘ ComponentHealth.toMetrics) snapshot.health[host]?)]

/-- The lines that report on every host. -/
def lines (timestamp : String) (snapshot : Snapshot) (collected : HostMetrics) : List String :=
  snapshot.hosts.map fun name => (host timestamp snapshot collected name).compact

end Report

end BmcTelemetry
