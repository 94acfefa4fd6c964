import BmcTelemetry.Event
import BmcTelemetry.Metric.Catalog
import Std.Data.TreeMap

/-! The metrics of one host, put together from the answers to its requests. -/

namespace BmcTelemetry

/-- The value at each metric path of a host. -/
abbrev Metrics := Std.TreeMap String UInt16

/-- The metrics of each host. -/
abbrev HostMetrics := Std.TreeMap String Metrics

namespace Metrics

/-- The same metrics with the values of one more answer, below a root. -/
def add (metrics : Metrics) (root : String) (values : Submetrics) : Metrics :=
  values.foldl (fun found (sub, value) => found.insert (extendPath root sub) value) metrics

/-- The values that an answer contributes; a strict reading refuses what cannot be decoded. -/
def contribution (strict : Bool) (description : Description) (response : Response) :
    Except IpmiError Submetrics :=
  match Format.validate response with
  | .ok () => .ok (description.format.parse response)
  | .error error =>
    if strict then .error error
    -- A lenient reading reports every declared value as invalid.
    else .ok (description.format.sentinels Format.invalidValue)

/-- Adds the values of answers in order, until a strict reading refuses one. -/
def addAll (strict : Bool) :
    Metrics → List (Description × Response) → Except IpmiError Metrics
  | metrics, [] => .ok metrics
  | metrics, (description, response) :: rest =>
    match contribution strict description response with
    | .ok values => addAll strict (metrics.add description.root values) rest
    | .error error => .error error

/-- What is worth reporting about answers, until a strict reading refuses one. -/
def remarks (strict : Bool) (host : String) : List (Description × Response) → List Event
  | [] => []
  | (description, response) :: rest =>
    match Format.validate response with
    | .ok () =>
      let others := remarks strict host rest
      if response.valid then others else .answerInvalid description.format :: others
    | .error error =>
      if strict then [] else .answerRejected host description.root error :: remarks strict host rest

end Metrics

end BmcTelemetry
