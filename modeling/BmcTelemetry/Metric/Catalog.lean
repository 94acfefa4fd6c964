import BmcTelemetry.Metric.Format
import BmcTelemetry.Request

/-!
Descriptions, which bind a request to the metrics that its answer feeds, and the catalog of those that
a platform may answer, by command family.
-/

namespace BmcTelemetry

/-- The path of a submetric below a root; the main value is reported at the root itself. -/
def extendPath (root sub : String) : String :=
  if sub = "" then root else root ++ "/" ++ sub

/-- Binds a request to the metrics that are read from its answer. -/
structure Description where
  /-- The request to send. -/
  request : Request
  /-- The path below which the values are reported. -/
  root : String
  /-- How the answer is read. -/
  format : Format
deriving DecidableEq, Repr

/-- Every metric path that a description produces, in the order of its format. -/
def Description.paths (description : Description) : List String :=
  description.format.metrics.map (extendPath description.root)

/-- The command family that a platform is asked for. -/
inductive Protocol where
  /-- Vendor commands of the node manager, reached by bridging. -/
  | nodeManager
  /-- Power reading and the discovery of an inlet temperature sensor. -/
  | dcmi
  /-- Power reading alone. -/
  | ipmi
deriving DecidableEq, Repr

namespace Protocol

/-- The name of a command family. -/
def name : Protocol → String
  | .nodeManager => "node_manager"
  | .dcmi => "dcmi"
  | .ipmi => "ipmi"

/-- All command families. -/
def all : List Protocol := [.nodeManager, .dcmi, .ipmi]

/-- The command family of a name. -/
def ofName? (name : String) : Option Protocol :=
  all.find? (·.name == name)

end Protocol

namespace Catalog

/-- A request to the node manager, which sits behind the controller on a channel of its own. -/
def nodeManagerRequest (data : Bytes) : Request :=
  { data, channel := 6, slave := 0x2c }

/-- The requests of the node manager. -/
def nodeManager : List Description :=
  [⟨nodeManagerRequest [0x2e, 0x65, 0x57, 0x01, 0x00, 0x02], "cups", .cups⟩,
   ⟨nodeManagerRequest [0x2e, 0x65, 0x57, 0x01, 0x00, 0x01], "cups", .cupsIndex⟩,
   ⟨nodeManagerRequest [0x2e, 0xc8, 0x57, 0x01, 0x00, 0x01, 0x00, 0x00], "power/system",
    .nodeManager⟩,
   ⟨nodeManagerRequest [0x2e, 0xc8, 0x57, 0x01, 0x00, 0x01, 0x01, 0x00], "power/cpu",
    .nodeManager⟩,
   ⟨nodeManagerRequest [0x2e, 0xc8, 0x57, 0x01, 0x00, 0x01, 0x02, 0x00], "power/memory",
    .nodeManager⟩,
   ⟨nodeManagerRequest [0x2e, 0xc8, 0x57, 0x01, 0x00, 0x02, 0x00, 0x00], "thermal/inlet",
    .nodeManager⟩,
   ⟨nodeManagerRequest [0x2e, 0xc8, 0x57, 0x01, 0x00, 0x05, 0x00, 0x00], "thermal/outlet",
    .nodeManager⟩,
   ⟨nodeManagerRequest
      [0x2e, 0x4b, 0x57, 0x01, 0x00, 0x03, 0xff, 0xff, 0xff, 0xff, 0xff, 0xff, 0xff, 0xff],
    "thermal", .temperature⟩,
   ⟨nodeManagerRequest [0x2e, 0xc8, 0x57, 0x01, 0x00, 0x04, 0x00, 0x00], "airflow",
    .nodeManager⟩,
   ⟨nodeManagerRequest
      [0x2e, 0x40, 0x57, 0x01, 0x00, 0x30, 0x05, 0x05, 0xa1, 0x00, 0x10, 0x00, 0x00],
    "margin/cpu/tj", .peci⟩,
   ⟨nodeManagerRequest [0x04, 0x2d, 0x08], "thermal/chipset", .sensorRecord⟩,
   ⟨nodeManagerRequest [0x2e, 0xc2, 0x57, 0x01, 0x00, 0x00, 0x01], "power/policy", .policy⟩]

/-- The request for the power reading of the controller itself. -/
def power : List Description :=
  [⟨.direct [0x2c, 0x02, 0xdc, 0x01, 0x00, 0x00], "power/system", .dcmiPower⟩]

/-- The candidates that a platform is probed for, by command family. -/
def vendor : Protocol → List Description
  | .nodeManager => nodeManager
  | .dcmi | .ipmi => power

/-- The request for the live reading of a sensor. -/
def sensorReading (sensor : UInt8) : Request :=
  (Request.direct [0x04, 0x2d, 0x00]).patched 2 [sensor]

/-- The inlet temperature read from a discovered sensor. -/
def inletTemperature (sensor : UInt8) : Description :=
  ⟨sensorReading sensor, "thermal/inlet", .sensorReading⟩

end Catalog

end BmcTelemetry
