import BmcTelemetry.Health.Domain
import BmcTelemetry.Health.Severity
import BmcTelemetry.Sensor.Status

/-! Component health: the severity of each domain that some sensor reports on. -/

namespace BmcTelemetry

/-- What one sensor contributes to the health of its domain, if anything. -/
def HealthDomain.contribution (sensor : Sensor.Status) : Option (HealthDomain × Severity) :=
  if sensor.unavailable then none
  else match ofSensorType? sensor.type with
    | none => none
    | some domain =>
      if sensor.readingType = Sensor.thresholdReading then
        -- A threshold sensor always has something to say, if only that all is well.
        some (domain, ((ThresholdEvent.ofStatus sensor.status).map (·.severity)).getD .ok)
      else match DiscreteSensor.unexpectedBits sensor.type sensor.readingType with
        | none => none
        | some bits =>
          if bits.any sensor.status.toNat.testBit then some (domain, .unknown) else none

/-- The severity of each domain; a domain on which no sensor reports has none. -/
structure ComponentHealth where
  /-- The severity of a domain. -/
  severity? : HealthDomain → Option Severity

namespace ComponentHealth

/-- Health of which nothing is known. -/
def unknown : ComponentHealth := ⟨fun _ => none⟩

/-- The same health after one more contribution; the worse severity stays. -/
def add (health : ComponentHealth) (domain : HealthDomain) (severity : Severity) :
    ComponentHealth :=
  ⟨fun asked =>
    if asked = domain then
      some (match health.severity? asked with
        | some known => known.worst severity
        | none => severity)
    else health.severity? asked⟩

/-- The health that sensors add up to. -/
def ofSensors (sensors : List Sensor.Status) : ComponentHealth :=
  (sensors.filterMap HealthDomain.contribution).foldl
    (fun health (domain, severity) => health.add domain severity) unknown

/-- The reported domains with their severities, in the order of the domains. -/
def entries (health : ComponentHealth) : List (HealthDomain × Severity) :=
  HealthDomain.all.filterMap fun domain =>
    (health.severity? domain).map fun severity => (domain, severity)

/-- Whether no domain is reported. -/
def isEmpty (health : ComponentHealth) : Bool :=
  health.entries.isEmpty

/-- The metrics under which health is reported. -/
def toMetrics (health : ComponentHealth) : List (String × String) :=
  health.entries.map fun (domain, severity) => (domain.metric, severity.name)

/-- The worst severity of all domains. -/
def worst? (health : ComponentHealth) : Option Severity :=
  health.entries.foldl (fun found (_, severity) =>
    some (match found with
      | some known => known.worst severity
      | none => severity)) none

/-- Walks the controller's repository and classifies every sensor that can be read. -/
def read (host : String) : Attempt controller ComponentHealth := do
  let repository ← Sensor.Repository.probe
  let records ← match ← ExceptT.lift (Sensor.scan host repository) with
    | .ok records => pure records
    | .error stopped =>
      -- The records accepted so far still count.
      Attempt.report (.scanStopped host stopped.records.length stopped.error)
      pure stopped.records
  Attempt.report (.sensorsFound host records.length)
  return ofSensors (← Sensor.Status.readAll records)

end ComponentHealth

end BmcTelemetry
