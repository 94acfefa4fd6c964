import BmcTelemetry.Health.Component
import BmcTelemetry.Proofs.Dialogue.Course
import BmcTelemetry.Proofs.Dialogue.Eval

/-!
Reading health: a scan, then the states of the sensors that it accepted.

Only the accepted records count, and not whether the scan came to its end.
-/

namespace BmcTelemetry

namespace Sensor

/-- The records that a scan accepted, whether it came to its end or not. -/
def accepted : Except PartialScan (List Record) → List Record
  | .ok records => records
  | .error stopped => stopped.records

/-- A harvest keeps its records however it is put. -/
theorem accepted_toExcept (harvest : Harvest) : accepted harvest.toExcept = harvest.records := by
  -- Whether the walk failed decides on which side the records stand, and not which ones they are.
  unfold Harvest.toExcept
  split <;> rfl

end Sensor

namespace ComponentHealth

open Dialogue (Course)

/-- What is reported of a scan before its sensors are read. -/
def announce (host : String) :
    Except Sensor.PartialScan (List Sensor.Record) → Attempt controller Unit
  | .ok records => Attempt.report (.sensorsFound host records.length)
  | .error stopped => do
    Attempt.report (.scanStopped host stopped.records.length stopped.error)
    Attempt.report (.sensorsFound host stopped.records.length)

/-- Health is what the states of the accepted sensors add up to. -/
theorem read_eq (host : String) :
    ComponentHealth.read host = (do
      let repository ← Sensor.Repository.probe
      let scanned ← ExceptT.lift (Sensor.scan host repository)
      announce host scanned
      return ofSensors (← Sensor.Status.readAll (Sensor.accepted scanned))) := by
  -- The scan is announced in its own way for each of its two ends, before the sensors are read.
  rw [ComponentHealth.read]
  refine bind_congr fun repository => bind_congr fun scanned => ?_
  cases scanned with
  | ok records => simp [announce, Sensor.accepted]
  | error stopped => simp [announce, Sensor.accepted]

/-- An announcement never gives up. -/
theorem value?_announce (answers : controller.Answers) (host : String)
    (scanned : Except Sensor.PartialScan (List Sensor.Record)) :
    (announce host scanned).value? answers = some () := by
  -- Both announcements are reports, which always have a value.
  cases scanned <;> rfl

/-- Health is there where something is seen of it. -/
theorem exists_of_view {β : Type} (read : Except IpmiError ComponentHealth)
    (view : ComponentHealth → β) (seen : β) (known : read.toOption.map view = some seen) :
    ∃ health, read = .ok health ∧ view health = seen := by
  -- An error shows nothing of any health.
  cases read with
  | error error => cases known
  | ok health => exact ⟨health, rfl, Option.some.inj known⟩

end ComponentHealth

end BmcTelemetry
