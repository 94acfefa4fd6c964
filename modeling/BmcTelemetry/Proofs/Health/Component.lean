import BmcTelemetry.Proofs.Health.Contribution
import BmcTelemetry.Proofs.Health.Reading
import BmcTelemetry.Proofs.Health.Severity
import BmcTelemetry.Proofs.Sensor.Answering

/-! Component health of a well-formed repository: the worst of what its sensors contribute. -/

namespace BmcTelemetry

open Dialogue (Course constantly)

namespace Sensor

/-- The exchange in which a sensor is read. -/
def Reading.exchange (reading : Reading) : Exchange controller :=
  ⟨Catalog.sensorReading reading.record.number, (.ok reading.response : Except IpmiError Response)⟩

/-- The transport delivers an answer to each request. -/
def Delivered (exchanges : List (Exchange controller)) : Prop :=
  ∀ exchange ∈ exchanges, ∃ response, exchange.answer = .ok response

/-- Reading a sensor is one exchange, and any answer gives a state. -/
theorem Status.course_read {record : Record} {exchanges : List (Exchange controller)}
    {result : Except IpmiError Status} (delivered : Delivered exchanges)
    (course : Course (read record).outcome exchanges result) :
    ∃ reading : Reading, reading.record = record ∧ exchanges = [reading.exchange] ∧
      result = .ok reading.status := by
  -- The request is delivered or not, and what is delivered is turned into a state without an error.
  rcases Attempt.course_bind_iff.mp course with ⟨error, sent, rfl⟩ |
    ⟨first, response, rest, sent, read, rfl⟩
  · -- No answer is the one thing that a state cannot be made of.
    obtain rfl := Controller.course_exec_iff.mp sent
    obtain ⟨response, answered⟩ := delivered _ (List.mem_singleton_self _)
    cases answered
  · obtain rfl := Controller.course_exec_iff.mp sent
    obtain ⟨rfl, rfl⟩ := Attempt.course_pure_iff.mp read
    exact ⟨⟨record, response⟩, rfl, rfl, rfl⟩

/-- Sensors are read in order, by one exchange each, which gives the state of each. -/
theorem Status.course_readAll {records : List Record} {exchanges : List (Exchange controller)}
    {result : Except IpmiError (List Status)} (delivered : Delivered exchanges)
    (course : Course (readAll records).outcome exchanges result) :
    ∃ readings : List Reading, readings.map Reading.record = records ∧
      exchanges = readings.map Reading.exchange ∧ result = .ok (readings.map Reading.status) := by
  -- The first sensor is read by the first exchange, and the others by the rest.
  unfold readAll at course
  induction records generalizing exchanges result with
  | nil =>
    obtain ⟨rfl, rfl⟩ := Attempt.course_pure_iff.mp course
    exact ⟨[], rfl, rfl, rfl⟩
  | cons record records ih =>
    -- Every answer was delivered, so that no sensor ends the reading.
    rcases Attempt.course_mapM_cons_iff.mp course with ⟨error, read, rfl⟩ |
      ⟨spent, status, others, remaining, read, followed, rfl, rfl⟩
    · obtain ⟨_, _, _, same⟩ := course_read delivered read
      cases same
    obtain ⟨here, there⟩ := List.forall_mem_append.mp delivered
    obtain ⟨reading, rfl, rfl, same⟩ := course_read here read
    obtain rfl := Except.ok.inj same
    obtain ⟨readings, rfl, rfl, rfl⟩ := ih there followed
    exact ⟨reading :: readings, rfl, by simp, rfl⟩

/-- A device id that points to a repository leads there. -/
theorem Repository.course_probe {repository : Repository} {exchanges : List (Exchange controller)}
    {result : Except IpmiError Repository}
    (selected : ∀ exchange ∈ exchanges, exchange.request = Controller.deviceIdRequest →
      ∃ payload, exchange.Carries 2 payload ∧ ofDeviceId payload = .ok repository)
    (course : Course probe.outcome exchanges result) : result = .ok repository := by
  rcases Attempt.course_bind_iff.mp course with ⟨error, fetched, rfl⟩ |
    ⟨first, payload, rest, fetched, read, rfl⟩
  -- The answer to the request carries a device id, so that fetching it cannot fail.
  · obtain ⟨exchange, rfl, asked, carries⟩ := Controller.course_fetch fetched
    obtain ⟨payload, carried, _⟩ := selected exchange (List.mem_singleton_self _) asked
    cases (carries payload).mpr carried
  -- The payload that was fetched is the one that points to the repository.
  · obtain ⟨exchange, rfl, asked, carries⟩ := Controller.course_fetch fetched
    obtain ⟨other, carried, points⟩ := selected exchange (by simp) asked
    obtain rfl := Except.ok.inj ((carries other).mpr carried)
    obtain ⟨_, rfl⟩ := Attempt.course_lift_iff.mp read
    exact points

end Sensor

namespace ComponentHealth

open Sensor (HandsOut Reading Repository Stored WellFormed)

/-- The health that readings give is the worst of what each of them contributes. -/
theorem sums_readings (readings : List Reading) (domain : HealthDomain) :
    Severity.Sums (fun severity => ∃ reading ∈ readings, reading.Contributes domain severity)
      ((ofSensors (readings.map Reading.status)).severity? domain) := by
  -- The state of a reading contributes what the reading itself does.
  have sums := sums_ofSensors (readings.map Reading.status) domain
  simpa only [List.mem_map, exists_exists_and_eq_and, Reading.contribution_status_iff] using sums

/-- What is announced before sensors are read is no exchange. -/
theorem course_announce_bind_iff {host : String}
    {scanned : Except Sensor.PartialScan (List Sensor.Record)} {α : Type}
    {next : Unit → Attempt controller α} {exchanges : List (Exchange controller)}
    {result : Except IpmiError α} :
    Course (announce host scanned >>= next).outcome exchanges result ↔
      Course (next ()).outcome exchanges result := by
  -- One event is reported of a whole scan, and two of a scan that stopped.
  cases scanned with
  | ok records => exact Attempt.course_report_bind_iff
  | error stopped =>
    rw [announce, bind_assoc]
    exact Attempt.course_report_bind_iff.trans Attempt.course_report_bind_iff

/--
Component health from end to end: a well-formed repository is scanned, each of its sensors is read,
and each domain is as bad as the worst of what the answers contribute to it.

The device id selects the repository and every request is answered, though a sensor may be answered
in any way. A domain to which no answer contributes is not reported.
-/
theorem read_wellFormed (host : String) (repository : Repository) {first : Stored}
    {rest : List Stored} (wellFormed : WellFormed (first :: rest)) (reservation : UInt16) {σ : Type}
    (handler : Dialogue.Handler controller σ) (memory : σ)
    (selected : ∀ exchange ∈ (ComponentHealth.read host).outcome.transcript handler memory,
      exchange.request = Controller.deviceIdRequest →
      ∃ payload, exchange.Carries 2 payload ∧ Repository.ofDeviceId payload = .ok repository)
    (fair : ∀ exchange ∈ (ComponentHealth.read host).outcome.transcript handler memory,
      HandsOut repository (first :: rest) reservation exchange) :
    ∃ (health : ComponentHealth) (readings : List Reading) (asked : List (Exchange controller)),
      ((ComponentHealth.read host).outcome.run handler memory).1 = .ok health ∧
      (ComponentHealth.read host).outcome.transcript handler memory
        = asked ++ readings.map Reading.exchange ∧
      readings.map Reading.record = (first :: rest).filterMap Stored.sensor? ∧
      ∀ domain,
        (∀ severity, health.severity? domain = some severity ↔
          Severity.IsWorst (fun told => ∃ reading ∈ readings, reading.Contributes domain told)
            severity) ∧
        (health.severity? domain = none ↔
          ∀ severity, ¬ ∃ reading ∈ readings, reading.Contributes domain severity) := by
  -- The run is one course of the reading, which is followed step by step.
  have course := Dialogue.course_run handler (ComponentHealth.read host).outcome memory
  generalize (ComponentHealth.read host).outcome.transcript handler memory = exchanges at *
  generalize ((ComponentHealth.read host).outcome.run handler memory).1 = result at *
  rw [read_eq] at course
  -- The device id leads to the repository, the scan through all of it.
  rcases Attempt.course_bind_iff.mp course with ⟨error, probed, rfl⟩ |
    ⟨probing, found, later, probed, onward, rfl⟩
  · cases Repository.course_probe selected probed
  obtain rfl := Except.ok.inj
    (Repository.course_probe (List.forall_mem_append.mp selected).1 probed)
  obtain ⟨scanning, scanned, reading, walked, onward, rfl⟩ :=
    Attempt.course_liftDialogue_bind_iff.mp onward
  obtain ⟨fairScan, fairReading⟩ :=
    List.forall_mem_append.mp (List.forall_mem_append.mp fair).2
  -- Every record of the chain is handed out, so that the scan finds its sensors in order.
  obtain rfl := Sensor.course_scan_wellFormed wellFormed fairScan walked
  -- Each sensor is read once, and the states that this gives are summed up.
  rcases Attempt.course_bind_iff.mp (course_announce_bind_iff.mp onward) with
    -- The sensors are all answered, so that reading them does not fail.
    ⟨error, failed, rfl⟩ | ⟨spent, states, last, stated, ended, rfl⟩
  · obtain ⟨_, _, _, same⟩ := Sensor.Status.course_readAll
      (fun exchange member => (fairReading exchange member).delivered) failed
    cases same
  obtain ⟨rfl, rfl⟩ := Attempt.course_pure_iff.mp ended
  rw [List.append_nil] at fairReading
  obtain ⟨readings, records, rfl, same⟩ := Sensor.Status.course_readAll
    (fun exchange member => (fairReading exchange member).delivered) stated
  obtain rfl := Except.ok.inj same
  -- What was asked before the sensors comes first, and then each sensor has its exchange.
  refine ⟨_, readings, probing ++ scanning, rfl, by simp, records, fun domain => ?_⟩
  have sums := sums_readings readings domain
  exact ⟨fun severity => sums.eq_some_iff, sums.eq_none_iff⟩

/-- The exchanges in which the health of the rack is read. -/
def rackExchanges : List (Exchange controller) :=
  (ComponentHealth.read "bmc").outcome.transcript (constantly Sensor.rackAnswers) ()

/-- A rack is warm, its power supply has an unexpected state, and its fan is not reported on. -/
theorem read_rackChain :
    WellFormed Sensor.rackChain ∧
    (∀ exchange ∈ rackExchanges, exchange.request = Controller.deviceIdRequest →
      ∃ payload, exchange.Carries 2 payload ∧ Repository.ofDeviceId payload = .ok .storage) ∧
    (∀ exchange ∈ rackExchanges, HandsOut .storage Sensor.rackChain 0x3412 exchange) ∧
    ∃ (health : ComponentHealth) (readings : List Reading),
      ((ComponentHealth.read "bmc").outcome.run (constantly Sensor.rackAnswers) ()).1
        = .ok health ∧
      health.entries = [(.temperature, .warning), (.powerSupply, .unknown)] ∧
      readings.map Reading.record = Sensor.rackChain.filterMap Stored.sensor? ∧
      Severity.IsWorst (fun told => ∃ reading ∈ readings, reading.Contributes .temperature told)
        .warning ∧
      ∀ severity, ¬ ∃ reading ∈ readings, reading.Contributes .fan severity := by
  -- Surroundings with fixed answers remember nothing, so that each answer is the fixed one.
  have answered : ∀ exchange ∈ rackExchanges,
      exchange.answer = Sensor.rackAnswers exchange.request := fun exchange member => by
    obtain ⟨_, same⟩ := Dialogue.transcript_answered _ _ () exchange member
    exact same
  have selected : ∀ exchange ∈ rackExchanges, exchange.request = Controller.deviceIdRequest →
      ∃ payload, exchange.Carries 2 payload ∧ Repository.ofDeviceId payload = .ok .storage := by
    intro exchange member asked
    -- The device id of the rack points to the repository.
    have told := answered exchange member
    rw [asked] at told
    exact ⟨[0x20, 0x01], ⟨true, told, by decide⟩, rfl⟩
  have fair : ∀ exchange ∈ rackExchanges, HandsOut .storage Sensor.rackChain 0x3412 exchange :=
    fun exchange member => Repository.handsOut_answering (answered exchange member)
  obtain ⟨health, readings, _, read, _, records, domains⟩ := read_wellFormed "bmc" .storage
    Sensor.wellFormed_rackChain 0x3412 (constantly Sensor.rackAnswers) () selected fair
  -- The run is evaluated once, and all that is to be seen of its health is taken from it.
  obtain ⟨seen, again, view⟩ := exists_of_view
    ((ComponentHealth.read "bmc").outcome.run (constantly Sensor.rackAnswers) ()).1
    (fun health => (health.entries, health.severity? .temperature, health.severity? .fan))
    ([(.temperature, .warning), (.powerSupply, .unknown)], some .warning, none) (by decide +kernel)
  -- The health that was read and the one that is seen are the result of the same run.
  obtain rfl := Except.ok.inj (read.symm.trans again)
  simp only [Prod.mk.injEq] at view
  exact ⟨Sensor.wellFormed_rackChain, selected, fair, health, readings, read, view.1, records,
    ((domains .temperature).1 .warning).mp view.2.1, (domains .fan).2.mp view.2.2⟩

end ComponentHealth

end BmcTelemetry
