import BmcTelemetry.Proofs.Health.Severity
import BmcTelemetry.Proofs.Sensor.Answering
import BmcTelemetry.Proofs.Sensor.Truncation

/-! Truncated health: reads of records that fail make no domain look worse than it is. -/

namespace BmcTelemetry

open Controller (Truncates)
open Dialogue (Handler constantly)

variable {σ : Type} {answers : controller.Answers} {handler : Handler controller σ}

namespace Sensor.Status

/-- Reading states asks for no record. -/
theorem keeps_readAll (truncates : Truncates answers handler) (records : List Record) :
    (readAll records).outcome.Keeps answers handler :=
  Attempt.keeps_mapM records fun _ =>
    Attempt.keeps_bind (truncates.keeps_exec rfl) fun _ => Attempt.keeps_pure _

/-- The states of the first records are the first states. -/
theorem readAll_prefix {front records : List Record} (begins : front <+: records)
    {first all : List Status} (read : (readAll front).value? answers = some first)
    (readMore : (readAll records).value? answers = some all) : first <+: all := by
  obtain ⟨rest, rfl⟩ := begins
  -- All records are read by reading the first ones, and then the rest.
  rw [readAll] at read
  rw [readAll, List.mapM_append, Attempt.value?_bind, read, Option.bind_some,
    Attempt.value?_bind] at readMore
  obtain ⟨others, _, joined⟩ := Option.bind_eq_some_iff.mp readMore
  obtain rfl := Option.some.inj joined
  exact List.prefix_append first others

end Sensor.Status

namespace ComponentHealth

/-- Health that is read is what the states of the accepted records add up to. -/
theorem read_ok (truncates : Truncates answers handler) {host : String} {memory : σ}
    {health : ComponentHealth}
    (read : ((ComponentHealth.read host).outcome.reach handler memory).1 = .ok health) :
    ∃ repository remembered states, Sensor.Repository.probe.value? answers = some repository ∧
      (Sensor.Status.readAll (Sensor.accepted
        ((Sensor.scan host repository).reach handler remembered).1)).value? answers
        = some states ∧ health = ofSensors states := by
  -- The reading went through all of its steps, each of which has a value.
  rw [read_eq] at read
  obtain ⟨repository, probed, read⟩ := Attempt.reach_bind_ok read
  obtain ⟨scanned, walked, read⟩ := Attempt.reach_bind_ok read
  obtain ⟨_, _, read⟩ := Attempt.reach_bind_ok read
  obtain ⟨states, stated, ended⟩ := Attempt.reach_bind_ok read
  -- The scan alone depends on which requests fail, and the others are answered as ever.
  rw [Sensor.Repository.keeps_probe truncates] at probed
  rw [Attempt.reach_liftDialogue] at walked
  obtain rfl := Except.ok.inj walked
  rw [Sensor.Status.keeps_readAll truncates] at stated
  exact ⟨repository, _, states, congrArg Except.toOption probed, congrArg Except.toOption stated,
    (Except.ok.inj ended).symm⟩

/-- Where fewer states are told of, no domain looks worse. -/
theorem severity?_mono {first all : List Sensor.Status} (begins : first <+: all)
    {domain : HealthDomain} {severity : Severity}
    (reported : (ofSensors first).severity? domain = some severity) :
    ∃ worse, (ofSensors all).severity? domain = some worse ∧ severity.rank ≤ worse.rank :=
  severity?_mono_of_subset begins.subset reported

/--
Reads of records that fail truncate the scan and never worsen the health that is found.

With failures, a scan accepts the first of the records that it accepts without, and each domain that
is reported is also reported without failures, with a severity that is at least as bad.
-/
theorem truncation_never_worsens (answers : controller.Answers) {σ : Type}
    (handler : Handler controller σ) (memory : σ) (truncates : Truncates answers handler)
    (host : String) :
    (∀ repository,
      Sensor.accepted ((Sensor.scan host repository).run handler memory).1
        <+: Sensor.accepted ((Sensor.scan host repository).run (constantly answers) ()).1) ∧
    ∀ truncated whole,
      ((ComponentHealth.read host).outcome.run handler memory).1 = .ok truncated →
      ((ComponentHealth.read host).outcome.run (constantly answers) ()).1 = .ok whole →
      ∀ domain severity, truncated.severity? domain = some severity →
        ∃ worse, whole.severity? domain = some worse ∧ severity.rank ≤ worse.rank := by
  constructor
  -- The scan alone is compared, which stops at the first read that fails.
  · intro repository
    rw [Dialogue.run_constantly]
    exact Sensor.accepted_scan_prefix truncates host repository memory
  · intro truncated whole here there domain severity reported
    -- Surroundings without failures are a case of those with some.
    have constant : Truncates answers (constantly answers) := fun _ _ => .inl rfl
    obtain ⟨repository, remembered, first, probed, read, rfl⟩ := read_ok truncates here
    obtain ⟨other, nothing, all, again, readAll, rfl⟩ := read_ok constant there
    -- The device id is not among the requests that may fail, so that both scan one repository.
    obtain rfl := Option.some.inj (probed.symm.trans again)
    have whole_scan : ((Sensor.scan host repository).reach (constantly answers) nothing).1
        = (Sensor.scan host repository).eval answers :=
      Dialogue.run_constantly (Sensor.scan host repository)
    rw [whole_scan] at readAll
    -- What the truncated scan accepts comes first in the whole one, and so do the states of it.
    have begins := Sensor.accepted_scan_prefix truncates host repository remembered
    exact severity?_mono (Sensor.Status.readAll_prefix begins read readAll) reported

/-- The answers for a rack, where every read of the second record fails. -/
def withoutSupply : Handler controller Unit :=
  Controller.failing Sensor.rackAnswers (fun request => request.data.wordAt 4 == 0x0002)
    fun _ => .ok (.answered [0xc5])

/-- A scan that cannot read the second record still finds the health of the first one. -/
theorem truncation_rackChain :
    Truncates Sensor.rackAnswers withoutSupply ∧ ∃ truncated whole,
      ((ComponentHealth.read "bmc").outcome.run withoutSupply ()).1 = .ok truncated ∧
      ((ComponentHealth.read "bmc").outcome.run (constantly Sensor.rackAnswers) ()).1 = .ok whole ∧
      truncated.entries = [(.temperature, .warning)] ∧
      whole.entries = [(.temperature, .warning), (.powerSupply, .unknown)] ∧
      ∀ domain severity, truncated.severity? domain = some severity →
        ∃ worse, whole.severity? domain = some worse ∧ severity.rank ≤ worse.rank := by
  -- The reads that fail are refused with a completion code that is no success.
  have truncates : Truncates Sensor.rackAnswers withoutSupply :=
    Controller.truncates_failing fun _ => (by decide : (some 0xc5 : Option UInt8) ≠ some 0)
  -- Both runs are evaluated for the entries that are seen of their health.
  obtain ⟨truncated, here, reported⟩ := exists_of_view
    ((ComponentHealth.read "bmc").outcome.run withoutSupply ()).1 entries
    [(.temperature, .warning)] (by decide +kernel)
  obtain ⟨whole, there, all⟩ := exists_of_view
    ((ComponentHealth.read "bmc").outcome.run (constantly Sensor.rackAnswers) ()).1 entries
    [(.temperature, .warning), (.powerSupply, .unknown)] (by decide +kernel)
  exact ⟨truncates, truncated, whole, here, there, reported, all,
    (truncation_never_worsens Sensor.rackAnswers withoutSupply () truncates "bmc").2 truncated whole
      here there⟩

end ComponentHealth

end BmcTelemetry
