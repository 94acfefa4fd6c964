import BmcTelemetry.Proofs.Health.Severity

/-!
Merging health: what sensors add up to depends on which of them there are, and on nothing else.

Sensors may be told of in any order, in several parts and more than once.
-/

namespace BmcTelemetry.ComponentHealth

open Severity (Sums IsWorst)

/-- The health of two sets of sensors together: each domain with the worse of its severities. -/
def merge (left right : ComponentHealth) : ComponentHealth :=
  ⟨fun domain => (left.severity? domain).merge Severity.worst (right.severity? domain)⟩

/-- Health that sums up what sensors contribute is the health that they add up to. -/
theorem eq_ofSensors {health : ComponentHealth} {sensors : List Sensor.Status}
    (sums : ∀ domain, Sums (fun severity => ∃ sensor ∈ sensors,
      HealthDomain.contribution sensor = some (domain, severity)) (health.severity? domain)) :
    health = ofSensors sensors := by
  -- Health is nothing but the severity of each domain, so that the domains are compared one by one.
  obtain ⟨severity?⟩ := health
  refine congrArg ComponentHealth.mk (funext fun domain => ?_)
  exact (sums domain).unique (sums_ofSensors sensors domain)

/-- Sensors in two parts add up to what the parts add up to, merged. -/
theorem ofSensors_append (first second : List Sensor.Status) :
    ofSensors (first ++ second) = (ofSensors first).merge (ofSensors second) := by
  refine (eq_ofSensors fun domain => ?_).symm
  -- Whatever is contributed to the domain is contributed from one of the parts.
  have both := (sums_ofSensors first domain).merge (sums_ofSensors second domain)
  simpa only [merge, List.mem_append, or_and_right, exists_or] using both

/-- The same sensors add up to the same, in any order and however often they are told of. -/
theorem ofSensors_congr {sensors again : List Sensor.Status}
    (same : ∀ sensor, sensor ∈ again ↔ sensor ∈ sensors) : ofSensors again = ofSensors sensors := by
  -- The sums say only which contributions there are, and these are the same in both lists.
  refine eq_ofSensors fun domain => ?_
  simpa only [same] using sums_ofSensors again domain

/-- A domain is reported exactly where some sensor contributes to it. -/
theorem isSome_severity?_iff (sensors : List Sensor.Status) (domain : HealthDomain) :
    ((ofSensors sensors).severity? domain).isSome ↔ ∃ sensor ∈ sensors, ∃ severity,
      HealthDomain.contribution sensor = some (domain, severity) := by
  -- What is found of the domain is the sum of the contributions to it.
  have sums := sums_ofSensors sensors domain
  constructor
  -- A severity that is found was contributed by some sensor.
  · intro reported
    obtain ⟨severity, found⟩ := Option.isSome_iff_exists.mp reported
    obtain ⟨⟨sensor, member, told⟩, _⟩ := sums.eq_some_iff.mp found
    exact ⟨sensor, member, severity, told⟩
  -- A contribution to the domain would have been missed if nothing were found.
  · rintro ⟨sensor, member, severity, told⟩
    rw [Option.isSome_iff_ne_none]
    intro absent
    exact sums.eq_none_iff.mp absent severity ⟨sensor, member, told⟩

/--
Health adds up: sensors in two parts give the merged health of the parts.

So neither the order of the sensors nor their number of times matters, more sensors make no domain
disappear or look better, and each domain is as bad as the worst that some sensor contributes to it.
-/
theorem ofSensors_adds_up (first second : List Sensor.Status) :
    ofSensors (first ++ second) = (ofSensors first).merge (ofSensors second) ∧
    (∀ again : List Sensor.Status, (∀ sensor, sensor ∈ again ↔ sensor ∈ first) →
      ofSensors again = ofSensors first) ∧
    (∀ more : List Sensor.Status, first ⊆ more → ∀ domain severity,
      (ofSensors first).severity? domain = some severity →
      ∃ worse, (ofSensors more).severity? domain = some worse ∧ severity.rank ≤ worse.rank) ∧
    ∀ domain,
      (((ofSensors first).severity? domain).isSome ↔ ∃ sensor ∈ first, ∃ severity,
        HealthDomain.contribution sensor = some (domain, severity)) ∧
      ∀ severity, (ofSensors first).severity? domain = some severity ↔
        IsWorst (fun told => ∃ sensor ∈ first,
          HealthDomain.contribution sensor = some (domain, told)) severity :=
  ⟨ofSensors_append first second, fun _ same => ofSensors_congr same,
    fun _ included _ _ reported => severity?_mono_of_subset included reported,
    fun domain => ⟨isSome_severity?_iff first domain,
      fun _ => (sums_ofSensors first domain).eq_some_iff⟩⟩

/-- A warm sensor, another one that is not, a fan in order, and a sensor that is not read. -/
def warmSensors : List Sensor.Status :=
  [⟨0x30, 0x01, 0x01, 0x08, false⟩, ⟨0x31, 0x01, 0x01, 0x00, false⟩,
    ⟨0x32, 0x04, 0x01, 0x00, false⟩, ⟨0x33, 0x02, 0x01, 0x3f, true⟩]

/-- A sensor beyond a critical threshold. -/
def hotSensor : Sensor.Status := ⟨0x34, 0x01, 0x01, 0x10, false⟩

/-- Told of twice, the sensors add up to the same, and one that is hot makes a domain worse. -/
theorem ofSensors_adds_up_warm :
    (∀ sensor, sensor ∈ warmSensors.reverse ++ warmSensors ↔ sensor ∈ warmSensors) ∧
    warmSensors ⊆ hotSensor :: warmSensors ∧
    (ofSensors warmSensors).entries = [(.temperature, .warning), (.fan, .ok)] ∧
    (ofSensors (hotSensor :: warmSensors)).entries = [(.temperature, .critical), (.fan, .ok)] ∧
    ofSensors (warmSensors.reverse ++ warmSensors) = ofSensors warmSensors ∧
    ∃ worse, (ofSensors (hotSensor :: warmSensors)).severity? .temperature = some worse ∧
      Severity.warning.rank ≤ worse.rank := by
  have same : ∀ sensor, sensor ∈ warmSensors.reverse ++ warmSensors ↔ sensor ∈ warmSensors :=
    fun sensor => by simp
  have included : warmSensors ⊆ hotSensor :: warmSensors := List.subset_cons_self _ _
  -- The general law, at the warm sensors with a hot one to add.
  obtain ⟨_, again, more, _⟩ := ofSensors_adds_up warmSensors [hotSensor]
  exact ⟨same, included, by decide, by decide, again _ same,
    more _ included .temperature .warning (by decide)⟩

end BmcTelemetry.ComponentHealth
