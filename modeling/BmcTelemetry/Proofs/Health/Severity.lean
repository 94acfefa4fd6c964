import BmcTelemetry.Health.Component

/-! Severities that add up: the health of a domain is the worst of what its sensors tell of it. -/

namespace BmcTelemetry

namespace Severity

/-- No two severities have the same place in the order. -/
theorem rank_injective : Function.Injective rank := by
  -- There are four severities, and no two of them share a place.
  intro left right same
  cases left <;> cases right <;> first | rfl | cases same

/-- A severity is told of, and none that is told of is worse. -/
def IsWorst (told : Severity → Prop) (severity : Severity) : Prop :=
  told severity ∧ ∀ other, told other → other.rank ≤ severity.rank

/-- There is no more than one worst severity. -/
theorem IsWorst.unique {told : Severity → Prop} {left right : Severity}
    (worst : IsWorst told left) (other : IsWorst told right) : left = right :=
  rank_injective (Nat.le_antisymm (other.2 left worst.1) (worst.2 right other.1))

/-- What is found is the worst of what is told of, and nothing is found where nothing is told. -/
def Sums (told : Severity → Prop) : Option Severity → Prop
  | none => ∀ severity, ¬ told severity
  | some severity => IsWorst told severity

variable {told : Severity → Prop} {found : Option Severity}

/-- The same is found wherever the same is told. -/
theorem Sums.unique {other : Option Severity} (left : Sums told found) (right : Sums told other) :
    found = other := by
  -- Something is told on both sides or on neither, as it is the same that is told.
  cases found with
  | none =>
    cases other with
    | none => rfl
    | some severity => exact absurd right.1 (left severity)
  | some severity =>
    cases other with
    | none => exact absurd left.1 (right severity)
    | some known => rw [IsWorst.unique left right]

/-- The severity that is found is the worst one. -/
theorem Sums.eq_some_iff (sums : Sums told found) {severity : Severity} :
    found = some severity ↔ IsWorst told severity := by
  -- There is at most one worst severity, so that it is the one that is found.
  constructor
  · rintro rfl
    exact sums
  · intro worst
    have alone : Sums told (some severity) := worst
    exact sums.unique alone

/-- Nothing is found exactly where nothing is told. -/
theorem Sums.eq_none_iff (sums : Sums told found) :
    found = none ↔ ∀ severity, ¬ told severity := by
  constructor
  · rintro rfl
    exact sums
  -- Nothing is found where nothing is told, and what is found does not depend on how.
  · intro silent
    have nothing : Sums told none := silent
    exact sums.unique nothing

/-- Where more is told, what is found is at least as bad. -/
theorem Sums.mono (sums : Sums told found) {more : Severity → Prop} {other : Option Severity}
    (all : Sums more other) (included : ∀ severity, told severity → more severity)
    {severity : Severity} (here : found = some severity) :
    ∃ worse, other = some worse ∧ severity.rank ≤ worse.rank := by
  -- What is found is told of, and so it is told of where more is.
  have heard := included severity (sums.eq_some_iff.mp here).1
  cases other with
  | none => exact absurd heard (all severity)
  | some worse => exact ⟨worse, rfl, all.2 severity heard⟩

/-- The worse of two severities is one of them. -/
theorem worst_eq_or (left right : Severity) :
    left.worst right = left ∨ left.worst right = right := by
  -- Of two that are equally bad the first one is kept.
  unfold worst
  split
  · exact .inr rfl
  · exact .inl rfl

/-- The worse of two severities is as bad as the greater of the two. -/
theorem rank_worst (left right : Severity) :
    (left.worst right).rank = max left.rank right.rank := by
  -- The comparison is that of the ranks, whose greater one is taken.
  unfold worst
  split <;> omega

/-- A severity alone is the worst of itself. -/
theorem sums_single (severity : Severity) : Sums (fun other => other = severity) (some severity) :=
  ⟨rfl, fun _ same => Nat.le_of_eq (congrArg rank same)⟩

/-- What is told of twice over is summed up by the worse of both sums. -/
theorem Sums.merge (sums : Sums told found) {more : Severity → Prop} {other : Option Severity}
    (also : Sums more other) :
    Sums (fun severity => told severity ∨ more severity) (found.merge worst other) := by
  -- Nothing may be told on a side, and then the other side alone decides.
  match found, other with
  | none, none =>
    rintro severity (heard | heard)
    · exact sums severity heard
    · exact also severity heard
  | none, some right =>
    refine ⟨.inr also.1, ?_⟩
    rintro severity (heard | heard)
    · exact absurd heard (sums severity)
    · exact also.2 severity heard
  | some left, none =>
    refine ⟨.inl sums.1, ?_⟩
    rintro severity (heard | heard)
    · exact sums.2 severity heard
    · exact absurd heard (also severity)
  | some left, some right =>
    -- The worse of the two is told of on its side, and nothing on either side is worse.
    refine ⟨?_, ?_⟩
    · rcases worst_eq_or left right with same | same
      · exact .inl (by rw [same]; exact sums.1)
      · exact .inr (by rw [same]; exact also.1)
    · rw [rank_worst]
      rintro severity (heard | heard)
      · exact Nat.le_trans (sums.2 severity heard) (Nat.le_max_left _ _)
      · exact Nat.le_trans (also.2 severity heard) (Nat.le_max_right _ _)

end Severity

namespace ComponentHealth

open Severity (Sums)

/-- One more contribution counts for its own domain, and for no other. -/
theorem sums_add {told : HealthDomain → Severity → Prop} {health : ComponentHealth}
    (sums : ∀ domain, Sums (told domain) (health.severity? domain)) (named : HealthDomain)
    (severity : Severity) (domain : HealthDomain) :
    Sums (fun other => told domain other ∨ (domain, other) = (named, severity))
      ((health.add named severity).severity? domain) := by
  simp only [add, Prod.mk.injEq]
  -- The contribution counts for the domain that it names.
  by_cases own : domain = named
  · have joined := (sums named).merge (Severity.sums_single severity)
    simp only [own, if_true, true_and]
    cases known : health.severity? named <;> rwa [known] at joined
  -- Any other domain is as it was before.
  · simp only [own, if_false, false_and, or_false]
    exact sums domain

/-- Contributions sum up to the worst of each domain, with what was known before. -/
theorem sums_foldl (contributions : List (HealthDomain × Severity)) :
    ∀ {told : HealthDomain → Severity → Prop} {health : ComponentHealth},
      (∀ domain, Sums (told domain) (health.severity? domain)) → ∀ domain,
      Sums (fun severity => told domain severity ∨ (domain, severity) ∈ contributions)
        ((contributions.foldl (fun health (domain, severity) => health.add domain severity)
          health).severity? domain) := by
  -- What was told before each contribution stays told, and the contribution joins it.
  induction contributions with
  | nil =>
    intro told health sums domain
    simpa using sums domain
  | cons contribution rest ih =>
    obtain ⟨named, severity⟩ := contribution
    intro told health sums domain
    simpa only [List.mem_cons, or_assoc, List.foldl_cons] using
      ih (sums_add sums named severity) domain

/-- The health of a domain is the worst of what the sensors contribute to it. -/
theorem sums_ofSensors (sensors : List Sensor.Status) (domain : HealthDomain) :
    Sums (fun severity => ∃ sensor ∈ sensors,
        HealthDomain.contribution sensor = some (domain, severity))
      ((ofSensors sensors).severity? domain) := by
  -- A domain of which nothing is known has nothing told of it.
  have nothing : ∀ domain, Sums (fun _ => False) (unknown.severity? domain) :=
    fun _ _ told => told
  have sums := sums_foldl (sensors.filterMap HealthDomain.contribution) nothing domain
  simpa only [ofSensors, false_or, List.mem_filterMap] using sums

/-- Where more sensors are told of, no domain looks better. -/
theorem severity?_mono_of_subset {sensors more : List Sensor.Status} (included : sensors ⊆ more)
    {domain : HealthDomain} {severity : Severity}
    (reported : (ofSensors sensors).severity? domain = some severity) :
    ∃ worse, (ofSensors more).severity? domain = some worse ∧ severity.rank ≤ worse.rank :=
  (sums_ofSensors sensors domain).mono (sums_ofSensors more domain)
    (fun _ ⟨sensor, member, told⟩ => ⟨sensor, included member, told⟩) reported

end ComponentHealth

end BmcTelemetry
