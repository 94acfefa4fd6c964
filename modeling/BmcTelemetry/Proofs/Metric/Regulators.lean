import BmcTelemetry.Proofs.Metric.Parsing

/-!
Voltage regulators: when an answer is taken to cover all of them, and when it really does.

The least payload is counted behind the completion code, and the places of the values from it on, so
that the two differ by a byte at the very end.
-/

namespace BmcTelemetry.Format

/-- Every regulator is reported as absent. -/
def ReportsAbsent (response : Response) : Prop :=
  pmbus.parse response = pmbus.sentinels 0xFFFE

/-- A regulator has both of its bytes in the answer, and is reported as the word that they make. -/
def ReportsCarried (response : Response) (regulator : Field) : Prop :=
  regulator.Within response.data ∧ ∀ value : UInt16,
    (regulator.name, value) ∈ pmbus.parse response ↔ value.toNat = regulator.number response.data

/-- A regulator lacks one of its bytes in the answer, and is reported as invalid. -/
def ReportsInvalid (response : Response) (regulator : Field) : Prop :=
  ¬ regulator.Within response.data ∧ ∀ value : UInt16,
    (regulator.name, value) ∈ pmbus.parse response ↔ value = 0xFFFF

/-- The regulator whose bytes come last. -/
def lastRegulator : Field := .word "VR5" 14

/-- A regulator is a word that is always reported; only the last one starts past place twelve. -/
theorem regulator_place {regulator : Field} (member : regulator ∈ pmbus.fields) :
    regulator.width = .word ∧ regulator.omissible = false ∧
      (regulator = lastRegulator ∨ regulator.offset ≤ 12) := by
  have each : ∀ regulator ∈ pmbus.fields, regulator.width = .word ∧
      regulator.omissible = false ∧ (regulator = lastRegulator ∨ regulator.offset ≤ 12) := by
    -- There are six regulators, which are looked at one by one.
    decide
  exact each regulator member

/-- The last regulator is one of them. -/
theorem lastRegulator_mem : lastRegulator ∈ pmbus.fields := by decide

section Answers

variable {response : Response} {regulator : Field}

/-- A payload that counts as covering all regulators stands behind the completion code. -/
theorem length_of_covering (covering : regulatorPayload ≤ response.payload.length) :
    response.data.length = response.payload.length + 1 := by
  -- A payload is the data without its first byte, so that some data stands in front of it.
  simp only [Response.payload, List.length_drop, regulatorPayload] at covering ⊢
  omega

/-- An answer that counts as covering all regulators has both bytes of each but the last one. -/
theorem within_of_covering (covering : regulatorPayload ≤ response.payload.length)
    (member : regulator ∈ pmbus.fields) :
    regulator.Within response.data ↔
      (regulator = lastRegulator → regulatorPayload < response.payload.length) := by
  -- The place of a regulator counts from the completion code on, and the payload from behind it.
  have whole := length_of_covering covering
  obtain ⟨word, _, last | early⟩ := regulator_place member
  · -- The last one starts at the last byte of the least payload.
    subst last
    simp only [Field.Within, lastRegulator, Field.word, Width.size, whole, regulatorPayload,
      forall_const]
    omega
  -- All others end two bytes earlier, which the least payload reaches.
  · have other : regulator ≠ lastRegulator := by
      rintro rfl
      exact absurd early (by decide)
    simp only [Field.Within, word, Width.size, whole, other, IsEmpty.forall_iff, iff_true]
    simp only [regulatorPayload] at covering
    omega

/-- A shorter answer reports all regulators as absent. -/
theorem reportsAbsent_of_short (short : response.payload.length < regulatorPayload) :
    ReportsAbsent response := by
  -- A payload that is too short gives all names the value for absent ones.
  rw [ReportsAbsent, parse, if_pos ⟨rfl, short⟩]
  rfl

/-- A regulator whose bytes a covering answer has is reported by them. -/
theorem reportsCarried_of_within (valid : response.valid = true)
    (covering : regulatorPayload ≤ response.payload.length) (member : regulator ∈ pmbus.fields)
    (within : regulator.Within response.data) : ReportsCarried response regulator :=
  ⟨within, mem_parse_within valid (fun _ => covering) member within⟩

/-- A regulator whose bytes a covering answer does not have is reported as invalid. -/
theorem reportsInvalid_of_beyond (valid : response.valid = true)
    (covering : regulatorPayload ≤ response.payload.length) (member : regulator ∈ pmbus.fields)
    (beyond : ¬ regulator.Within response.data) : ReportsInvalid response regulator := by
  have always := (regulator_place member).2.1
  -- A regulator is never left out, so that a missing byte makes its value invalid.
  have given : contribution response.data regulator = some (regulator.name, 0xFFFF) := by
    simp [contribution, Field.read?_eq_none beyond, always, invalidValue]
  refine ⟨beyond, fun value => ?_⟩
  rw [mem_parse_iff valid (fun _ => covering) member, given]
  simp [eq_comm]

/-- A regulator that is reported as invalid is not reported as absent. -/
theorem ReportsInvalid.not_absent (invalid : ReportsInvalid response regulator)
    (member : regulator ∈ pmbus.fields) : ¬ ReportsAbsent response := by
  intro absent
  -- The regulator would be among the absent ones, with the value for these.
  have listed : (regulator.name, 0xFFFE) ∈ pmbus.parse response := by
    rw [absent]
    exact List.mem_map.mpr ⟨regulator.name, List.mem_map.mpr ⟨regulator, member, rfl⟩, rfl⟩
  exact absurd ((invalid.2 0xFFFE).mp listed) (by decide)

/-- Where all regulators are reported as absent, none is reported as invalid. -/
theorem ReportsAbsent.not_invalid (absent : ReportsAbsent response) (name : String) :
    (name, 0xFFFF) ∉ pmbus.parse response := by
  -- All values are the one for absent ones, which is not the one for invalid ones.
  rw [absent]
  intro listed
  obtain ⟨_, _, same⟩ := List.mem_map.mp listed
  exact absurd (Prod.mk.inj same).2 (by decide)

end Answers

/--
All regulators are reported by their bytes or all as absent, unless the payload has fourteen bytes.

Such a payload counts as covering all of them, but ends in the middle of the last one. The others
are reported by their bytes all the same, and the last one as invalid.
-/
theorem regulators_covered_iff {response : Response} (valid : response.valid = true) :
    (ReportsAbsent response ∨ (∀ regulator ∈ pmbus.fields, ReportsCarried response regulator) ↔
      response.payload.length ≠ 14) ∧
    ((∀ regulator ∈ pmbus.fields, ¬ regulator.Within response.data →
        (regulator.name, 0xFFFF) ∉ pmbus.parse response) ↔ response.payload.length ≠ 14) ∧
    (response.payload.length = 14 → ∀ regulator ∈ pmbus.fields,
      if regulator = lastRegulator then ReportsInvalid response regulator
      else ReportsCarried response regulator) := by
  -- The payload is too short to count, just long enough to count, or longer.
  rcases Nat.lt_trichotomy response.payload.length regulatorPayload with short | edge | long
  -- All regulators are absent, none is invalid, and the edge is not reached.
  · have absent := reportsAbsent_of_short short
    have other : response.payload.length ≠ 14 := Nat.ne_of_lt short
    exact ⟨iff_of_true (.inl absent) other,
      iff_of_true (fun regulator _ _ => absent.not_invalid regulator.name) other,
      fun same => absurd same other⟩
  · -- The last regulator is reported as invalid, so neither of the reports is the case.
    have covering : regulatorPayload ≤ response.payload.length := Nat.le_of_eq edge.symm
    have beyond : ¬ lastRegulator.Within response.data := fun within =>
      absurd ((within_of_covering covering lastRegulator_mem).mp within rfl) (by omega)
    have invalid := reportsInvalid_of_beyond valid covering lastRegulator_mem beyond
    refine ⟨iff_of_false ?_ (not_not.mpr edge), iff_of_false ?_ (not_not.mpr edge), ?_⟩
    -- Absent regulators have another value, and a carried one has both of its bytes.
    · rintro (absent | carried)
      · exact invalid.not_absent lastRegulator_mem absent
      · exact beyond (carried lastRegulator lastRegulator_mem).1
    -- The last regulator lacks a byte and is reported as invalid, against what never is the case.
    · intro never
      exact never lastRegulator lastRegulator_mem beyond ((invalid.2 0xFFFF).mpr rfl)
    · intro _ regulator member
      -- The edge cuts the last regulator and none of the others.
      split
      next last => exact last ▸ invalid
      next other =>
        have within := (within_of_covering covering member).mpr fun last => absurd last other
        exact reportsCarried_of_within valid covering member within
  -- Behind the edge, even the last regulator has both of its bytes.
  · have covering : regulatorPayload ≤ response.payload.length := Nat.le_of_lt long
    have other : response.payload.length ≠ 14 := Nat.ne_of_gt long
    have within : ∀ regulator ∈ pmbus.fields, regulator.Within response.data :=
      fun regulator member => (within_of_covering covering member).mpr fun _ => long
    exact ⟨iff_of_true (.inr fun regulator member =>
        reportsCarried_of_within valid covering member (within regulator member)) other,
      iff_of_true (fun regulator member beyond => absurd (within regulator member) beyond) other,
      fun same => absurd same other⟩

/-- An answer with both bytes of the last regulator, and no byte more, has all of them. -/
theorem regulators_covered_fifteenBytes :
    let response : Response := .answered
      [0x00, 0x57, 0x01, 0x00, 0x28, 0x00, 0x29, 0x00, 0x2a, 0x00, 0x2b, 0x00, 0x2c, 0x00, 0xff,
        0xff]
    response.valid = true ∧
      (ReportsAbsent response ∨ ∀ regulator ∈ pmbus.fields, ReportsCarried response regulator) ∧
      ("VR5", 0xFFFF) ∈ pmbus.parse response := by
  intro response
  have valid : response.valid = true := rfl
  exact ⟨valid, (regulators_covered_iff valid).1.mpr (by decide), by decide⟩

/-- Of a payload of fourteen bytes the last regulator is reported as invalid, the others as read. -/
theorem regulators_last_cut :
    let response : Response := .answered
      [0x00, 0x57, 0x01, 0x00, 0x28, 0x00, 0x29, 0x00, 0x2a, 0x00, 0x2b, 0x00, 0x2c, 0x00, 0x2d]
    response.valid = true ∧ response.completionCode = some 0 ∧
      pmbus.parse response = [("VR0", 0x28), ("VR1", 0x29), ("VR2", 0x2a), ("VR3", 0x2b),
        ("VR4", 0x2c), ("VR5", 0xFFFF)] ∧
      ¬ lastRegulator.Within response.data ∧
      ¬ (ReportsAbsent response ∨
        ∀ regulator ∈ pmbus.fields, ReportsCarried response regulator) := by
  intro response
  -- The last regulator would end with the sixteenth byte, and there are fifteen.
  have cut : ¬ lastRegulator.Within response.data := by
    unfold Field.Within
    decide
  refine ⟨rfl, rfl, by decide, cut, ?_⟩
  -- The values of the others are those of their bytes, so that they are not absent.
  rintro (absent | carried)
  · unfold ReportsAbsent at absent
    exact absurd absent (by decide)
  · exact cut (carried lastRegulator lastRegulator_mem).1

end BmcTelemetry.Format
