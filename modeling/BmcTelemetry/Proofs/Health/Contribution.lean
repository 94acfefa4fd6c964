import BmcTelemetry.Health.Component

/-! Contributions: what the answer to a sensor's reading says about the health of its domain. -/

namespace BmcTelemetry

namespace ThresholdEvent

/-- In a list of crossings with falling bits, the first one that is reported has the highest bit. -/
theorem find?_falling {events : List ThresholdEvent}
    (falling : events.Pairwise fun first second => second.bit < first.bit) (reported : Nat → Bool)
    {event : ThresholdEvent} :
    (events.find? fun other => reported other.bit) = some event ↔
      event ∈ events ∧ reported event.bit = true ∧
        ∀ other ∈ events, event.bit < other.bit → reported other.bit = false := by
  -- The search splits the list at the first crossing that is reported.
  rw [List.find?_eq_some_iff_append]
  constructor
  · rintro ⟨hit, before, after, rfl, unreported⟩
    refine ⟨by simp, hit, fun other member higher => ?_⟩
    -- A higher bit stands in front, where none was reported.
    rcases List.mem_append.mp member with earlier | later
    · simpa using unreported other earlier
    -- A bit behind the crossing is lower, since the bits fall along the list.
    · obtain ⟨below, _⟩ := List.pairwise_cons.mp (List.pairwise_append.mp falling).2.1
      rcases List.mem_cons.mp later with rfl | later
      · omega
      · have lower := below other later
        omega
  -- Crossings in front have higher bits, of which none is reported.
  · rintro ⟨member, hit, others⟩
    obtain ⟨before, after, rfl⟩ := List.append_of_mem member
    have above := (List.pairwise_append.mp falling).2.2
    refine ⟨hit, before, after, rfl, fun other earlier => ?_⟩
    simpa using others other (List.mem_append_left _ earlier)
      (above other earlier event List.mem_cons_self)

/-- Each of the six lowest bits reports a crossing. -/
theorem exists_of_bit {bit : Nat} (low : bit < 6) : ∃ event ∈ byPriority, event.bit = bit := by
  -- There are six bits, each with a crossing of its own.
  have each : ∀ bit < 6, ∃ event ∈ byPriority, event.bit = bit := by decide
  exact each bit low

/-- No other bit reports any. -/
theorem bit_lt {event : ThresholdEvent} (member : event ∈ byPriority) : event.bit < 6 := by
  have each : ∀ event ∈ byPriority, event.bit < 6 := by decide
  exact each event member

/-- What threshold bits tell: the severity of the highest of the six, or that all is well. -/
def Tells (bits : Nat) (severity : Severity) : Prop :=
  (severity = .ok ∧ ∀ bit < 6, bits.testBit bit = false) ∨
  ∃ event ∈ byPriority, severity = event.severity ∧ bits.testBit event.bit = true ∧
    ∀ bit < 6, event.bit < bit → bits.testBit bit = false

/-- Bits from the seventh on tell of no crossing. -/
theorem tells_mod (bits : Nat) (severity : Severity) :
    Tells (bits % 64) severity ↔ Tells bits severity := by
  -- Taking the remainder keeps the six bits that are looked at.
  have same : ∀ bit < 6, (bits % 64).testBit bit = bits.testBit bit := by
    intro bit low
    rw [show (64 : Nat) = 2 ^ 6 from rfl, Nat.testBit_mod_two_pow, decide_eq_true low,
      Bool.true_and]
  unfold Tells
  refine or_congr (and_congr_right fun _ => forall₂_congr fun bit low => by rw [same bit low])
    (exists_congr fun event => and_congr_right fun member => and_congr_right fun _ => ?_)
  -- The bits of crossings are among the six.
  rw [same event.bit (bit_lt member)]
  exact and_congr_right fun _ => forall₂_congr fun bit low => by rw [same bit low]

/-- The crossing that counts most is that of the highest bit. -/
theorem ofStatus_eq_some_iff {status : UInt16} {event : ThresholdEvent} :
    ofStatus status = some event ↔ event ∈ byPriority ∧ status.toNat.testBit event.bit = true ∧
      ∀ bit < 6, event.bit < bit → status.toNat.testBit bit = false := by
  -- The search goes through the crossings by falling bits, which the six bits are named by.
  rw [ofStatus, find?_falling (by decide) status.toNat.testBit]
  refine and_congr_right fun _ => and_congr_right fun _ => ?_
  constructor
  · intro others bit low higher
    obtain ⟨other, member, rfl⟩ := exists_of_bit low
    exact others other member higher
  · exact fun others other member higher => others other.bit (bit_lt member) higher

/-- There is none exactly where none of the six bits is set. -/
theorem ofStatus_eq_none_iff {status : UInt16} :
    ofStatus status = none ↔ ∀ bit < 6, status.toNat.testBit bit = false := by
  rw [ofStatus, List.find?_eq_none]
  -- Each crossing looks at one of the six bits, and each of these belongs to a crossing.
  constructor
  · intro others bit low
    obtain ⟨other, member, rfl⟩ := exists_of_bit low
    simpa using others other member
  · exact fun others other member => by simpa using others other.bit (bit_lt member)

/-- A status is as severe as its bits tell. -/
theorem severity_ofStatus_iff {status : UInt16} {severity : Severity} :
    ((ofStatus status).map (·.severity)).getD .ok = severity ↔ Tells status.toNat severity := by
  unfold Tells
  -- The bits have a crossing to tell of, or they tell that all is well.
  cases found : ofStatus status with
  | none =>
    have silent := ofStatus_eq_none_iff.mp found
    constructor
    · exact fun same => .inl ⟨same.symm, silent⟩
    -- None of the six bits is set, so that no crossing is reported.
    · rintro (⟨rfl, _⟩ | ⟨event, member, _, hit, _⟩)
      · rfl
      · rw [silent event.bit (bit_lt member)] at hit
        cases hit
  | some event =>
    obtain ⟨member, hit, highest⟩ := ofStatus_eq_some_iff.mp found
    constructor
    · exact fun same => .inr ⟨event, member, same.symm, hit, highest⟩
    -- A crossing is reported, so that the bits cannot be silent.
    · rintro (⟨_, silent⟩ | ⟨other, known, rfl, reported, top⟩)
      · rw [silent event.bit (bit_lt member)] at hit
        cases hit
      · -- The highest bit that is set belongs to one crossing.
        have same := ofStatus_eq_some_iff.mpr ⟨known, reported, top⟩
        rw [found] at same
        rw [Option.some.inj same]
        rfl

end ThresholdEvent

namespace Sensor

/-- A reading tells of the present state of its sensor. -/
structure Current (payload : Bytes) : Prop where
  /-- The first state bits are there. -/
  present : 3 ≤ payload.length
  /-- The sensor is scanned. -/
  scanned : (payload.byteAt 1).toNat.testBit 6 = true
  /-- No update is under way. -/
  settled : (payload.byteAt 1).toNat.testBit 5 = false

/-- The discrete states in a reading; a second byte of them may be missing. -/
def states (payload : Bytes) : UInt16 :=
  (payload.byteAt 2).toUInt16 ||| ((payload.byteAt 3 &&& 0x7f).toUInt16 <<< 8)

namespace Status

/-- A sensor with discrete states has those of its reading. -/
theorem bits_discrete {readingType : UInt8} (discrete : isDiscrete readingType = true)
    (payload : Bytes) : bits readingType payload = states payload := by
  have low := (payload.byteAt 2).toNat_lt
  have mask : (payload.byteAt 3).toNat &&& 127 = (payload.byteAt 3).toNat % 128 :=
    Nat.and_two_pow_sub_one_eq_mod _ 7
  -- The second byte stands above the first one, so joining them is adding them.
  have joined := Nat.shiftLeft_add_eq_or_of_lt low ((payload.byteAt 3).toNat % 128)
  rw [Nat.shiftLeft_eq] at joined
  rw [bits, if_pos discrete, states]
  apply UInt16.toNat.inj
  -- Shifting by a byte multiplies by its size, and the sum still fits into a word.
  have shifted : ((payload.byteAt 3 &&& 0x7f).toUInt16 <<< 8).toNat
      = (payload.byteAt 3).toNat % 128 * 2 ^ 8 := by
    simp [Nat.shiftLeft_eq, mask]
    omega
  rw [UInt16.toNat_or, UInt8.toNat_toUInt16, shifted, Nat.or_comm, ← joined, UInt16.toNat_ofNat']
  omega

/-- A sensor with thresholds has the six lowest bits of its reading. -/
theorem toNat_bits_threshold (payload : Bytes) :
    (bits thresholdReading payload).toNat = (payload.byteAt 2).toNat % 64 := by
  -- A sensor with thresholds does not have discrete states, and six of its bits are kept.
  rw [bits, if_neg (by decide), if_pos rfl, UInt16.toNat_ofNat']
  omega

/-- A present state in a success is the state of the sensor. -/
theorem ofResponse_current (record : Record) {response : Response} {payload : Bytes}
    (succeeded : response.data = 0x00 :: payload) (current : Current payload) :
    ofResponse record response = ⟨record.number, record.type, record.readingType,
      bits record.readingType payload, false⟩ := by
  -- A success is decoded from what stands behind its completion code.
  have read : ofResponse record response = decode record payload := by
    simp [ofResponse, Response.completionCode, Response.payload, succeeded]
  have present := current.present
  -- A state that is present passes all three guards, so that its bits are taken.
  rw [read, decode, if_neg]
  simp only [current.settled, current.scanned]
  simp
  omega

/-- Only a present state in a success makes a sensor available. -/
theorem current_of_available {record : Record} {response : Response}
    (available : (ofResponse record response).unavailable = false) :
    ∃ payload, response.data = 0x00 :: payload ∧ Current payload := by
  unfold ofResponse at available
  -- Anything but a success leaves the sensor unavailable.
  split at available
  next succeeded =>
    obtain ⟨payload, shape⟩ := List.head?_eq_some_iff.mp succeeded
    have tail : response.payload = payload := by rw [Response.payload, shape]; rfl
    rw [tail, decode] at available
    refine ⟨payload, shape, ?_⟩
    -- The guards that the state has passed say that it is present.
    split at available
    next => cases available
    next current =>
      simp only [not_or, Bool.not_eq_true, Bool.not_eq_false'] at current
      exact ⟨by omega, current.2.2, current.2.1⟩
  next => cases available

end Status

end Sensor

/-- Apart from thresholds, only sensors with discrete states are followed. -/
theorem DiscreteSensor.isDiscrete_of_unexpectedBits {type readingType : UInt8} {listed : List Nat}
    (followed : unexpectedBits type readingType = some listed)
    (other : readingType ≠ Sensor.thresholdReading) : Sensor.isDiscrete readingType = true := by
  -- A sensor that is followed has an entry, and the entries can be gone through.
  obtain ⟨before, after, split, _⟩ := List.lookup_eq_some_iff.mp followed
  have each : ∀ entry ∈ unexpectedStates,
      entry.1.2 ≠ Sensor.thresholdReading → Sensor.isDiscrete entry.1.2 = true := by decide
  exact each ((type, readingType), listed) (split ▸ by simp) other

/--
What the bits of a sensor indicate: threshold bits a crossing, discrete states the unexpected.
-/
def Sensor.Indicates (type readingType : UInt8) (thresholds states : Nat) (severity : Severity) :
    Prop :=
  if readingType = thresholdReading then ThresholdEvent.Tells thresholds severity
  else severity = .unknown ∧ ∃ listed,
    DiscreteSensor.unexpectedBits type readingType = some listed ∧
      ∃ bit ∈ listed, states.testBit bit = true

/-- A sensor with a state contributes what its bits indicate to the domain of its type. -/
theorem HealthDomain.contribution_eq_some_iff {sensor : Sensor.Status} {domain : HealthDomain}
    {severity : Severity} (available : sensor.unavailable = false) :
    contribution sensor = some (domain, severity) ↔ ofSensorType? sensor.type = some domain ∧
      Sensor.Indicates sensor.type sensor.readingType sensor.status.toNat sensor.status.toNat
        severity := by
  -- Nothing but the state is asked of a sensor that is available.
  rw [contribution, if_neg (by simp [available]), Sensor.Indicates]
  cases ofSensorType? sensor.type with
  | none => simp
  | some named =>
    dsimp only
    -- Thresholds are told by the highest crossing, and discrete states by the list of the type.
    split
    · rw [← ThresholdEvent.severity_ofStatus_iff, Option.some.injEq, Prod.mk.injEq,
        Option.some.injEq]
    · cases DiscreteSensor.unexpectedBits sensor.type sensor.readingType with
      | none => simp
      | some listed =>
        -- One listed bit that is set is enough.
        dsimp only
        split
        next hit =>
          have present := List.any_eq_true.mp hit
          rw [Option.some.injEq, Prod.mk.injEq, Option.some.injEq]
          exact and_congr_right fun _ =>
            ⟨fun same => ⟨same.symm, listed, rfl, present⟩, fun ⟨same, _⟩ => same.symm⟩
        next silent =>
          -- Without a bit of the list that is set, nothing is contributed.
          constructor
          · intro same
            cases same
          · rintro ⟨_, _, other, same, present⟩
            obtain rfl := Option.some.inj same
            exact absurd (List.any_eq_true.mpr present) silent

/-- A sensor that was read, with the answer to that. -/
structure Sensor.Reading where
  /-- The record of the sensor. -/
  record : Record
  /-- The answer. -/
  response : Response

/-- The state that the answer gives the sensor. -/
def Sensor.Reading.status (reading : Reading) : Status :=
  .ofResponse reading.record reading.response

/-- What a reading contributes to the health of a domain. -/
structure Sensor.Reading.Contributes (reading : Reading) (domain : HealthDomain)
    (severity : Severity) : Prop where
  /-- The sensor's type is followed for the domain. -/
  followed : HealthDomain.ofSensorType? reading.record.type = some domain
  /-- A success tells of a present state, which indicates how severe the condition is. -/
  told : ∃ payload : Bytes, reading.response.data = 0x00 :: payload ∧ Current payload ∧
    Indicates reading.record.type reading.record.readingType (payload.byteAt 2).toNat
      (states payload).toNat severity

/-- The bits of a state indicate what the reading does that they were taken from. -/
theorem Sensor.indicates_bits_iff {type readingType : UInt8} {payload : Bytes}
    {severity : Severity} :
    Indicates type readingType (Status.bits readingType payload).toNat
        (Status.bits readingType payload).toNat severity ↔
      Indicates type readingType (payload.byteAt 2).toNat (states payload).toNat severity := by
  unfold Indicates
  split
  -- Bits above the sixth say nothing about thresholds.
  next threshold =>
    rw [threshold, Status.toNat_bits_threshold, ThresholdEvent.tells_mod]
  next other =>
    -- Only a sensor with discrete states is followed, and its bits are those of the reading.
    refine and_congr_right fun _ => exists_congr fun listed => and_congr_right fun followed => ?_
    rw [Status.bits_discrete (DiscreteSensor.isDiscrete_of_unexpectedBits followed other)]

/-- A state is classified as the reading says that it comes from. -/
theorem Sensor.Reading.contribution_status_iff {reading : Reading} {domain : HealthDomain}
    {severity : Severity} :
    HealthDomain.contribution reading.status = some (domain, severity) ↔
      reading.Contributes domain severity := by
  obtain ⟨record, response⟩ := reading
  rw [status]
  constructor
  · intro contributed
    -- A sensor without a state contributes to no domain.
    have available : (Status.ofResponse record response).unavailable = false := by
      cases state : (Status.ofResponse record response).unavailable with
      | false => rfl
      | true =>
        rw [HealthDomain.contribution, if_pos state] at contributed
        cases contributed
    -- A state that is there was decoded from a success, by its bits.
    obtain ⟨payload, succeeded, current⟩ := Status.current_of_available available
    rw [Status.ofResponse_current record succeeded current,
      HealthDomain.contribution_eq_some_iff rfl] at contributed
    exact ⟨contributed.1, payload, succeeded, current, indicates_bits_iff.mp contributed.2⟩
  · rintro ⟨followed, payload, succeeded, current, told⟩
    rw [Status.ofResponse_current record succeeded current,
      HealthDomain.contribution_eq_some_iff rfl]
    exact ⟨followed, indicates_bits_iff.mpr told⟩

end BmcTelemetry
