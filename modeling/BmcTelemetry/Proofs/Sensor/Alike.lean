import BmcTelemetry.Proofs.Alike
import BmcTelemetry.Proofs.Health.Reading

/-! Sensors under alike answers: the same records are found and the same states are read. -/

namespace BmcTelemetry

open Controller (Alike)

variable {left right : controller.Answers}

/-- A request for a sensor's reading names a command. -/
theorem Catalog.two_le_sensorReading (sensor : UInt8) :
    2 ≤ (sensorReading sensor).data.length := by
  -- Writing the sensor into the request leaves its length as it is.
  simp only [sensorReading, Request.patched, Request.direct, Bytes.length_patch, List.length_cons]
  omega

namespace Sensor

/-- Alike answers point to the same repository. -/
theorem Repository.agrees_probe (alike : Alike left right) : probe.Agrees left right :=
  -- Only the device id is looked at, and a fetch of it agrees on both sides.
  (alike.fetch (by decide) 2 .deviceId).bind fun payload => Attempt.agrees_lift _

/-- Alike answers tell of the same page size. -/
theorem agrees_allocationUnit (alike : Alike left right) (host : String) :
    (allocationUnit host).Agrees left right := by
  refine alike.exec_bind (by decide) fun first second same => ?_
  rcases same with rfl | ⟨failed, alsoFailed⟩
  · -- The same report is understood the same.
    -- The unit is read from an answer that is the same.
    split
    · rfl
    · rfl
  · -- A failure counts as no report, whatever it says.
    rw [if_pos (.inl failed), if_pos (.inl alsoFailed)]
    rfl

/-- Alike answers start the same walk. -/
theorem agrees_startWalk (alike : Alike left right) (host : String) (repository : Repository) :
    (startWalk host repository).Agrees left right := by
  -- A request with a command is one that alike answers speak of.
  have proper : 2 ≤ repository.infoRequest.data.length ∧
      2 ≤ repository.reserveRequest.data.length := by
    cases repository <;> decide
  -- The information is asked for and not looked at.
  refine alike.exec_bind proper.1 fun _ _ _ => ?_
  refine (alike.fetch proper.2 2 .reservation).bind fun reserved => ?_
  -- Only one of the repositories has a unit to ask for.
  cases repository with
  | storage =>
    refine (agrees_allocationUnit alike host).bind fun page => ?_
    exact Attempt.agrees_report_bind _ (Attempt.agrees_pure _)
  | device =>
    refine (Attempt.agrees_pure _).bind fun page => ?_
    exact Attempt.agrees_report_bind _ (Attempt.agrees_pure _)

namespace Walk

variable (walk : Walk) (id : UInt16)

/-- A request for part of a record names a command. -/
theorem two_le_sliceRequest (slice : Slice) : 2 ≤ (walk.sliceRequest id slice).data.length := by
  -- Both commands for a part are there, and the patches leave the length as it is.
  have named : 2 ≤ walk.repository.recordRequest.data.length := by
    cases walk.repository <;> decide
  simp only [sliceRequest, Request.patched, Bytes.length_patch]
  omega

/-- Alike answers give the same part of a record. -/
theorem agrees_readSlice (alike : Alike left right) (slice : Slice) :
    (walk.readSlice id slice).Agrees left right := by
  rw [readSlice]
  -- A part beyond the reach of one byte fails without any request.
  split
  · exact Attempt.agrees_fail _
  · refine (alike.fetch (walk.two_le_sliceRequest id slice) _ _).bind fun payload => ?_
    exact Attempt.agrees_pure _

/-- Alike answers give the same bytes of a record. -/
theorem agrees_readBytes (alike : Alike left right) (total page : Nat) :
    (walk.readBytes id total page).Agrees left right := by
  -- Each part agrees, so that all of them put together do.
  refine (Attempt.agrees_mapM _ fun slice _ => walk.agrees_readSlice id alike slice).bind
    fun parts => ?_
  exact Attempt.agrees_pure _

/-- Alike answers give the same header. -/
theorem agrees_readHeader (alike : Alike left right) : (walk.readHeader id).Agrees left right :=
  (walk.agrees_readBytes id alike _ _).bind fun _ => Attempt.agrees_lift _

/-- Alike answers give the same record of a sensor. -/
theorem agrees_readRecord (alike : Alike left right) (header : RecordHeader) :
    (walk.readRecord id header).Agrees left right :=
  (walk.agrees_readBytes _ alike _ _).bind fun _ => Attempt.agrees_lift _

/-- Alike answers let a walk accept the same records, even if it ends early. -/
theorem records_follow (alike : Alike left right) (host : String) (budget : Nat)
    (visited : List UInt16) :
    ((walk.follow host budget visited id).eval left).records
      = ((walk.follow host budget visited id).eval right).records := by
  -- The same header leads to the same record and the same link, until both walks end.
  induction budget generalizing visited id with
  | zero => rfl
  | succ budget ih =>
    rw [follow]
    -- An id that was visited ends both walks with nothing.
    split
    next => rfl
    simp only [Dialogue.eval_bind]
    -- The header is read on both sides or on neither.
    rcases toOption_eq_cases (walk.agrees_readHeader id alike) with ⟨header, here, there⟩ |
      ⟨error, other, here, there⟩
    · -- Whatever follows this record is the same on both sides.
      have onward : ((if header.nextId = lastId then pure Harvest.complete
            else walk.follow host budget (id :: visited) header.nextId).eval left).records
          = ((if header.nextId = lastId then pure Harvest.complete
            else walk.follow host budget (id :: visited) header.nextId).eval right).records := by
        split
        · rfl
        · exact ih _ _
      simp only [here, there]
      split
      -- The header is that of a sensor, so its body is read next.
      · simp only [Dialogue.eval_bind]
        rcases toOption_eq_cases (walk.agrees_readRecord id alike header) with
          ⟨record, here, there⟩ | ⟨error, other, here, there⟩
        · -- The record is accepted on both sides, in front of what follows.
          simp only [here, there, Dialogue.eval_bind, Dialogue.eval_pure, Harvest.after, onward]
        · -- The record cannot be read on either side, which ends both walks.
          simp only [here, there, Dialogue.eval_pure, Harvest.stopped]
      -- A record of another kind is passed over on both sides.
      · simp only [Dialogue.eval_bind]
        exact onward
    -- Without a header both walks end here.
    · simp only [here, there, Dialogue.eval_pure, Harvest.stopped]

end Walk

/-- Alike answers let a scan accept the same records. -/
theorem accepted_scan (alike : Alike left right) (host : String) (repository : Repository) :
    accepted ((scan host repository).eval left) = accepted ((scan host repository).eval right) := by
  -- The walk starts on both sides or on neither.
  rw [scan, Dialogue.eval_bind, Dialogue.eval_bind]
  rcases toOption_eq_cases (agrees_startWalk alike host repository) with ⟨walk, here, there⟩ |
    ⟨error, other, here, there⟩
  · -- A walk that starts is the same walk on both sides.
    simp only [here, there, Dialogue.eval_bind, Dialogue.eval_pure, accepted_toExcept]
    exact walk.records_follow 0 alike host _ _
  · -- A scan that does not start accepts nothing.
    simp only [here, there, Dialogue.eval_pure, accepted_toExcept, Harvest.stopped]

/-- Alike answers give the same states. -/
theorem Status.agrees_readAll (alike : Alike left right) (records : List Record) :
    (readAll records).Agrees left right := by
  -- The records are the same, so the sensors are asked one by one in the same order.
  refine Attempt.agrees_mapM records fun record _ => ?_
  refine alike.exec_bind (Catalog.two_le_sensorReading record.number) fun first second same => ?_
  rcases same with rfl | ⟨failed, alsoFailed⟩
  -- The same answer gives the same state.
  · rfl
  · -- Both answers leave the sensor without a state.
    have unread : ∀ response : Response, response.completionCode ≠ some 0 →
        ofResponse record response = unreadable record := by
      intro response bad
      unfold ofResponse
      split
      next good => exact absurd good bad
      next => rfl
    rw [unread first failed, unread second alsoFailed]
    rfl

end Sensor

/-- Alike answers add up to the same health. -/
theorem ComponentHealth.agrees_read (alike : Alike left right) (host : String) :
    (ComponentHealth.read host).Agrees left right := by
  -- Only the accepted records count from here on, and they are the same.
  have counted : ∀ (answers : controller.Answers) (repository : Sensor.Repository),
      (do
        let scanned ← ExceptT.lift (Sensor.scan host repository)
        announce host scanned
        return ofSensors (← Sensor.Status.readAll (Sensor.accepted scanned)) :
          Attempt controller _).value? answers
        = ((Sensor.Status.readAll (Sensor.accepted
            ((Sensor.scan host repository).eval answers))).value? answers).map ofSensors := by
    intro answers repository
    -- What is announced on the way changes nothing about the value.
    rw [Attempt.value?_bind, Attempt.value?_liftDialogue, Option.bind_some, Attempt.value?_bind,
      value?_announce, Option.bind_some, Attempt.value?_bind]
    cases (Sensor.Status.readAll _).value? answers <;> rfl
  rw [read_eq]
  -- Both probe the same repository, and each of the rest is a function of what was accepted.
  refine (Sensor.Repository.agrees_probe alike).bind fun repository => ?_
  rw [Attempt.Agrees, counted, counted, Sensor.accepted_scan alike,
    Sensor.Status.agrees_readAll alike]

end BmcTelemetry
