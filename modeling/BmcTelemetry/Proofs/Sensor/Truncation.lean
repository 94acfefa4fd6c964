import BmcTelemetry.Proofs.Alike
import BmcTelemetry.Proofs.Dialogue.Falters
import BmcTelemetry.Proofs.Health.Reading

/-! Truncation: a scan whose reads of records may fail accepts what it does without, up to there. -/

namespace BmcTelemetry

open Dialogue (Handler Keeps)

/-- Whether a request asks a repository for part of a record. -/
def Request.asksForRecord (request : Request) : Bool :=
  [Sensor.Repository.storage, .device].any fun repository =>
    request.data.take 2 == repository.recordRequest.data.take 2

namespace Controller

/-- A request failed: no answer was delivered, or one that does not succeed. -/
def Failed : Except IpmiError Response → Prop
  | .ok response => response.completionCode ≠ some 0
  | .error _ => True

/-- Surroundings give the fixed answers, except that requests for parts of records may fail. -/
def Truncates {σ : Type} (answers : controller.Answers) (handler : Handler controller σ) : Prop :=
  ∀ (request : Request) memory, (handler request memory).1 = answers request ∨
    request.asksForRecord = true ∧ Failed (handler request memory).1

/-- Surroundings that fail a set of requests for parts of records. -/
def failing (answers : controller.Answers) (fails : Request → Bool)
    (failure : Request → Except IpmiError Response) : Handler controller Unit :=
  fun request _ =>
    (if request.asksForRecord && fails request then failure request else answers request, ())

/-- Any set of requests for parts of records may fail. -/
theorem truncates_failing {answers : controller.Answers} {fails : Request → Bool}
    {failure : Request → Except IpmiError Response}
    (failed : ∀ request, Failed (failure request)) :
    Truncates answers (failing answers fails failure) := by
  intro request _
  -- A request is in the set or answered as fixed.
  by_cases hit : (request.asksForRecord && fails request) = true
  · have replaced : (failing answers fails failure request ()).1 = failure request := if_pos hit
    rw [replaced]
    exact .inr ⟨(Bool.and_eq_true_iff.mp hit).1, failed request⟩
  · exact .inl (if_neg hit)

namespace Truncates

variable {σ : Type} {answers : controller.Answers} {handler : Handler controller σ}

/-- A request for anything else is answered as ever. -/
theorem keeps_exec (truncates : Truncates answers handler) {request : Request}
    (plain : request.asksForRecord = false) : (exec request).outcome.Keeps answers handler := by
  intro memory
  -- The request is not for a record, so that only the fixed answer is left.
  rcases truncates request memory with same | ⟨asks, _⟩
  · exact same
  · rw [plain] at asks
    cases asks

/-- Anything else is fetched as ever. -/
theorem keeps_fetch (truncates : Truncates answers handler) {request : Request}
    (plain : request.asksForRecord = false) (least : Nat) (step : Step) :
    (fetch request least step).outcome.Keeps answers handler :=
  Attempt.keeps_bind (truncates.keeps_exec plain) fun _ => Attempt.keeps_lift _

/-- Whatever is fetched, it is what it ever was, or there is none. -/
theorem falters_fetch (truncates : Truncates answers handler) (request : Request) (least : Nat)
    (step : Step) : (fetch request least step).Falters answers handler := by
  intro memory
  rw [fetch_outcome]
  -- What is fetched is made of the answer alone.
  change (handler request memory).1.bind _ = (answers request).bind _ ∨ _
  rcases truncates request memory with same | ⟨_, failed⟩
  · exact .inl (by rw [same])
  · -- A failure has no payload, whichever of the two kinds it is of.
    right
    change ∃ error, (handler request memory).1.bind _ = _
    cases answered : (handler request memory).1 with
    | error error => exact ⟨error, rfl⟩
    | ok response =>
      rw [answered] at failed
      exact Response.requirePayload_failed failed least step

end Truncates

end Controller

namespace Sensor

open Controller (Truncates)

variable {σ : Type} {answers : controller.Answers} {handler : Handler controller σ}

/-- The way to a repository asks for no record. -/
theorem Repository.keeps_probe (truncates : Truncates answers handler) :
    probe.outcome.Keeps answers handler :=
  Attempt.keeps_bind (truncates.keeps_fetch (by decide) _ _) fun _ => Attempt.keeps_lift _

/-- Learning how to read a repository asks for no record. -/
theorem keeps_startWalk (truncates : Truncates answers handler) (host : String)
    (repository : Repository) : (startWalk host repository).outcome.Keeps answers handler := by
  -- None of these requests asks for a part of a record, in either repository.
  have plain : repository.infoRequest.asksForRecord = false ∧
      repository.reserveRequest.asksForRecord = false := by
    cases repository <;> decide
  refine Attempt.keeps_bind (truncates.keeps_exec plain.1) fun _ => ?_
  refine Attempt.keeps_bind (truncates.keeps_fetch plain.2 _ _) fun reserved => ?_
  -- Only one of the repositories has a unit to ask for.
  cases repository with
  | device => exact fun _ => rfl
  | storage =>
    -- The unit comes from an answer that is fixed, and the default stands in without one.
    refine Attempt.keeps_bind (Attempt.keeps_bind (truncates.keeps_exec (by decide))
      fun response => ?_) fun _ _ => rfl
    split <;> exact fun _ => rfl

namespace Walk

variable (walk : Walk) (id : UInt16)

/-- A part of a record is what it ever was, or it cannot be read. -/
theorem falters_readSlice (truncates : Truncates answers handler) (slice : Slice) :
    (walk.readSlice id slice).Falters answers handler := by
  rw [readSlice]
  -- A part beyond the reach of one byte fails without any request.
  split
  · exact Attempt.falters_of_keeps (Attempt.keeps_lift _)
  · refine (truncates.falters_fetch _ _ _).bind fun payload => ?_
    exact Attempt.falters_of_keeps (Attempt.keeps_pure _)

/-- The bytes of a record are what they ever were, or they cannot be read. -/
theorem falters_readBytes (truncates : Truncates answers handler) (total page : Nat) :
    (walk.readBytes id total page).Falters answers handler :=
  (Attempt.falters_mapM _ fun slice => walk.falters_readSlice id truncates slice).bind fun _ =>
    Attempt.falters_of_keeps (Attempt.keeps_pure _)

/-- A header is what it ever was, or it cannot be read. -/
theorem falters_readHeader (truncates : Truncates answers handler) :
    (walk.readHeader id).Falters answers handler :=
  (walk.falters_readBytes id truncates _ _).bind fun _ =>
    Attempt.falters_of_keeps (Attempt.keeps_lift _)

/-- A record of a sensor is what it ever was, or it cannot be read. -/
theorem falters_readRecord (truncates : Truncates answers handler) (header : RecordHeader) :
    (walk.readRecord id header).Falters answers handler :=
  (walk.falters_readBytes _ truncates _ _).bind fun _ =>
    Attempt.falters_of_keeps (Attempt.keeps_lift _)

/-- A walk accepts the same records up to the first one that cannot be read any more. -/
theorem records_follow_prefix (truncates : Truncates answers handler) (host : String)
    (budget : Nat) (visited : List UInt16) (memory : σ) :
    ((walk.follow host budget visited id).reach handler memory).1.records
      <+: ((walk.follow host budget visited id).eval answers).records := by
  -- The same header leads to the same record and the same link, until a failure ends the walk.
  induction budget generalizing visited id memory with
  | zero => exact List.prefix_rfl
  | succ budget ih =>
    rw [follow]
    -- A link back ends both walks with the same records.
    split
    next => exact List.prefix_rfl
    simp only [Dialogue.reach_bind, Dialogue.eval_bind]
    rcases walk.falters_readHeader id truncates memory with same | ⟨error, failed⟩
    -- The header is what it ever was, so both walks look at the same record.
    · simp only [same]
      generalize ((walk.readHeader id).outcome.reach handler memory).2 = memory
      cases (walk.readHeader id).outcome.eval answers with
      | error error => exact List.prefix_rfl
      | ok header =>
        -- Whatever follows this record is a prefix, from whatever is remembered by then.
        have onward : ∀ memory, ((if header.nextId = lastId then pure Harvest.complete
              else walk.follow host budget (id :: visited) header.nextId).reach handler
                memory).1.records
            <+: ((if header.nextId = lastId then pure Harvest.complete
              else walk.follow host budget (id :: visited) header.nextId).eval
                answers).records := by
          intro memory
          split
          · exact List.prefix_rfl
          · exact ih _ _ memory
        dsimp only
        -- A sensor's record is read next, and any other one is passed over.
        split
        · simp only [Dialogue.reach_bind, Dialogue.eval_bind]
          rcases walk.falters_readRecord id truncates header memory with same | ⟨error, failed⟩
          -- The record is what it ever was, and both accept it or neither does.
          · simp only [same]
            cases (walk.readRecord id header).outcome.eval answers with
            | error error => exact List.prefix_rfl
            | ok record =>
              simp only [Dialogue.reach_bind, Dialogue.eval_bind, Dialogue.reach_pure,
                Dialogue.eval_pure, Harvest.after, List.cons_prefix_cons, true_and]
              exact onward _
          -- The record cannot be read any more, so the walk ends with nothing further.
          · simp only [failed]
            exact List.nil_prefix
        -- Passing over a record accepts nothing on either side.
        · simp only [Dialogue.reach_bind, Dialogue.eval_bind]
          exact onward _
    -- The header cannot be read any more, so the walk ends here.
    · simp only [failed]
      exact List.nil_prefix

end Walk

/-- A scan accepts the same records up to the first one that cannot be read any more. -/
theorem accepted_scan_prefix (truncates : Truncates answers handler) (host : String)
    (repository : Repository) (memory : σ) :
    accepted ((scan host repository).reach handler memory).1
      <+: accepted ((scan host repository).eval answers) := by
  -- The opening is what it ever was, so both begin the same walk or none.
  rw [scan, Dialogue.reach_bind, Dialogue.eval_bind, keeps_startWalk truncates host repository]
  cases (startWalk host repository).outcome.eval answers with
  | error error => exact List.prefix_rfl
  | ok walk =>
    simp only [Dialogue.reach_bind, Dialogue.eval_bind, Dialogue.reach_pure, Dialogue.eval_pure,
      accepted_toExcept]
    exact walk.records_follow_prefix 0 truncates host _ _ _

end Sensor

end BmcTelemetry
