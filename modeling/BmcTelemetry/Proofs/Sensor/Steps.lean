import BmcTelemetry.Proofs.Dialogue.Heeds
import BmcTelemetry.Proofs.Sensor.Truthful
import BmcTelemetry.Proofs.Sensor.Visits

/-! The steps of a scan: each of them ends with the first exchange that fails, and takes few. -/

namespace BmcTelemetry.Sensor

open Attempt (AsksAtMost Heeds asksAtMost_lift asksAtMost_mapM asksAtMost_report_bind failureOf
  heeds_lift heeds_mapM heeds_report_bind)
open Dialogue (Course)

namespace Repository

variable (repository : Repository)

/-- How much the answer to a request must carry, for requests that need more than an answer. -/
def demand (request : Request) : Option (Nat × Step) :=
  if request = repository.reserveRequest then some (2, .reservation)
  else if request.data.take 2 = repository.recordRequest.data.take 2 then
    -- The link comes before as many bytes as are asked for.
    some (2 + (request.data.byteAt 7).toNat, .recordPage)
  else none

/-- Why an exchange of a scan fails, if it does. -/
def failure? (exchange : Exchange controller) : Option IpmiError :=
  match repository.demand exchange.request with
  | none => failureOf exchange.answer
  | some (least, step) =>
    failureOf (exchange.answer.bind fun response => response.requirePayload least step)

/-- A read of a record demands the link and the bytes that it asks for. -/
theorem demand_partRequest (reservation id : UInt16) (offset count : UInt8) :
    repository.demand (repository.partRequest reservation id offset count)
      = some (2 + count.toNat, .recordPage) := by
  -- A request for a part is never the one for a reservation.
  have other := repository.partRequest_ne_reserveRequest reservation id offset count
  have command : (repository.partRequest reservation id offset count).data.take 2
      = repository.recordRequest.data.take 2 := by
    cases repository <;> rfl
  rw [demand, if_neg other, if_pos command,
    (repository.partRequest_data reservation id offset count).2.2.2]

/-- The opening of a scan ends with the first of its exchanges that fails. -/
theorem heeds_startWalk (host : String) :
    (startWalk host repository).Heeds repository.failure? := by
  -- The first request demands no more than an answer, and the second one a reservation.
  have info : (Controller.exec repository.infoRequest).Heeds repository.failure? :=
    Controller.heeds_exec fun reply => by cases repository <;> rfl
  have reserve : (Controller.fetch repository.reserveRequest 2 .reservation).Heeds
      repository.failure? := Controller.heeds_fetch fun reply => by cases repository <;> rfl
  refine info.bind fun _ => reserve.bind fun reserved => ?_
  -- Only one of the repositories is asked for its unit, where any answer will do.
  cases repository with
  | device => exact heeds_report_bind _ (heeds_lift (.ok _))
  | storage =>
    have allocation : (Controller.exec allocationRequest).Heeds storage.failure? :=
      Controller.heeds_exec fun _ => rfl
    -- The unit is taken from the answer, or the default is used without one.
    refine Heeds.bind (allocation.bind fun response => ?_) fun page =>
      heeds_report_bind _ (heeds_lift (.ok _))
    split
    · exact heeds_report_bind _ (heeds_lift (.ok _))
    · exact heeds_lift (.ok _)

/-- An exchange that is not answered fails. -/
theorem failure?_of_error {exchange : Exchange controller} {error : IpmiError}
    (unanswered : exchange.answer = .error error) :
    repository.failure? exchange = some error := by
  -- Whatever the request demands, there is no answer to meet the demand.
  rw [failure?, unanswered]
  split <;> rfl

/-- The reservation fails unless its answer carries one. -/
theorem carries_of_reserved {exchange : Exchange controller}
    (asked : exchange.request = repository.reserveRequest)
    (passed : repository.failure? exchange = none) : ∃ payload, exchange.Carries 2 payload := by
  have demanded : repository.demand exchange.request = some (2, .reservation) := if_pos asked
  rw [failure?, demanded] at passed
  -- Only an answer that carries a reservation passes.
  cases answered : exchange.answer with
  | error error =>
    rw [answered] at passed
    cases passed
  | ok response =>
    simp only [answered] at passed
    change failureOf (response.requirePayload 2 .reservation) = none at passed
    -- An answer that does not carry it would have failed.
    cases read : response.requirePayload 2 .reservation with
    | error error =>
      rw [read] at passed
      cases passed
    | ok payload =>
      obtain ⟨whole, enough⟩ := Response.requirePayload_ok_iff.mp read
      exact ⟨payload, response.valid, by rw [answered, ← whole], enough⟩

/-- The opening of a scan succeeds exactly when all of its exchanges do. -/
theorem opened_iff {repository : Repository} {host : String}
    {exchanges : List (Exchange controller)} {opened : Except IpmiError Walk}
    (course : Course (startWalk host repository).outcome exchanges opened) :
    (∃ walk, opened = .ok walk) ↔ ∀ exchange ∈ exchanges, repository.failure? exchange = none := by
  -- If the walk begins then every exchange of the opening has passed.
  constructor
  · rintro ⟨walk, rfl⟩
    exact (repository.heeds_startWalk host _ _ course).passed
  -- If all exchanges have passed then none of them can have ended the opening.
  · intro passed
    rcases course_startWalk course with ⟨error, _, exchange, member, failed⟩ |
      ⟨_, _, _, _, _, _, _, _, same, _⟩
    · -- The exchange for which the opening ends would have to fail.
      have own := passed exchange member
      -- Either it was not answered, or it was the reservation and carried none.
      rcases failed with unanswered | ⟨asked, missing⟩
      · rw [repository.failure?_of_error unanswered] at own
        cases own
      · obtain ⟨payload, carries⟩ := repository.carries_of_reserved asked own
        exact absurd carries (missing payload)
    -- The opening has not ended early, so it led to a walk.
    · exact ⟨_, same⟩

/-- The opening of a scan takes three exchanges at most. -/
theorem asksAtMost_startWalk (host : String) : (startWalk host repository).AsksAtMost 3 := by
  -- One exchange is for the information, one for the reservation and one for the unit.
  have opening : (startWalk host repository).AsksAtMost (1 + (1 + (1 + 0))) := by
    refine (Controller.asksAtMost_exec _).bind fun _ => ?_
    refine (Controller.asksAtMost_fetch _ _ _).bind fun reserved => ?_
    -- Only one of the repositories takes the third of them.
    cases repository with
    | device =>
      exact (asksAtMost_report_bind _ (asksAtMost_lift (.ok _))).mono (Nat.zero_le 1)
    | storage =>
      have allocation : (allocationUnit host).AsksAtMost (1 + 0) := by
        refine (Controller.asksAtMost_exec _).bind fun response => ?_
        -- The page comes from the answer or from the default, with no further request.
        split
        · exact asksAtMost_report_bind _ (asksAtMost_lift (.ok _))
        · exact asksAtMost_lift (.ok _)
      exact allocation.bind fun page => asksAtMost_report_bind _ (asksAtMost_lift (.ok _))
  exact opening

end Repository

namespace Walk

variable (walk : Walk)

/-- A slice of a record is no longer than the record. -/
theorem count_le_of_mem_slices {total page : Nat} {slice : Slice}
    (member : slice ∈ slices total page) : slice.count ≤ total := by
  -- A slice is cut off at the end of the record.
  obtain ⟨index, _, rfl⟩ := List.mem_map.mp member
  exact Nat.le_trans (Nat.min_le_left _ _) (Nat.sub_le _ _)

/-- A record falls into no more slices than it has bytes. -/
theorem length_slices_le {total page : Nat} (paged : 0 < page) :
    (slices total page).length ≤ total := by
  rw [slices, List.length_map, List.length_range, ← Nat.lt_succ_iff, Nat.div_lt_iff_lt_mul paged]
  -- Each page but the first takes at least a byte more.
  have grows : total * 1 ≤ total * page := Nat.mul_le_mul_left total paged
  rw [Nat.succ_mul]
  omega

/-- The answer to a read fails when the link or a byte of the part is missing. -/
theorem failure?_sliceRequest (id : UInt16) {slice : Slice} (bounded : slice.count ≤ 255)
    (reply : Except IpmiError Response) :
    walk.repository.failure? ⟨walk.sliceRequest id slice, reply⟩
      = failureOf (reply.bind fun response =>
          response.requirePayload (2 + slice.count) .recordPage) := by
  -- The count that is sent fits one byte, so the demand can be read back from it.
  have demand : walk.repository.demand (walk.sliceRequest id slice)
      = some (2 + slice.count, .recordPage) := by
    rw [sliceRequest_eq, Repository.demand_partRequest, Bytes.toNat_byte bounded]
  simp only [Repository.failure?, Exchange.request, demand]
  rfl

/-- Reading part of a record ends with its exchange when that fails. -/
theorem heeds_readSlice (id : UInt16) {slice : Slice} (bounded : slice.count ≤ 255) :
    (walk.readSlice id slice).Heeds walk.repository.failure? := by
  have fetch : (Controller.fetch (walk.sliceRequest id slice) (2 + slice.count) .recordPage).Heeds
      walk.repository.failure? :=
    Controller.heeds_fetch (walk.failure?_sliceRequest id bounded)
  rw [readSlice]
  -- A slice that one byte cannot reach fails before it is asked for.
  split
  · exact heeds_lift (.error _)
  · exact fetch.bind fun payload => heeds_lift (.ok _)

/-- Reading bytes of a record ends with the first exchange that fails. -/
theorem heeds_readBytes (id : UInt16) {total : Nat} (page : Nat) (bounded : total ≤ 255) :
    (walk.readBytes id total page).Heeds walk.repository.failure? := by
  have parts : Attempt.Heeds walk.repository.failure?
      ((slices total page).mapM (walk.readSlice id)) :=
    -- The slices are read one by one, and each of them heeds its own exchange.
    heeds_mapM _ fun slice member =>
      walk.heeds_readSlice id (Nat.le_trans (count_le_of_mem_slices member) bounded)
  exact parts.bind fun parts => heeds_lift (.ok _)

/-- Reading bytes of a record takes no more exchanges than there are bytes. -/
theorem asksAtMost_readBytes (id : UInt16) (total : Nat) {page : Nat} (paged : 0 < page) :
    (walk.readBytes id total page).AsksAtMost total := by
  -- A slice takes one exchange, or none if it is out of reach.
  have each (slice : Slice) : (walk.readSlice id slice).AsksAtMost 1 := by
    rw [readSlice]
    split
    · exact (asksAtMost_lift (.error _)).mono (Nat.zero_le 1)
    · exact (Controller.asksAtMost_fetch _ _ _).bind fun payload => asksAtMost_lift (.ok _)
  have parts := (asksAtMost_mapM (slices total page) each).mono (length_slices_le paged)
  exact parts.bind fun parts => asksAtMost_lift (.ok _)

/-- Reading a header heeds its exchange, and is a single one. -/
theorem heeds_readHeader (id : UInt16) : (walk.readHeader id).Heeds walk.repository.failure? :=
  (walk.heeds_readBytes id defaultPage (by decide)).bind fun _ => heeds_lift _

/-- Reading the record of a sensor ends with the first exchange that fails. -/
theorem heeds_readRecord (id : UInt16) (header : RecordHeader) :
    (walk.readRecord id header).Heeds walk.repository.failure? :=
  (walk.heeds_readBytes _ walk.page header.readSize_bounds.2).bind fun _ => heeds_lift _

/-- Reading the record of a sensor takes no more exchanges than one-byte addresses reach. -/
theorem asksAtMost_readRecord (id : UInt16) (header : RecordHeader) (paged : 0 < walk.page) :
    (walk.readRecord id header).AsksAtMost 255 :=
  ((walk.asksAtMost_readBytes _ header.readSize paged).bind fun _ =>
    asksAtMost_lift _).mono header.readSize_bounds.2

section Reads

variable {walk} {id : UInt16} {exchanges : List (Exchange controller)}

/-- Reading a record ends with the first exchange that fails. -/
theorem Reads.endsAtFailure {outcome : Except IpmiError (RecordHeader × Option Record)}
    (reads : Reads walk id exchanges outcome) :
    EndsAtFailure walk.repository.failure? exchanges (failureOf outcome) := by
  -- A body is only read after a header of which no exchange failed.
  cases reads with
  | headerFailed header => exact walk.heeds_readHeader id _ _ header
  | skipped read other => exact walk.heeds_readHeader id _ _ read
  | bodyFailed read sensor body =>
    exact (walk.heeds_readRecord id _ _ _ body).after (walk.heeds_readHeader id _ _ read).passed
  | accepted read sensor body =>
    exact (walk.heeds_readRecord id _ _ _ body).after (walk.heeds_readHeader id _ _ read).passed

/-- A header fits on one page, so it is read at once. -/
theorem readHeader_eq (walk : Walk) (id : UInt16) :
    walk.readHeader id = (walk.readSlice id ⟨0, headerSize⟩ >>= fun part =>
      Attempt.lift (RecordHeader.ofBytes part.nextId part.bytes)) := by
  -- The default page is longer than a header, so there is one slice only.
  have single : slices headerSize defaultPage = [⟨0, headerSize⟩] :=
    slices_single (by decide) (by decide)
  rw [readHeader, readBytes, single]
  -- Putting together the bytes of one slice leaves them as they are.
  simp only [List.mapM_cons, List.mapM_nil, bind_assoc, pure_bind, List.getLast?_singleton,
    Option.map_some, Option.getD_some, List.flatMap_cons, List.flatMap_nil, List.append_nil]

/-- Reading a header is one exchange, which asks for the header. -/
theorem course_readHeader {outcome : Except IpmiError RecordHeader}
    (course : Course (walk.readHeader id).outcome exchanges outcome) :
    ∃ exchange, exchanges = [exchange] ∧
      exchange.request = walk.sliceRequest id ⟨0, headerSize⟩ := by
  rw [readHeader_eq, Attempt.course_bind_iff] at course
  -- There is the one exchange, whether it succeeded or not.
  rcases course with ⟨error, read, rfl⟩ | ⟨first, part, rest, read, parsed, rfl⟩
  · obtain ⟨exchange, rfl, asked, _⟩ := course_readSlice (by decide) read
    exact ⟨exchange, rfl, asked⟩
  · obtain ⟨exchange, rfl, asked, _⟩ := course_readSlice (by decide) read
    obtain ⟨rfl, _⟩ := Attempt.course_lift_iff.mp parsed
    exact ⟨exchange, rfl, asked⟩

/-- Reading a record begins with one exchange for its header, and few more are for its body. -/
theorem Reads.header_first {outcome : Except IpmiError (RecordHeader × Option Record)}
    (reads : Reads walk id exchanges outcome) :
    ∃ header rest, exchanges = header :: rest ∧
      header.request = walk.sliceRequest id ⟨0, headerSize⟩ ∧
      (0 < walk.page → rest.length ≤ 255) := by
  -- Only a header that is read and is that of a sensor has a body to follow it.
  cases reads with
  -- The header failed, so there is no more than its exchange.
  | headerFailed header =>
    obtain ⟨exchange, rfl, asked⟩ := course_readHeader header
    exact ⟨exchange, [], rfl, asked, fun _ => Nat.zero_le 255⟩
  -- A record of another kind has no body to read.
  | skipped read other =>
    obtain ⟨exchange, rfl, asked⟩ := course_readHeader read
    exact ⟨exchange, [], rfl, asked, fun _ => Nat.zero_le 255⟩
  -- The body takes one exchange for each byte at most, whatever comes of it.
  | bodyFailed read sensor body =>
    obtain ⟨exchange, rfl, asked⟩ := course_readHeader read
    exact ⟨exchange, _, rfl, asked, fun paged => walk.asksAtMost_readRecord id _ paged _ _ body⟩
  | accepted read sensor body =>
    obtain ⟨exchange, rfl, asked⟩ := course_readHeader read
    exact ⟨exchange, _, rfl, asked, fun paged => walk.asksAtMost_readRecord id _ paged _ _ body⟩

/-- Reading a record takes no more than one exchange for its header and one for each byte. -/
theorem Reads.length_le {outcome : Except IpmiError (RecordHeader × Option Record)}
    (reads : Reads walk id exchanges outcome) (paged : 0 < walk.page) :
    exchanges.length ≤ 256 := by
  -- One exchange is for the header and the others are for the body.
  obtain ⟨header, rest, rfl, _, few⟩ := reads.header_first
  exact Nat.succ_le_succ (few paged)

/-- A record is kept exactly when its header is that of a sensor. -/
theorem Reads.kept_isSome {header : RecordHeader} {kept : Option Record}
    (reads : Reads walk id exchanges (.ok (header, kept))) : kept.isSome = header.isSensor := by
  -- Only these two ways of reading a record give one, and they differ in the header.
  cases reads with
  | skipped read other => exact other.symm
  | accepted read sensor body => exact sensor.symm

/-- A record that is kept is itself that of a sensor. -/
theorem Reads.isSensor {header : RecordHeader} {record : Record}
    (reads : Reads walk id exchanges (.ok (header, some record))) :
    record.header.isSensor = true := by
  cases reads with
  | accepted read sensor body =>
    -- The body was parsed, which it only is as that of a sensor.
    rw [readRecord, Attempt.course_bind_iff] at body
    rcases body with ⟨error, _, same⟩ | ⟨_, fetched, _, _, parsed, _⟩
    · cases same
    · exact (Record.ofBytes_sensor (Attempt.course_lift_iff.mp parsed).2.symm).2.1

end Reads

end Walk

end BmcTelemetry.Sensor
