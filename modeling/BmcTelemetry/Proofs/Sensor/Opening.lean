import BmcTelemetry.Proofs.Bytes
import BmcTelemetry.Proofs.Controller
import BmcTelemetry.Sensor.Scan

/-! Opening a scan: the requests in front of the first read, and the walk that they lead to. -/

namespace BmcTelemetry.Sensor

open Dialogue (Course)

/-- The most bytes to ask for at once, as an answer about the allocation has it. -/
def pageAfter (response : Response) : Nat :=
  if response.completionCode ≠ some 0 ∨ response.payload.length ≠ 9 then defaultPage
  else
    let unit := (response.payload.wordAt 2).toNat
    if unit = 0 then defaultPage else min unit 255

/-- Any answer gives a page that holds something, and whose size a byte can tell. -/
theorem pageAfter_bounds (response : Response) :
    0 < pageAfter response ∧ pageAfter response ≤ 255 := by
  simp only [pageAfter, defaultPage]
  -- Without a usable unit the default is taken, and otherwise the unit as far as a byte can tell
  -- it.
  split
  · decide
  · split <;> omega

/-- Asking for the allocation unit is one exchange, and any answer to it gives a page size. -/
theorem course_allocationUnit {host : String} {exchanges : List (Exchange controller)}
    {result : Except IpmiError Nat}
    (course : Course (allocationUnit host).outcome exchanges result) :
    ∃ exchange : Exchange controller, exchanges = [exchange] ∧
      exchange.request = Repository.allocationRequest ∧
      result = exchange.answer.map pageAfter := by
  rw [allocationUnit, Attempt.course_bind_iff] at course
  -- The transport fails, or there is an answer to look at.
  rcases course with ⟨error, asked, rfl⟩ | ⟨first, response, rest, asked, course, rfl⟩
  · obtain rfl := Controller.course_exec_iff.mp asked
    exact ⟨_, rfl, rfl, rfl⟩
  · obtain rfl := Controller.course_exec_iff.mp asked
    refine ⟨⟨Repository.allocationRequest, .ok response⟩, ?_⟩
    -- An answer without a unit leads to the default, and a unit is cut to what a byte holds.
    by_cases silent : response.completionCode ≠ some 0 ∨ response.payload.length ≠ 9
    · rw [if_pos silent] at course
      obtain ⟨rfl, rfl⟩ := Attempt.course_report_bind_pure_iff.mp course
      exact ⟨rfl, rfl, by simp [Exchange.answer, Except.map, pageAfter, silent]⟩
    · rw [if_neg silent] at course
      obtain ⟨rfl, rfl⟩ := Attempt.course_pure_iff.mp course
      refine ⟨rfl, rfl, ?_⟩
      change _ = Except.ok (pageAfter response)
      rw [pageAfter, if_neg silent]

namespace Repository

/-- The requests before the first read of a walk. -/
def opening (repository : Repository) : List Request :=
  [repository.infoRequest, repository.reserveRequest] ++ match repository with
    | .storage => [allocationRequest]
    | .device => []

/-- An opening reserves the repository with its second request, and with that one only. -/
theorem reserveRequest_in_opening {repository : Repository} {number : Nat} {request : Request}
    (found : repository.opening[number]? = some request) :
    request = repository.reserveRequest ↔ number = 1 := by
  -- There are three requests at most, each with a command of its own.
  match number, repository, found with
  -- The information and the reservation come first in both, and only storage has a third.
  | 0, .storage, rfl | 0, .device, rfl => decide
  | 1, .storage, rfl | 1, .device, rfl => decide
  | 2, .storage, rfl => decide

/-- The exchanges of an opening, and the walk that they lead to, or the error of the last one. -/
inductive Opens : Repository → List (Exchange controller) → Except IpmiError Walk → Prop
  /-- The request for general information is not answered. -/
  | infoFailed {repository : Repository} {info : Exchange controller} {error : IpmiError}
      (asked : info.request = repository.infoRequest) (failed : info.answer = .error error) :
      Opens repository [info] (.error error)
  /-- The repository cannot be reserved. -/
  | reserveFailed {repository : Repository} {info reserve : Exchange controller}
      {error : IpmiError} (informed : info.request = repository.infoRequest)
      (asked : reserve.request = repository.reserveRequest)
      (failed : (reserve.answer.bind fun response => response.requirePayload 2 .reservation)
        = .error error) :
      Opens repository [info, reserve] (.error error)
  /-- The repository on the device is read by the default. -/
  | device {info reserve : Exchange controller} {payload : Bytes}
      (informed : info.request = infoRequest .device)
      (reserved : reserve.request = reserveRequest .device) (carries : reserve.Carries 2 payload) :
      Opens .device [info, reserve] (.ok ⟨.device, payload.wordAt 0, defaultPage⟩)
  /-- The other repository is asked for its unit, which is not answered. -/
  | unitFailed {info reserve allocation : Exchange controller} {payload : Bytes}
      {error : IpmiError} (informed : info.request = infoRequest .storage)
      (reserved : reserve.request = reserveRequest .storage) (carries : reserve.Carries 2 payload)
      (asked : allocation.request = allocationRequest) (failed : allocation.answer = .error error) :
      Opens .storage [info, reserve, allocation] (.error error)
  /-- The other repository is read as its answer about the allocation has it. -/
  | storage {info reserve allocation : Exchange controller} {payload : Bytes}
      {response : Response} (informed : info.request = infoRequest .storage)
      (reserved : reserve.request = reserveRequest .storage) (carries : reserve.Carries 2 payload)
      (asked : allocation.request = allocationRequest)
      (answered : allocation.answer = .ok response) :
      Opens .storage [info, reserve, allocation]
        (.ok ⟨.storage, payload.wordAt 0, pageAfter response⟩)

/-- Every course of an opening is one of these. -/
theorem course_opens {host : String} {repository : Repository}
    {exchanges : List (Exchange controller)} {opened : Except IpmiError Walk}
    (course : Course (startWalk host repository).outcome exchanges opened) :
    repository.Opens exchanges opened := by
  rw [startWalk, Attempt.course_bind_iff] at course
  -- Each step fails and ends the opening, or the next one follows.
  rcases course with ⟨error, asked, rfl⟩ | ⟨info, response, rest, asked, course, rfl⟩
  · obtain rfl := Controller.course_exec_iff.mp asked
    exact .infoFailed rfl rfl
  obtain rfl := Controller.course_exec_iff.mp asked
  rw [Attempt.course_bind_iff] at course
  rcases course with ⟨error, asked, rfl⟩ | ⟨first, payload, others, asked, course, rfl⟩
  · obtain ⟨reply, rfl, read⟩ := Controller.course_fetch_iff.mp asked
    exact .reserveFailed rfl rfl read.symm
  obtain ⟨reserve, rfl, reserved, carries⟩ := Controller.course_fetch asked
  have carried := (carries payload).mp rfl
  -- What is left differs between the repositories: only one of them has a unit to ask for.
  cases repository with
  | device =>
    simp only [pure_bind] at course
    obtain ⟨rfl, rfl⟩ := Attempt.course_report_bind_pure_iff.mp course
    exact .device rfl reserved carried
  | storage =>
    rw [Attempt.course_bind_iff] at course
    rcases course with ⟨error, paged, rfl⟩ | ⟨second, page, last, paged, course, rfl⟩
    -- The allocation was not answered, which is the only way this step fails.
    · obtain ⟨allocation, rfl, asked, made⟩ := course_allocationUnit paged
      cases answered : allocation.answer with
      | error reason =>
        rw [answered] at made
        cases made
        exact .unitFailed rfl reserved carried asked answered
      | ok response =>
        rw [answered] at made
        cases made
    -- There was an answer, and whatever it told makes the page.
    · obtain ⟨allocation, rfl, asked, made⟩ := course_allocationUnit paged
      obtain ⟨rfl, rfl⟩ := Attempt.course_report_bind_pure_iff.mp course
      cases answered : allocation.answer with
      | error reason =>
        rw [answered] at made
        cases made
      | ok response =>
        rw [answered] at made
        cases made
        exact .storage rfl reserved carried asked answered

namespace Opens

variable {repository : Repository} {exchanges : List (Exchange controller)}

/-- An opening asks what it has to ask in order, up to the request that fails. -/
theorem requests_prefix {opened : Except IpmiError Walk}
    (opens : repository.Opens exchanges opened) :
    exchanges.map (·.request) <+: repository.opening := by
  -- What is left of the requests is what a failure has kept from being asked.
  cases opens with
  -- Only the first request was sent.
  | infoFailed asked failed =>
    exact ⟨repository.opening.tail, by rw [List.map_singleton, asked]; rfl⟩
  -- The first two requests were sent, whatever is left.
  | reserveFailed informed asked failed =>
    exact ⟨_, by rw [List.map_cons, List.map_singleton, informed, asked]; rfl⟩
  | device informed reserved carries =>
    exact ⟨[], by rw [List.map_cons, List.map_singleton, informed, reserved]; rfl⟩
  -- All three requests were sent, though the last one failed.
  | unitFailed informed reserved carries asked failed =>
    exact ⟨[], by simp only [List.map_cons, List.map_nil, informed, reserved, asked]; rfl⟩
  | storage informed reserved carries asked answered =>
    exact ⟨[], by simp only [List.map_cons, List.map_nil, informed, reserved, asked]; rfl⟩

/-- An opening that succeeds has asked everything, and reads under the reservation it was given. -/
theorem of_ok {walk : Walk} (opens : repository.Opens exchanges (.ok walk)) :
    walk.repository = repository ∧ exchanges.map (·.request) = repository.opening ∧
      0 < walk.page ∧ walk.page ≤ 255 ∧ ∃ reserve payload, exchanges[1]? = some reserve ∧
        reserve.request = repository.reserveRequest ∧ reserve.Carries 2 payload ∧
        walk.reservation = payload.wordAt 0 := by
  -- Two of the openings lead to a walk, one for each repository.
  cases opens with
  | @device info reserve payload informed reserved carries =>
    refine ⟨rfl, ?_, Nat.zero_lt_succ 15, Nat.le_add_right 16 239, reserve, payload, rfl, reserved,
      carries, rfl⟩
    rw [List.map_cons, List.map_singleton, informed, reserved]
    rfl
  | @storage info reserve allocation payload response informed reserved carries asked answered =>
    -- The page comes from the answer, which has its bounds in any case.
    obtain ⟨positive, small⟩ := pageAfter_bounds response
    refine ⟨rfl, ?_, positive, small, reserve, payload, rfl, reserved, carries, rfl⟩
    simp only [List.map_cons, List.map_nil, informed, reserved, asked]
    rfl

end Opens

end Repository

/-- A walk starts under the reservation it was given, unless a request of its opening fails. -/
theorem course_startWalk {host : String} {repository : Repository}
    {exchanges : List (Exchange controller)} {result : Except IpmiError Walk}
    (course : Course (startWalk host repository).outcome exchanges result) :
    (∃ error, result = .error error ∧ ∃ exchange ∈ exchanges,
      exchange.answer = .error error ∨
        exchange.request = repository.reserveRequest ∧ ∀ payload, ¬ exchange.Carries 2 payload) ∨
    ∃ reserve ∈ exchanges, ∃ payload page, reserve.request = repository.reserveRequest ∧
      reserve.Carries 2 payload ∧ 0 < page ∧ page ≤ 255 ∧
      result = .ok ⟨repository, payload.wordAt 0, page⟩ ∧
      exchanges.map (·.request) = repository.opening := by
  have opens := Repository.course_opens course
  -- A walk has everything that is wanted, and an error comes from one of the requests.
  cases result with
  | ok walk =>
    obtain ⟨rfl, requested, positive, small, reserve, payload, found, reserved, carries, same⟩ :=
      opens.of_ok
    obtain ⟨_, _, page⟩ := walk
    exact .inr ⟨reserve, List.mem_of_getElem? found, payload, page, reserved, carries, positive,
      small, by rw [← same], requested⟩
  | error error =>
    refine .inl ⟨error, rfl, ?_⟩
    cases opens with
    -- The first and the last request only fail for the transport.
    | infoFailed asked failed => exact ⟨_, List.mem_singleton_self _, .inl failed⟩
    | unitFailed _ _ _ _ failed => exact ⟨_, by simp, .inl failed⟩
    | @reserveFailed _ _ reserve _ _ asked failed =>
      refine ⟨reserve, by simp, .inr ⟨asked, ?_⟩⟩
      -- An answer that carried a reservation would have been read.
      rintro payload ⟨valid, answered, enough⟩
      have read : Response.requirePayload ⟨0x00 :: payload, valid⟩ 2 .reservation = .ok payload :=
        Response.requirePayload_ok_iff.mpr ⟨rfl, enough⟩
      rw [answered] at failed
      cases read.symm.trans failed

end BmcTelemetry.Sensor
