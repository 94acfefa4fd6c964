import BmcTelemetry.Proofs.Sensor.Account
import BmcTelemetry.Proofs.Sensor.Pages

/-!
The trace of a scan: which requests it sends, in which order and under which reservation.

Lengths and page sizes come from answers that nobody vouches for. Whatever they are, a scan reserves
the repository once, and every page that it asks for afterwards lies inside what one byte can address.
-/

namespace BmcTelemetry

open Attempt (failureOf)
open Dialogue (Course)

namespace Sensor

/-- The error of a read that starts past what one byte can address. -/
def Unaddressable (error : IpmiError) : Prop :=
  ∃ id offset, error = .protocol (.offsetOutOfRange id offset)

/-- An answer that cannot be used is no reason to call an offset out of range. -/
theorem requirePayload_addressable {response : Response} {least : Nat} {step : Step}
    {error : IpmiError} (failed : response.requirePayload least step = .error error) :
    ¬ Unaddressable error := by
  rintro ⟨id, offset, rfl⟩
  rw [Response.requirePayload] at failed
  -- A refusal has errors of its own, none of which is about an offset.
  split at failed
  · cases failed
  · split at failed <;> cases failed
  · cases failed

/-- An answer about an offset out of range was given by the transport. -/
theorem answer_of_unaddressable {answer : Except IpmiError Response} {least : Nat} {step : Step}
    {error : IpmiError} (unaddressable : Unaddressable error)
    (failed : (answer.bind fun response => response.requirePayload least step) = .error error) :
    answer = .error error := by
  -- Either the transport gave the error, or it was made of an answer.
  cases answer with
  | error reason =>
    cases failed
    rfl
  | ok response => exact absurd unaddressable (requirePayload_addressable failed)

/-- An exchange that fails for an offset out of range was answered so by the transport. -/
theorem Repository.answer_of_failure? {repository : Repository} {exchange : Exchange controller}
    {error : IpmiError} (unaddressable : Unaddressable error)
    (failed : repository.failure? exchange = some error) : exchange.answer = .error error := by
  -- Only the demand on an answer depends on the request.
  have reason {α : Type} {made : Except IpmiError α} (same : failureOf made = some error) :
      made = .error error := by
    cases made with
    | error own => rw [Option.some.inj same]
    | ok value => cases same
  rw [Repository.failure?] at failed
  -- Without a demand only the transport can fail, and with one the payload can as well.
  split at failed
  · exact reason failed
  · exact answer_of_unaddressable unaddressable (reason failed)

/-- Reading what was fetched of a record does not call an offset out of range. -/
theorem Record.ofBytes_addressable {nextId : UInt16} {bytes : Bytes} {error : IpmiError}
    (failed : Record.ofBytes nextId bytes = .error error) : ¬ Unaddressable error := by
  rintro ⟨id, offset, rfl⟩
  rw [Record.ofBytes] at failed
  cases read : RecordHeader.ofBytes nextId bytes with
  -- The header is too short, which is an error of its own.
  | error reason =>
    simp only [read, Bind.bind, Except.bind] at failed
    cases failed
    rw [RecordHeader.ofBytes] at read
    split at read <;> cases read
  | ok header =>
    simp only [read, Bind.bind, Except.bind] at failed
    -- Each of the two refusals has an error of its own.
    by_cases sensor : header.isSensor
    · by_cases short : bytes.length < 14
      · simp [sensor, short, MonadExcept.throw, throw, throwThe, MonadExceptOf.throw] at failed
      · simp [sensor, short, Pure.pure, Except.pure] at failed
    · simp [sensor, MonadExcept.throw, throw, throwThe, MonadExceptOf.throw] at failed

namespace Walk

/-- The exchanges about one record: its header first, then all of it if it is that of a sensor. -/
inductive Traces (walk : Walk) (id : UInt16) :
    List (Exchange controller) → Except IpmiError (RecordHeader × Option Record) → Prop
  /-- A header cannot be read. -/
  | headerCut {exchanges : List (Exchange controller)} {error : IpmiError}
      (run : walk.PageRun id 5 16 exchanges (.error error)) : Traces walk id exchanges (.error error)
  /-- The header is that of another kind of record. -/
  | skipped {exchanges : List (Exchange controller)} {fetched : Fetched} {header : RecordHeader}
      (run : walk.PageRun id 5 16 exchanges (.ok fetched))
      (read : RecordHeader.ofBytes fetched.nextId fetched.bytes = .ok header)
      (other : header.isSensor = false) : Traces walk id exchanges (.ok (header, none))
  /-- The header is that of a sensor, whose record is read by its own id as far as it goes. -/
  | body {first rest : List (Exchange controller)} {fetched : Fetched} {header : RecordHeader}
      {body : Except IpmiError Fetched} (run : walk.PageRun id 5 16 first (.ok fetched))
      (read : RecordHeader.ofBytes fetched.nextId fetched.bytes = .ok header)
      (sensor : header.isSensor = true)
      (goesOn : walk.PageRun (if id = 0 then header.id else id)
        (min (header.length.toNat + 5) 255) walk.page rest body) :
      Traces walk id (first ++ rest) ((body.bind fun fetched =>
        Record.ofBytes fetched.nextId fetched.bytes).map fun record => (header, some record))

variable {walk : Walk} {id : UInt16} {exchanges : List (Exchange controller)}

/-- A header is read by a run of pages, and whatever bytes that yields are those of a header. -/
theorem pageRun_of_header {outcome : Except IpmiError RecordHeader}
    (course : Course (walk.readHeader id).outcome exchanges outcome) :
    (∃ error, walk.PageRun id 5 16 exchanges (.error error) ∧ outcome = .error error) ∨
      ∃ fetched header, walk.PageRun id 5 16 exchanges (.ok fetched) ∧
        RecordHeader.ofBytes fetched.nextId fetched.bytes = .ok header ∧ outcome = .ok header := by
  rw [readHeader, Attempt.course_bind_iff] at course
  rcases course with ⟨error, read, rfl⟩ | ⟨first, fetched, rest, read, parsed, rfl⟩
  -- The bytes could not be read, so there is no header.
  · exact .inl ⟨error, pageRun_of_course (by decide) (by decide) read, rfl⟩
  · obtain ⟨rfl, rfl⟩ := Attempt.course_lift_iff.mp parsed
    have run : walk.PageRun id 5 16 first (.ok fetched) :=
      pageRun_of_course (by decide) (by decide) read
    -- There are as many bytes as a header has.
    have whole : ¬ fetched.bytes.length < headerSize := by
      rw [run.sized fetched rfl]
      decide
    rw [List.append_nil]
    exact .inr ⟨fetched, _, run, by rw [RecordHeader.ofBytes, if_neg whole],
      by rw [RecordHeader.ofBytes, if_neg whole]⟩

/-- The record of a sensor is read by a run of pages. -/
theorem pageRun_of_record {header : RecordHeader} {outcome : Except IpmiError Record}
    (paged : 0 < walk.page) (course : Course (walk.readRecord id header).outcome exchanges outcome) :
    ∃ body, walk.PageRun (if id = 0 then header.id else id) (min (header.length.toNat + 5) 255)
        walk.page exchanges body ∧
      outcome = body.bind fun fetched => Record.ofBytes fetched.nextId fetched.bytes := by
  -- However long a record says it is, no more is read of it than a byte can address.
  have bounded := header.readSize_bounds.2
  rw [readRecord, Attempt.course_bind_iff] at course
  -- The read of the bytes ends with an error, or its bytes are parsed without another request.
  rcases course with ⟨error, read, rfl⟩ | ⟨first, fetched, rest, read, parsed, rfl⟩
  · exact ⟨_, pageRun_of_course paged bounded read, rfl⟩
  · obtain ⟨rfl, rfl⟩ := Attempt.course_lift_iff.mp parsed
    rw [List.append_nil]
    exact ⟨_, pageRun_of_course paged bounded read, rfl⟩

/-- The record of a sensor is read in two runs, one for its header and one for all of it. -/
theorem traces_of_body {first rest : List (Exchange controller)} {header : RecordHeader}
    {outcome : Except IpmiError Record} (paged : 0 < walk.page)
    (read : Course (walk.readHeader id).outcome first (.ok header))
    (sensor : header.isSensor = true)
    (body : Course (walk.readRecord id header).outcome rest outcome) :
    walk.Traces id (first ++ rest) (outcome.map fun record => (header, some record)) := by
  -- The header was read, so that the run for it has come to its end.
  rcases pageRun_of_header read with ⟨_, _, same⟩ | ⟨fetched, _, run, parsed, same⟩
  · cases same
  · cases same
    obtain ⟨body, goesOn, rfl⟩ := pageRun_of_record paged body
    exact .body run parsed sensor goesOn

/-- Whatever is read of a record is read in runs of pages. -/
theorem Reads.traces {outcome : Except IpmiError (RecordHeader × Option Record)}
    (reads : walk.Reads id exchanges outcome) (paged : 0 < walk.page) :
    walk.Traces id exchanges outcome := by
  -- The header decides whether a body is read at all.
  cases reads with
  -- The run for the header was cut short.
  | headerFailed course =>
    rcases pageRun_of_header course with ⟨error, run, same⟩ | ⟨_, _, _, _, same⟩
    · cases same
      exact .headerCut run
    · cases same
  -- A header of another kind ends with its run.
  | skipped course other =>
    rcases pageRun_of_header course with ⟨_, _, same⟩ | ⟨fetched, header, run, read, same⟩
    · cases same
    · cases same
      exact .skipped run read other
  -- Both ways of reading a body begin with a header that was read.
  | bodyFailed course sensor body => exact traces_of_body paged course sensor body
  | accepted course sensor body => exact traces_of_body paged course sensor body

section Traces

variable {outcome : Except IpmiError (RecordHeader × Option Record)}

/-- Every exchange about a record asks for a part of it, which a byte can address to its end. -/
theorem Traces.asks (traces : walk.Traces id exchanges outcome) :
    ∀ exchange ∈ exchanges, ∃ (name : UInt16) (offset count : UInt8),
      exchange.request = walk.repository.partRequest walk.reservation name offset count ∧
        offset.toNat + count.toNat ≤ 255 := by
  have own {name : UInt16} {total page : Nat} {exchanges : List (Exchange controller)}
      {fetched : Except IpmiError Fetched} (run : walk.PageRun name total page exchanges fetched) :
      ∀ exchange ∈ exchanges, ∃ (name : UInt16) (offset count : UInt8),
        exchange.request = walk.repository.partRequest walk.reservation name offset count ∧
          offset.toNat + count.toNat ≤ 255 := fun exchange member => by
    -- What is sent is what is meant, so the bound on the part is one on the two bytes.
    obtain ⟨offset, count, asked⟩ := run.asked exchange member
    obtain ⟨_, _, place, size⟩ :=
      walk.repository.partRequest_data walk.reservation name offset count
    have inside := run.addressed exchange member
    rw [asked, partOf, place, size] at inside
    exact ⟨name, offset, count, asked, Nat.le_trans inside.1 inside.2⟩
  -- Each exchange is of one of the runs, and every run asks for parts only.
  cases traces with
  | headerCut run => exact own run
  | skipped run => exact own run
  | body run _ _ goesOn => exact List.forall_mem_append.mpr ⟨own run, own goesOn⟩

/-- A record is only left for an offset out of range where the transport answers with that. -/
theorem Traces.unaddressable {error : IpmiError} (traces : walk.Traces id exchanges outcome)
    (unaddressable : Unaddressable error) (ended : outcome = .error error) :
    ∃ exchange ∈ exchanges, exchange.answer = .error error := by
  -- A run that is cut short has the error of its last exchange; parsing has no such error.
  have last {name : UInt16} {total page : Nat} {exchanges : List (Exchange controller)}
      (run : walk.PageRun name total page exchanges (.error error)) :
      ∃ exchange ∈ exchanges, exchange.answer = .error error := by
    obtain ⟨exchange, found, failed⟩ := run.cut error rfl
    exact ⟨exchange, List.mem_of_getLast? found,
      Repository.answer_of_failure? unaddressable failed⟩
  cases traces with
  -- The run for the header has that error, from its last exchange.
  | headerCut run =>
    cases ended
    exact last run
  | skipped => cases ended
  -- The body may fail in its run, or when its bytes are parsed.
  | @body first rest fetched header body run read sensor goesOn =>
    cases body with
    | error reason =>
      cases ended
      obtain ⟨exchange, member, answered⟩ := last goesOn
      exact ⟨exchange, List.mem_append_right first member, answered⟩
    | ok fetched =>
      -- The bytes are all there, and parsing them never has such an error.
      cases made : Record.ofBytes fetched.nextId fetched.bytes with
      | error reason =>
        simp only [Except.bind, made] at ended
        cases ended
        exact absurd unaddressable (Record.ofBytes_addressable made)
      | ok record =>
        simp only [Except.bind, made] at ended
        cases ended

end Traces

end Walk

namespace Repository.Opens

variable {repository : Repository} {exchanges : List (Exchange controller)}

/-- The second exchange of an opening reserves the repository, and no other one does. -/
theorem reserves {opened : Except IpmiError Walk} (opens : repository.Opens exchanges opened) :
    ∀ number exchange, exchanges[number]? = some exchange →
      (exchange.request = repository.reserveRequest ↔ number = 1) := by
  intro number exchange found
  -- The requests are the first ones of a fixed list, in which only one reserves.
  obtain ⟨rest, whole⟩ := opens.requests_prefix
  have listed : (exchanges.map (·.request))[number]? = some exchange.request := by
    rw [List.getElem?_map, found]
    rfl
  refine reserveRequest_in_opening ?_
  rw [← whole, List.getElem?_append_left (List.getElem?_eq_some_iff.mp listed).1, listed]

/-- An opening only ends for an offset out of range where the transport answers with that. -/
theorem unaddressable {error : IpmiError} (opens : repository.Opens exchanges (.error error))
    (unaddressable : Unaddressable error) :
    ∃ exchange ∈ exchanges, exchange.answer = .error error := by
  -- The information and the unit fail for the transport only, and the reservation may fail for its
  -- answer as well.
  cases opens with
  | infoFailed asked failed => exact ⟨_, List.mem_singleton_self _, failed⟩
  | reserveFailed informed asked failed =>
    exact ⟨_, by simp, answer_of_unaddressable unaddressable failed⟩
  | unitFailed informed reserved carries asked failed => exact ⟨_, by simp, failed⟩

end Repository.Opens

namespace Account

/-- The requests of a scan, told by an account of it. -/
structure Traced (account : Account) (repository : Repository)
    (exchanges : List (Exchange controller)) (result : Except PartialScan (List Record)) :
    Prop where
  /-- Everything is exchanged in the opening or in one of the visits. -/
  exchanged : exchanges = account.opening ++ account.visits.flatMap (·.exchanges)
  /-- The opening ends as the first of its exchanges that fails has it, or with a walk. -/
  opens : repository.Opens account.opening account.opened
  /-- It asks for information, for a reservation and, in storage only, for the allocation. -/
  ordered : account.opening.map (·.request) <+: repository.opening
  /-- It asks for all of that before anything is read. -/
  complete : ∀ walk, account.opened = .ok walk →
    account.opening.map (·.request) = repository.opening
  /-- The repository is reserved by the second request, and never again. -/
  reserved : ∀ number exchange, exchanges[number]? = some exchange →
    (exchange.request = repository.reserveRequest ↔ number = 1)
  /-- Nothing is read after an opening that fails. -/
  unopened : ∀ error, account.opened = .error error →
    account.visits = [] ∧ result = .error ⟨[], error⟩
  /-- Every request after the opening asks for part of a record under that one reservation. -/
  pages : ∀ visit ∈ account.visits, ∀ exchange ∈ visit.exchanges,
    ∃ reserve payload, ∃ (id : UInt16) (offset count : UInt8), exchanges[1]? = some reserve ∧
      reserve.Carries 2 payload ∧ exchange.request = .direct (repository.recordRequest.data.take 2
        ++ payload.take 2 ++ Bytes.ofWord id ++ [offset, count]) ∧
      offset.toNat + count.toNat ≤ 255
  /-- Each record is read in runs of pages, the size of which the opening has settled. -/
  traces : ∀ visit ∈ account.visits, ∃ walk, account.opened = .ok walk ∧
    walk.repository = repository ∧ 0 < walk.page ∧ walk.page ≤ 255 ∧
    walk.Traces visit.id visit.exchanges visit.outcome
  /-- No request is sent after one that fails. -/
  silent : ∀ before exchange after error, exchanges = before ++ exchange :: after →
    repository.failure? exchange = some error →
      after = [] ∧ ∃ records, result = .error ⟨records, error⟩
  /-- No offset is ever out of range, unless it is the transport that answers so. -/
  addressable : ∀ records error, result = .error ⟨records, error⟩ → Unaddressable error →
    ∃ exchange ∈ exchanges, exchange.answer = .error error

end Account

/-- A request for part of a record carries the bytes of the reservation as they were handed out. -/
theorem Repository.partRequest_eq (repository : Repository) {payload : Bytes}
    (enough : 2 ≤ payload.length) (id : UInt16) (offset count : UInt8) :
    repository.partRequest (payload.wordAt 0) id offset count
      = .direct (repository.recordRequest.data.take 2 ++ payload.take 2 ++ Bytes.ofWord id
          ++ [offset, count]) := by
  -- The word of the reservation is the two bytes that it was read from.
  rw [← Bytes.ofWord_wordAt enough]
  cases repository <;> rfl

/-- A scan whose opening fails sends nothing but the requests of the opening. -/
theorem Account.traced_unopened {repository : Repository} {exchanges : List (Exchange controller)}
    {error : IpmiError} {host : String}
    (course : Course (startWalk host repository).outcome exchanges (.error error)) :
    Account.Traced ⟨exchanges, .error error, []⟩ repository exchanges (.error ⟨[], error⟩) := by
  -- The steps of the opening are the whole scan.
  have opens := Repository.course_opens course
  have ends : EndsAtFailure repository.failure? exchanges (Harvest.stopped error).failure :=
    repository.heeds_startWalk host _ _ course
  exact {
    exchanged := by simp
    opens := opens
    ordered := opens.requests_prefix
    complete := nofun
    reserved := opens.reserves
    unopened := fun reason same => by
      cases same
      exact ⟨rfl, rfl⟩
    pages := by simp
    traces := by simp
    silent := Harvest.toExcept_of_endsAtFailure ends
    addressable := fun records reason same unaddressable => by
      cases same
      exact opens.unaddressable unaddressable }

/-- A scan whose opening succeeds goes on in runs of pages, under its one reservation. -/
theorem Account.traced_tour {repository : Repository} {first : List (Exchange controller)}
    {walk : Walk} {visits : List Visit} {harvest : Harvest} {host : String}
    (course : Course (startWalk host repository).outcome first (.ok walk))
    (tour : walk.Tour [] 0 visits harvest.failure) :
    Account.Traced ⟨first, .ok walk, visits⟩ repository
      (first ++ visits.flatMap (·.exchanges)) harvest.toExcept := by
  -- All that the opening settles is known from its steps.
  have opens := Repository.course_opens course
  obtain ⟨rfl, requested, positive, small, reserve, payload, second, _, carries, reservation⟩ :=
    opens.of_ok
  have traces : ∀ visit ∈ visits, walk.Traces visit.id visit.exchanges visit.outcome :=
    fun visit member => (tour.reads visit member).traces positive
  have passed := (walk.repository.heeds_startWalk host _ _ course).passed
  -- The opening is longer than the place of the reservation.
  have reached : 1 < first.length := (List.getElem?_eq_some_iff.mp second).1
  exact {
    exchanged := rfl
    opens := opens
    ordered := opens.requests_prefix
    complete := fun _ _ => requested
    reserved := by
      intro number exchange found
      -- The exchange is one of the opening, or one of the visits.
      rcases Nat.lt_or_ge number first.length with opening | reading
      · rw [List.getElem?_append_left opening] at found
        exact opens.reserves number exchange found
      · -- Whatever is read is asked for by another command.
        rw [List.getElem?_append_right reading] at found
        obtain ⟨visit, member, own⟩ := List.mem_flatMap.mp (List.mem_of_getElem? found)
        obtain ⟨id, offset, count, asked, _⟩ := (traces visit member).asks exchange own
        refine iff_of_false ?_ (by omega)
        rw [asked]
        exact walk.repository.partRequest_ne_reserveRequest _ _ _ _
    unopened := nofun
    pages := by
      intro visit member exchange own
      -- What a visit asks for is a part of a record, under the reservation of the walk.
      obtain ⟨id, offset, count, asked, inside⟩ := (traces visit member).asks exchange own
      refine ⟨reserve, payload, id, offset, count, ?_, carries, ?_, inside⟩
      · rw [List.getElem?_append_left reached, second]
      · rw [asked, reservation, Repository.partRequest_eq _ carries.le_length]
    traces := fun visit member => ⟨walk, rfl, rfl, positive, small, traces visit member⟩
    silent := Harvest.toExcept_of_endsAtFailure (tour.endsAtFailure.after passed)
    addressable := by
      intro records error ended unaddressable
      -- The scan ended with the error of its tour.
      obtain ⟨failed, _⟩ := Harvest.toExcept_error_iff.mp ended
      rcases tour.stopped failed with last | ⟨twice, _, _, _, rfl⟩
      · -- The record for which the walk was left has an exchange with that answer.
        obtain ⟨visit, found, reason⟩ := Option.bind_eq_some_iff.mp last
        have member := List.mem_of_getLast? found
        have outcome : visit.outcome = .error error := by
          obtain ⟨id, exchanges, outcome⟩ := visit
          cases outcome with
          | error own => rw [Option.some.inj reason]
          | ok found => cases reason
        obtain ⟨exchange, own, answered⟩ :=
          (traces visit member).unaddressable unaddressable outcome
        exact ⟨exchange, List.mem_append_right _ (List.mem_flatMap.mpr ⟨visit, member, own⟩),
          answered⟩
      -- A link to a visited record has an error that is not about an offset.
      · obtain ⟨_, _, same⟩ := unaddressable
        cases same }

/--
The trace of every scan is told by an account of it, whatever the controller answers.

The opening reserves the repository once. After it come only reads of parts of records, each under
that reservation, and in runs of pages that tile what is to be read until a request fails.
-/
theorem scan_traced (host : String) (repository : Repository) {σ : Type}
    (handler : Dialogue.Handler controller σ) (memory : σ) :
    ∃ account : Account, account.Traced repository
      ((scan host repository).transcript handler memory)
      ((scan host repository).run handler memory).1 := by
  -- Both sides speak of one course of the scan.
  have course := Dialogue.course_run handler (scan host repository) memory
  generalize (scan host repository).transcript handler memory = exchanges at course ⊢
  generalize ((scan host repository).run handler memory).1 = result at course ⊢
  rcases course_scan course with ⟨error, opening, rfl⟩ | ⟨walk, first, rest, harvest, opening,
    walks, rfl, rfl⟩
  -- The scan has an opening only, or a walk whose visits make up the account.
  · exact ⟨_, Account.traced_unopened opening⟩
  · obtain ⟨visits, tour, rfl, _⟩ := walks.tour
    exact ⟨_, Account.traced_tour opening tour⟩

end Sensor

end BmcTelemetry
