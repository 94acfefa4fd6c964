import BmcTelemetry.Proofs.Sensor.Steps
import Mathlib.Data.List.Nodup

/-!
The account of a scan: what it asks, what it accepts and how it ends, whatever is answered.

Answers may be malformed, inconsistent or missing. A scan visits each id at most once, stops at the
first step that fails and keeps exactly what it had accepted by then.
-/

namespace BmcTelemetry.Sensor

open Attempt (failureOf)
open Dialogue (Course)

/-- One record on a walk: how it was asked for, all that was exchanged, and what came of it. -/
structure Visit where
  /-- The id that was linked to. -/
  id : UInt16
  /-- The exchanges, first those about the header. -/
  exchanges : List (Exchange controller)
  /-- The header with the record, if there is one to keep, or why there is none. -/
  outcome : Except IpmiError (RecordHeader × Option Record)

namespace Visit

/-- Why a record could not be read. -/
def failure? (visit : Visit) : Option IpmiError :=
  failureOf visit.outcome

/-- Where a record that was read leads to. -/
def link? (visit : Visit) : Option UInt16 :=
  visit.outcome.toOption.map fun (header, _) => header.nextId

/-- The record, if it is one to keep. -/
def accepted? (visit : Visit) : Option Record :=
  visit.outcome.toOption.bind fun (_, kept) => kept

/-- Whether the record is none of a sensor. -/
def isSkipped (visit : Visit) : Bool :=
  visit.outcome.toOption.any fun (_, kept) => kept.isNone

section Fields

variable {id : UInt16} {exchanges : List (Exchange controller)} {header : RecordHeader}
  {kept : Option Record} {error : IpmiError}

@[simp] theorem failure?_ok : (mk id exchanges (.ok (header, kept))).failure? = none := rfl
@[simp] theorem failure?_error : (mk id exchanges (.error error)).failure? = some error := rfl
@[simp] theorem link?_ok : (mk id exchanges (.ok (header, kept))).link? = some header.nextId := rfl
@[simp] theorem link?_error : (mk id exchanges (.error error)).link? = none := rfl
@[simp] theorem accepted?_ok : (mk id exchanges (.ok (header, kept))).accepted? = kept := rfl
@[simp] theorem accepted?_error : (mk id exchanges (.error error)).accepted? = none := rfl
@[simp] theorem isSkipped_ok : (mk id exchanges (.ok (header, kept))).isSkipped = kept.isNone := rfl

end Fields

/-- A visit that does not fail has a header to show. -/
theorem outcome_of_passed (visit : Visit) (passed : visit.failure? = none) :
    ∃ header kept, visit.outcome = .ok (header, kept) := by
  obtain ⟨id, exchanges, outcome⟩ := visit
  -- A visit that read nothing has a failure to show.
  cases outcome with
  | error error => cases passed
  | ok found => exact ⟨found.1, found.2, rfl⟩

/-- A record is accepted by a visit that read it. -/
theorem outcome_of_accepted (visit : Visit) {record : Record}
    (accepted : visit.accepted? = some record) :
    ∃ header, visit.outcome = .ok (header, some record) := by
  obtain ⟨id, exchanges, outcome⟩ := visit
  -- Only a visit that read something can have accepted a record.
  cases outcome with
  | error error => cases accepted
  | ok found =>
    obtain ⟨header, kept⟩ := found
    cases accepted
    exact ⟨header, rfl⟩

end Visit

namespace Walk

/-- The visits of a walk from a record on, some ids having been visited, and why it ends early. -/
inductive Tour (walk : Walk) : List UInt16 → UInt16 → List Visit → Option IpmiError → Prop
  /-- A link back to a visited id ends the walk. -/
  | revisited {visited : List UInt16} {id : UInt16} (seen : id ∈ visited) :
      Tour walk visited id [] (some (.protocol (.visitedTwice id)))
  /-- A record that cannot be read ends the walk. -/
  | failed {visited : List UInt16} {id : UInt16} {exchanges : List (Exchange controller)}
      {error : IpmiError} (fresh : id ∉ visited) (reads : Reads walk id exchanges (.error error)) :
      Tour walk visited id [⟨id, exchanges, .error error⟩] (some error)
  /-- The last link ends the walk. -/
  | ended {visited : List UInt16} {id : UInt16} {exchanges : List (Exchange controller)}
      {header : RecordHeader} {kept : Option Record} (fresh : id ∉ visited)
      (reads : Reads walk id exchanges (.ok (header, kept))) (last : header.nextId = lastId) :
      Tour walk visited id [⟨id, exchanges, .ok (header, kept)⟩] none
  /-- Any other link leads on. -/
  | onward {visited : List UInt16} {id : UInt16} {exchanges : List (Exchange controller)}
      {header : RecordHeader} {kept : Option Record} {visits : List Visit}
      {failure : Option IpmiError} (fresh : id ∉ visited)
      (reads : Reads walk id exchanges (.ok (header, kept))) (more : header.nextId ≠ lastId)
      (rest : Tour walk (id :: visited) header.nextId visits failure) :
      Tour walk visited id (⟨id, exchanges, .ok (header, kept)⟩ :: visits) failure

variable {walk : Walk} {visited : List UInt16} {id : UInt16} {visits : List Visit}
  {failure : Option IpmiError}

/-- Every walk is a tour of its visits, which account for its exchanges and its harvest. -/
theorem Visits.tour {exchanges : List (Exchange controller)} {harvest : Harvest}
    (walks : walk.Visits visited id exchanges harvest) :
    ∃ visits, walk.Tour visited id visits harvest.failure ∧
      exchanges = visits.flatMap (·.exchanges) ∧
      harvest.records = visits.filterMap Visit.accepted? := by
  -- The induction follows the walk, which makes one visit of each record.
  induction walks with
  | revisited seen => exact ⟨[], .revisited seen, rfl, rfl⟩
  | failed fresh reads => exact ⟨_, .failed fresh reads, by simp, rfl⟩
  -- The last record is accepted or skipped, and either way it is the last visit.
  | @ended visited id exchanges header kept fresh reads last =>
    refine ⟨[⟨id, exchanges, .ok (header, kept)⟩], ?_, by simp, ?_⟩
    · cases kept <;> exact .ended fresh reads last
    · cases kept <;> rfl
  -- The visits of the rest are known, and this one is put in front of them.
  | @onward visited id exchanges others header kept harvest fresh reads more rest ih =>
    obtain ⟨visits, tour, rfl, kept_rest⟩ := ih
    refine ⟨⟨id, exchanges, .ok (header, kept)⟩ :: visits, ?_, by simp, ?_⟩
    · cases kept <;> exact .onward fresh reads more tour
    -- Only a record that is kept is one more of the harvest.
    · cases kept with
      | none => exact kept_rest
      | some record => exact congrArg (record :: ·) kept_rest

/-- Each visit of a tour reads the record that it is of. -/
theorem Tour.reads (tour : walk.Tour visited id visits failure) :
    ∀ visit ∈ visits, Reads walk visit.id visit.exchanges visit.outcome := by
  -- The visits of a tour are those that its steps add, each with its own read.
  induction tour with
  | revisited => simp
  | failed _ reads => simpa using reads
  | ended _ reads => simpa using reads
  | onward _ reads _ _ ih => simpa using ⟨reads, ih⟩

/-- The ids of a tour are those that are linked to, in this order. -/
theorem Tour.follows (tour : walk.Tour visited id visits failure) :
    visits.map (·.id) <+: id :: visits.filterMap Visit.link? := by
  -- Each visit begins where the last link led, so both lists grow by the same id.
  induction tour with
  | revisited => exact List.nil_prefix
  | failed => exact List.prefix_rfl
  | ended => exact ⟨_, rfl⟩
  | onward _ _ _ _ ih => exact (List.prefix_cons_inj _).mpr ih

/-- No id is visited twice on a tour. -/
theorem Tour.distinct (tour : walk.Tour visited id visits failure) (distinct : visited.Nodup) :
    (visits.map (·.id) ++ visited).Nodup := by
  -- Each visit moves its id from those ahead to those behind, where it was not before.
  induction tour with
  | revisited => exact distinct
  | failed fresh => exact List.nodup_cons.mpr ⟨fresh, distinct⟩
  | ended fresh => exact List.nodup_cons.mpr ⟨fresh, distinct⟩
  -- The id is fresh, so that the rest starts with one more distinct id behind it.
  | onward fresh _ _ _ ih =>
    exact List.nodup_middle.mp (ih (List.nodup_cons.mpr ⟨fresh, distinct⟩))

/-- The ids of a tour that starts anew are distinct. -/
theorem Tour.ids_nodup (tour : walk.Tour [] id visits failure) : (visits.map (·.id)).Nodup := by
  simpa using tour.distinct List.nodup_nil

/-- The id that marks the end is not visited. -/
theorem Tour.ne_lastId (tour : walk.Tour visited id visits failure) (begins : id ≠ lastId) :
    ∀ visit ∈ visits, visit.id ≠ lastId := by
  -- A tour goes on only where the link is not that id.
  induction tour with
  | revisited => simp
  | failed => simpa using begins
  | ended => simpa using begins
  | onward _ _ more _ ih => simpa using ⟨begins, ih more⟩

/-- Each record is accepted or skipped, but for one at most. -/
theorem Tour.counted (tour : walk.Tour visited id visits failure) :
    visits.length ≤ (visits.filterMap Visit.accepted?).length
      + (visits.filter Visit.isSkipped).length + 1 := by
  -- Only a visit that fails counts for nothing, and it is the last one.
  induction tour with
  | revisited => simp
  | failed => simp
  | ended => simp
  | @onward _ _ _ _ kept visits _ _ _ _ _ ih =>
    -- The record of this visit counts on one side or on the other.
    cases kept <;> simp [List.filterMap_cons, List.filter_cons] <;> omega

/-- Every visit but the last one succeeds. -/
theorem Tour.passed (tour : walk.Tour visited id visits failure) :
    ∀ visit ∈ visits.dropLast, visit.failure? = none := by
  -- The last of the visits is left out, and a visit that fails is the last one.
  induction tour with
  | revisited => simp
  | failed => simp
  | ended => simp
  -- A visit that others follow was successful, as it led on to them.
  | @onward _ _ _ _ _ visits _ _ _ _ _ ih =>
    cases visits with
    | nil => simp
    | cons => simpa using ih

/-- A tour is complete exactly when all visits succeed and the links end without a repetition. -/
theorem Tour.complete_iff (tour : walk.Tour visited id visits failure)
    (distinct : visited.Nodup) (unmarked : lastId ∉ visited) (begins : id ≠ lastId) :
    failure = none ↔ (∀ visit ∈ visits, visit.failure? = none) ∧
      (id :: visits.filterMap Visit.link? ++ visited).Nodup ∧
      (id :: visits.filterMap Visit.link?).getLast? = some lastId := by
  -- The induction compares each step of the tour with the links from there on.
  induction tour with
  -- A tour that ends at a repetition has not come to the id that marks the end.
  | revisited => simp [begins]
  -- A failed visit is one of those that have to succeed.
  | failed => simp
  -- The last link ends the list, and the id that marks the end was not visited before.
  | ended fresh _ last => simp [last, begins, unmarked, fresh, distinct]
  | @onward visited id _ header kept visits failure fresh _ more rest ih =>
    have unmarkedToo : lastId ∉ id :: visited := by simpa using ⟨Ne.symm begins, unmarked⟩
    rw [ih (List.nodup_cons.mpr ⟨fresh, distinct⟩) unmarkedToo more]
    -- Visiting the record moves its id from the links ahead to those visited.
    have moved : (header.nextId :: visits.filterMap Visit.link? ++ id :: visited).Nodup ↔
        (id :: header.nextId :: visits.filterMap Visit.link? ++ visited).Nodup :=
      List.nodup_middle
    rw [moved]
    simp [List.getLast?_cons_cons]

/-- A tour that ends early does so at a record that cannot be read, or at a repetition. -/
theorem Tour.stopped (tour : walk.Tour visited id visits failure) {error : IpmiError}
    (ended : failure = some error) :
    visits.getLast?.bind Visit.failure? = some error ∨
      ∃ twice, (∀ visit ∈ visits, visit.failure? = none) ∧
        (id :: visits.filterMap Visit.link?).getLast? = some twice ∧
        twice ∈ visits.map (·.id) ++ visited ∧ error = .protocol (.visitedTwice twice) := by
  -- The tour has ended early, and its last step says how.
  induction tour with
  | revisited seen =>
    cases ended
    exact .inr ⟨_, by simp, rfl, seen, rfl⟩
  | failed =>
    cases ended
    exact .inl rfl
  | ended => cases ended
  | @onward visited id exchanges header kept visits failure fresh _ more rest ih =>
    rcases ih ended with failed | ⟨twice, passed, last, seen, rfl⟩
    · -- The visit that failed is the last one with any others in front.
      cases visits with
      | nil => cases failed
      | cons => exact .inl (by simpa using failed)
    -- A repetition further on is one for the whole tour, with the first id visited as well.
    · exact .inr ⟨twice, by simpa using passed, by simpa [List.getLast?_cons_cons] using last,
        by simpa [or_left_comm] using seen, rfl⟩

/-- A tour ends with the first exchange that fails. -/
theorem Tour.endsAtFailure (tour : walk.Tour visited id visits failure) :
    EndsAtFailure walk.repository.failure? (visits.flatMap (·.exchanges)) failure := by
  -- Every exchange in front of the last visit belongs to a read that succeeded.
  induction tour with
  | revisited => exact endsAtFailure_of_passed (by simp) _
  | failed _ reads => simpa using reads.endsAtFailure
  | ended _ reads => simpa using reads.endsAtFailure
  -- This read has succeeded, so that a failure can only be in the rest.
  | onward _ reads _ _ ih => exact ih.after reads.endsAtFailure.passed

/-- A tour takes no more than so many exchanges for each visit. -/
theorem Tour.length_le (tour : walk.Tour visited id visits failure) (paged : 0 < walk.page) :
    (visits.flatMap (·.exchanges)).length ≤ 256 * visits.length := by
  -- A read takes a bounded number of exchanges, so the visits are bounded each on its own.
  induction tour with
  | revisited => simp
  | failed _ reads => simpa using reads.length_le paged
  | ended _ reads => simpa using reads.length_le paged
  | onward _ reads _ _ ih =>
    have own := reads.length_le paged
    simp only [List.flatMap_cons, List.length_append, List.length_cons]
    omega

/-- There are no more distinct ids than words. -/
theorem length_le_idCount {ids : List UInt16} (distinct : ids.Nodup) : ids.length ≤ idCount := by
  -- Distinct ids are distinct numbers of a finite type, which has no more of them.
  have bounded := (distinct.map (fun _ _ => UInt16.toFin_inj.mp)).length_le_card
  simpa [idCount, UInt16.size] using bounded

/-- A tour from the first record on visits no more records than there are ids but the last. -/
theorem Tour.visits_le (tour : walk.Tour [] 0 visits failure) : visits.length ≤ 65535 := by
  -- The id that marks the end is one more that is distinct from those visited.
  have unmarked : lastId ∉ visits.map (·.id) := by
    intro member
    obtain ⟨visit, visited, same⟩ := List.mem_map.mp member
    exact tour.ne_lastId (by decide) visit visited same
  -- Together with that id they are still no more than there are words.
  have bounded := length_le_idCount (List.nodup_cons.mpr ⟨unmarked, tour.ids_nodup⟩)
  simp only [List.length_cons, List.length_map, idCount] at bounded
  exact Nat.le_of_lt_succ bounded

end Walk

/-- A scan step by step: its opening, and every record that it visits. -/
structure Account where
  /-- The exchanges of the opening. -/
  opening : List (Exchange controller)
  /-- The walk that the opening leads to, or why there is none. -/
  opened : Except IpmiError Walk
  /-- The visits of the walk, in order. -/
  visits : List Visit

namespace Account

/-- The ids that a walk was led to, beginning with zero. -/
def trail (account : Account) : List UInt16 :=
  0 :: account.visits.filterMap Visit.link?

/-- The records that were accepted, in the order of the visits. -/
def accepted (account : Account) : List Record :=
  account.visits.filterMap Visit.accepted?

/-- The visits to records of another kind. -/
def skipped (account : Account) : List Visit :=
  account.visits.filter Visit.isSkipped

/-- An account tells what a scan exchanges and how it ends. -/
structure Tells (account : Account) (host : String) (repository : Repository)
    (exchanges : List (Exchange controller)) (result : Except PartialScan (List Record)) :
    Prop where
  /-- Everything is exchanged in the opening or in one of the visits. -/
  exchanged : exchanges = account.opening ++ account.visits.flatMap (·.exchanges)
  /-- The opening is the exchanges of the first steps, and leads where they lead. -/
  opens : Course (startWalk host repository).outcome account.opening account.opened
  /-- The opening succeeds exactly when all of its exchanges do. -/
  opened_iff : (∃ walk, account.opened = .ok walk) ↔
    ∀ exchange ∈ account.opening, repository.failure? exchange = none
  /-- An opening that succeeds has sent all of its requests. -/
  requested : ∀ walk, account.opened = .ok walk →
    account.opening.map (·.request) = repository.opening
  /-- Nothing is visited after an opening that fails. -/
  unopened : ∀ error, account.opened = .error error → account.visits = []
  /-- Each visit begins by reading a header, and goes on to the body for that of a sensor. -/
  reads : ∀ visit ∈ account.visits, ∃ walk, account.opened = .ok walk ∧
    walk.Reads visit.id visit.exchanges visit.outcome
  /-- The first exchange of a visit asks for the header of its record. -/
  headers : ∀ visit ∈ account.visits, ∃ walk header rest, account.opened = .ok walk ∧
    visit.exchanges = header :: rest ∧
    header.request = walk.sliceRequest visit.id ⟨0, headerSize⟩
  /-- The records are visited in the order of the links. -/
  follows : account.visits.map (·.id) <+: account.trail
  /-- No id is visited twice. -/
  distinct : (account.visits.map (·.id)).Nodup
  /-- There are at most so many headers to read. -/
  headers_le : account.visits.length ≤ 65535
  /-- Each record whose header is read is accepted or skipped, but for one at most. -/
  headers_le_records :
    account.visits.length ≤ account.accepted.length + account.skipped.length + 1
  /-- The number of all exchanges is bounded along with it. -/
  exchanges_le : exchanges.length ≤ 3 + 256 * account.visits.length
  /-- All records are found exactly when every step succeeds and the links end unrepeated. -/
  complete_iff : (∃ records, result = .ok records) ↔
    (∃ walk, account.opened = .ok walk) ∧ (∀ visit ∈ account.visits, visit.failure? = none) ∧
      account.trail.Nodup ∧ account.trail.getLast? = some lastId
  /-- A complete scan has one record for each header of a sensor, in the order of the visits. -/
  complete : ∀ records, result = .ok records → records = account.accepted ∧
    ∀ visit ∈ account.visits, ∃ header kept, visit.outcome = .ok (header, kept) ∧
      kept.isSome = header.isSensor
  /-- A partial scan has the records before the step that failed, and the error of that step. -/
  stopped : ∀ scan, result = .error scan → scan.records = account.accepted ∧
    (∀ visit ∈ account.visits.dropLast, visit.failure? = none) ∧
    (account.opened = .error scan.error ∨
      account.visits.getLast?.bind Visit.failure? = some scan.error ∨
      ∃ twice, (∀ visit ∈ account.visits, visit.failure? = none) ∧
        account.trail.getLast? = some twice ∧ twice ∈ account.visits.map (·.id) ∧
        scan.error = .protocol (.visitedTwice twice))
  /-- Whatever is accepted is the record of a sensor. -/
  sensors : ∀ record ∈ account.accepted, record.header.isSensor = true
  /-- No request is sent after one that fails. -/
  silent : ∀ before exchange after error, exchanges = before ++ exchange :: after →
    repository.failure? exchange = some error →
      after = [] ∧ ∃ records, result = .error ⟨records, error⟩

end Account

/-- The error of a scan is that of its harvest. -/
theorem Harvest.toExcept_ok_iff {harvest : Harvest} {records : List Record} :
    harvest.toExcept = .ok records ↔ harvest.failure = none ∧ records = harvest.records := by
  -- The error of a harvest is there or it is not, and the scan is made accordingly.
  obtain ⟨accepted, failure⟩ := harvest
  cases failure <;> simp [toExcept, eq_comm]

/-- A partial scan has the records and the error of its harvest. -/
theorem Harvest.toExcept_error_iff {harvest : Harvest} {scan : PartialScan} :
    harvest.toExcept = .error scan ↔
      harvest.failure = some scan.error ∧ scan.records = harvest.records := by
  obtain ⟨accepted, failure⟩ := harvest
  obtain ⟨records, error⟩ := scan
  cases failure <;> simp [toExcept, eq_comm, and_comm]

/-- A scan whose exchanges end with a failure ends with the same. -/
theorem Harvest.toExcept_of_endsAtFailure {harvest : Harvest}
    {failure? : Exchange controller → Option IpmiError} {exchanges : List (Exchange controller)}
    (ends : EndsAtFailure failure? exchanges harvest.failure) :
    ∀ before exchange after error, exchanges = before ++ exchange :: after →
      failure? exchange = some error →
        after = [] ∧ ∃ records, harvest.toExcept = .error ⟨records, error⟩ := by
  intro before exchange after error split failed
  -- The failing exchange is the last, and the harvest ends with its error.
  obtain ⟨last, ended⟩ := ends before exchange after error split failed
  exact ⟨last, harvest.records, Harvest.toExcept_error_iff.mpr ⟨ended, rfl⟩⟩

/-- An opening that succeeds leads to a walk through the repository, with pages to read. -/
theorem Repository.walk_of_opened {repository : Repository} {host : String}
    {exchanges : List (Exchange controller)} {walk : Walk}
    (course : Course (startWalk host repository).outcome exchanges (.ok walk)) :
    walk.repository = repository ∧ 0 < walk.page ∧
      exchanges.map (·.request) = repository.opening := by
  -- An opening that led to a walk took all of its steps.
  obtain ⟨same, requested, positive, _⟩ := (Repository.course_opens course).of_ok
  exact ⟨same, positive, requested⟩

/-- A scan whose opening fails is told by its opening alone. -/
theorem Account.tells_unopened {host : String} {repository : Repository}
    {exchanges : List (Exchange controller)} {error : IpmiError}
    (opening : Course (startWalk host repository).outcome exchanges (.error error)) :
    Account.Tells ⟨exchanges, .error error, []⟩ host repository exchanges (.error ⟨[], error⟩) where
  exchanged := by simp
  opens := opening
  opened_iff := Repository.opened_iff opening
  requested := by simp
  unopened _ _ := rfl
  reads := by simp
  headers := by simp
  follows := List.nil_prefix
  distinct := List.nodup_nil
  headers_le := by simp
  headers_le_records := by simp
  exchanges_le := repository.asksAtMost_startWalk host _ _ opening
  complete_iff := by simp
  complete := by simp
  stopped := by
    -- A scan that was not opened has nothing but the error of its opening.
    rintro scan same
    cases same
    exact ⟨rfl, by simp, .inl rfl⟩
  sensors := by simp [accepted]
  silent := by
    have ends : EndsAtFailure repository.failure? exchanges (Harvest.stopped error).failure :=
      repository.heeds_startWalk host _ _ opening
    exact Harvest.toExcept_of_endsAtFailure ends

/-- A scan whose opening succeeds is told by the tour of its walk. -/
theorem Account.tells_tour {host : String} {repository : Repository}
    {first : List (Exchange controller)} {walk : Walk} {visits : List Visit} {harvest : Harvest}
    (opening : Course (startWalk host repository).outcome first (.ok walk))
    (tour : walk.Tour [] 0 visits harvest.failure)
    (kept : harvest.records = visits.filterMap Visit.accepted?) :
    Account.Tells ⟨first, .ok walk, visits⟩ host repository
      (first ++ visits.flatMap (·.exchanges)) harvest.toExcept := by
  -- The walk is the one of this opening, so that its requests and its page are known.
  obtain ⟨rfl, paged, requested⟩ := Repository.walk_of_opened opening
  -- The tour starts with nothing visited, so its links and its visits are all there are.
  have complete := tour.complete_iff List.nodup_nil (by simp) (by decide)
  rw [List.append_nil] at complete
  exact {
    exchanged := rfl
    opens := opening
    opened_iff := Repository.opened_iff opening
    -- There is only one walk that the opening led to.
    requested := fun _ same => by
      cases same
      exact requested
    unopened := nofun
    reads := fun visit member => ⟨walk, rfl, tour.reads visit member⟩
    -- Every read begins with its header.
    headers := fun visit member => by
      obtain ⟨header, rest, split, asked, _⟩ := (tour.reads visit member).header_first
      exact ⟨walk, header, rest, rfl, split, asked⟩
    follows := tour.follows
    distinct := tour.ids_nodup
    headers_le := tour.visits_le
    headers_le_records := tour.counted
    exchanges_le := by
      -- The opening and the tour are bounded each on its own.
      have few := walk.repository.asksAtMost_startWalk host _ _ opening
      have more := tour.length_le paged
      rw [List.length_append]
      exact Nat.add_le_add few more
    complete_iff := by
      have ended : (∃ records, harvest.toExcept = .ok records) ↔ harvest.failure = none := by
        simp [Harvest.toExcept_ok_iff]
      rw [ended, complete]
      exact ⟨fun rest => ⟨⟨walk, rfl⟩, rest⟩, fun both => both.2⟩
    complete := by
      -- With no failure every visit has read its record, and kept it if it is that of a sensor.
      intro records ended
      obtain ⟨unfailed, rfl⟩ := Harvest.toExcept_ok_iff.mp ended
      refine ⟨kept, fun visit member => ?_⟩
      obtain ⟨header, record?, found⟩ :=
        visit.outcome_of_passed ((complete.mp unfailed).1 visit member)
      have reads := tour.reads visit member
      rw [found] at reads
      exact ⟨header, record?, found, reads.kept_isSome⟩
    stopped := by
      -- The error of the scan is that of the tour, which says where it comes from.
      intro scan ended
      obtain ⟨failed, same⟩ := Harvest.toExcept_error_iff.mp ended
      refine ⟨same.trans kept, tour.passed, .inr ?_⟩
      have halted := tour.stopped failed
      simp only [List.append_nil] at halted
      exact halted
    sensors := by
      -- A record is accepted by a visit, whose read found it to be that of a sensor.
      intro record member
      obtain ⟨visit, visited, accepted⟩ := List.mem_filterMap.mp member
      obtain ⟨header, found⟩ := visit.outcome_of_accepted accepted
      have reads := tour.reads visit visited
      rw [found] at reads
      exact reads.isSensor
    silent := by
      -- No exchange of the opening failed, or there would be no tour.
      have passed := (walk.repository.heeds_startWalk host _ _ opening).passed
      exact Harvest.toExcept_of_endsAtFailure (tour.endsAtFailure.after passed) }

/-- Every scan can be told step by step, whatever the controller answers. -/
theorem scan_accounted (host : String) (repository : Repository) {σ : Type}
    (handler : Dialogue.Handler controller σ) (memory : σ) :
    ∃ account : Account, account.Tells host repository
      ((scan host repository).transcript handler memory)
      ((scan host repository).run handler memory).1 := by
  -- Both sides speak of one course of the scan, of which only this much is used.
  have course := Dialogue.course_run handler (scan host repository) memory
  generalize (scan host repository).transcript handler memory = exchanges at course ⊢
  generalize ((scan host repository).run handler memory).1 = result at course ⊢
  rcases course_scan course with ⟨error, opening, rfl⟩ | ⟨walk, first, rest, harvest, opening,
    walks, rfl, rfl⟩
  -- Without a walk there is nothing to visit.
  · exact ⟨_, Account.tells_unopened opening⟩
  -- A walk is a tour, and its visits make the account.
  · obtain ⟨visits, tour, rfl, kept⟩ := walks.tour
    exact ⟨_, Account.tells_tour opening tour kept⟩

end BmcTelemetry.Sensor
