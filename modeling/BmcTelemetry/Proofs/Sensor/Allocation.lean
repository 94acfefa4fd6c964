import BmcTelemetry.Proofs.Sensor.Chain
import BmcTelemetry.Proofs.Sensor.Trace

/-!
Allocation units: how much a repository hands out at once, and how much a scan asks it for.

Bodies of records are read by the unit. Headers are read by the default, which is more than a header
has, so that only a unit in which a header fits is kept to by all reads.
-/

namespace BmcTelemetry

open Dialogue (Course)

namespace Sensor

namespace Repository

/-- A request is one for part of a record, by its command. -/
def AsksPart (repository : Repository) (request : Request) : Prop :=
  request.data.take 2 = repository.recordRequest.data.take 2

/-- A request for part of a record has the command for it. -/
theorem asksPart_partRequest (repository : Repository) (reservation id : UInt16)
    (offset count : UInt8) :
    repository.AsksPart (repository.partRequest reservation id offset count) := by
  -- The patches leave the command alone, in either repository.
  cases repository <;> rfl

/-- The requests of an opening ask for no part of a record. -/
theorem not_asksPart_of_opening {repository : Repository} {request : Request}
    (member : request ∈ repository.opening) : ¬ repository.AsksPart request := by
  -- There are only these few requests, and none of them has that command.
  have each : ∀ request ∈ repository.opening,
      request.data.take 2 ≠ repository.recordRequest.data.take 2 := by
    cases repository <;> decide
  exact each request member

/-- An opening that is answered about the allocation leads to a walk with the page it was told. -/
theorem Opens.page_eq {exchanges : List (Exchange controller)} {opened : Except IpmiError Walk}
    (opens : Opens .storage exchanges opened) {allocation : Exchange controller}
    (member : allocation ∈ exchanges) (asked : allocation.request = allocationRequest)
    {response : Response} (answered : allocation.answer = .ok response) :
    ∃ walk, opened = .ok walk ∧ walk.page = pageAfter response := by
  -- Each of the three requests has a command of its own.
  have notInfo : allocation.request ≠ infoRequest .storage := by
    rw [asked]
    decide
  have notReserve : allocation.request ≠ reserveRequest .storage := by
    rw [asked]
    decide
  -- The allocation is asked for by the third request, which the others are not.
  cases opens with
  -- The allocation was not asked for yet.
  | infoFailed informed failed =>
    obtain rfl := List.mem_singleton.mp member
    exact absurd informed notInfo
  -- Both requests of such an opening are about something else.
  | reserveFailed informed reserved failed =>
    simp only [List.mem_cons, List.not_mem_nil, or_false] at member
    rcases member with rfl | rfl
    · exact absurd informed notInfo
    · exact absurd reserved notReserve
  -- The third request is the one, but it was not answered in this case.
  | unitFailed informed reserved carries _ failed =>
    simp only [List.mem_cons, List.not_mem_nil, or_false] at member
    rcases member with rfl | rfl | rfl
    · exact absurd informed notInfo
    · exact absurd reserved notReserve
    · rw [answered] at failed
      cases failed
  -- The third request is the one, and its answer tells the page.
  | storage informed reserved carries _ told =>
    simp only [List.mem_cons, List.not_mem_nil, or_false] at member
    rcases member with rfl | rfl | rfl
    · exact absurd informed notInfo
    · exact absurd reserved notReserve
    · rw [answered] at told
      cases told
      exact ⟨_, rfl, rfl⟩

end Repository

/-- A usable answer about the allocation tells the page, as far as a byte can. -/
theorem pageAfter_told {payload : Bytes} {valid : Bool} (sized : payload.length = 9)
    (told : payload.wordAt 2 ≠ 0) :
    pageAfter ⟨0x00 :: payload, valid⟩ = min (payload.wordAt 2).toNat 255 := by
  -- A word is zero exactly when its number is.
  have nonzero : (payload.wordAt 2).toNat ≠ 0 := fun zero => told (UInt16.toNat_inj.mp zero)
  simp [pageAfter, Response.completionCode, Response.payload, sized, nonzero]

namespace Walk

variable {walk : Walk} {id : UInt16} {exchanges : List (Exchange controller)}

/-- A header is asked for at once. -/
theorem parts_of_header {exchange : Exchange controller}
    (asked : exchange.request = walk.sliceRequest id ⟨0, headerSize⟩) :
    walk.repository.AsksPart exchange.request ∧ partOf exchange.request = ⟨0, 5⟩ := by
  -- A header is asked for with an offset and a count that both fit one byte.
  rw [asked, sliceRequest_eq]
  exact ⟨walk.repository.asksPart_partRequest _ _ _ _,
    partOf_partRequest _ _ _ (by decide) (by decide)⟩

/-- A body is asked for by the page of the walk. -/
theorem parts_of_body {header : RecordHeader} {outcome : Except IpmiError Record}
    (paged : 0 < walk.page)
    (course : Course (walk.readRecord id header).outcome exchanges outcome) :
    ∀ exchange ∈ exchanges, walk.repository.AsksPart exchange.request ∧
      (partOf exchange.request).count ≤ walk.page := by
  -- The body is read in a run of pages, whose requests are all of one form.
  obtain ⟨fetched, run, _⟩ := pageRun_of_record paged course
  intro exchange member
  obtain ⟨place, count, asks⟩ := run.fills.asks exchange member
  -- Every page of the run is a part, of no more bytes than a page has.
  refine ⟨?_, ?_⟩
  · rw [asks.asked]
    exact walk.repository.asksPart_partRequest _ _ _ _
  · rw [asks.exact]
    exact asks.sized.2

/-- Reading a record asks for its header first, and for the rest by the page of the walk. -/
theorem Reads.parts {outcome : Except IpmiError (RecordHeader × Option Record)}
    (reads : walk.Reads id exchanges outcome) (paged : 0 < walk.page) :
    ∃ header rest, exchanges = header :: rest ∧
      (walk.repository.AsksPart header.request ∧ partOf header.request = ⟨0, 5⟩) ∧
      ∀ exchange ∈ rest, walk.repository.AsksPart exchange.request ∧
        (partOf exchange.request).count ≤ walk.page := by
  -- Only a header that is read and is that of a sensor has a body to follow it.
  cases reads with
  -- The header failed, and nothing came after it.
  | headerFailed header =>
    obtain ⟨exchange, rfl, asked⟩ := course_readHeader header
    exact ⟨exchange, [], rfl, parts_of_header asked, by simp⟩
  -- The record is of another kind, so there was only the header.
  | skipped read other =>
    obtain ⟨exchange, rfl, asked⟩ := course_readHeader read
    exact ⟨exchange, [], rfl, parts_of_header asked, by simp⟩
  -- A body was read behind the header, whatever came of it.
  | bodyFailed read sensor body =>
    obtain ⟨exchange, rfl, asked⟩ := course_readHeader read
    exact ⟨exchange, _, rfl, parts_of_header asked, parts_of_body paged body⟩
  | accepted read sensor body =>
    obtain ⟨exchange, rfl, asked⟩ := course_readHeader read
    exact ⟨exchange, _, rfl, parts_of_header asked, parts_of_body paged body⟩

variable {visits : List Visit} {failure : Option IpmiError}

/-- A tour of which nothing was visited before has a first visit. -/
theorem Tour.nonempty (tour : walk.Tour [] id visits failure) : ∃ visit, visit ∈ visits := by
  -- A tour without visits would have begun with an id that was visited.
  cases tour with
  | revisited seen => cases seen
  | failed => exact ⟨_, List.mem_cons_self⟩
  | ended => exact ⟨_, List.mem_cons_self⟩
  | onward => exact ⟨_, List.mem_cons_self⟩

/-- A tour asks for a header. -/
theorem Tour.asks_header (tour : walk.Tour [] id visits failure) (paged : 0 < walk.page) :
    ∃ header ∈ visits.flatMap (·.exchanges), walk.repository.AsksPart header.request ∧
      partOf header.request = ⟨0, 5⟩ := by
  -- The first visit begins with a header.
  obtain ⟨visit, member⟩ := tour.nonempty
  obtain ⟨header, rest, split, asks, _⟩ := (tour.reads visit member).parts paged
  refine ⟨header, List.mem_flatMap.mpr ⟨visit, member, ?_⟩, asks⟩
  rw [split]
  exact List.mem_cons_self

/-- A tour asks for nothing but headers and pages. -/
theorem Tour.asks (tour : walk.Tour [] id visits failure) (paged : 0 < walk.page) :
    ∀ exchange ∈ visits.flatMap (·.exchanges), walk.repository.AsksPart exchange.request ∧
      (partOf exchange.request = ⟨0, 5⟩ ∨ (partOf exchange.request).count ≤ walk.page) := by
  intro exchange member
  -- Every exchange belongs to a visit, in which only the first one is for a header.
  obtain ⟨visit, visited, own⟩ := List.mem_flatMap.mp member
  obtain ⟨header, rest, split, first, others⟩ := (tour.reads visit visited).parts paged
  rw [split] at own
  rcases List.mem_cons.mp own with rfl | later
  · exact ⟨first.1, .inl first.2⟩
  · exact ⟨(others exchange later).1, .inr (others exchange later).2⟩

end Walk

/-- An answer about the allocation that tells how much is handed out at once. -/
structure TellsUnit (allocation : Exchange controller) (unit : UInt16) : Prop where
  /-- The allocation is asked for. -/
  asked : allocation.request = Repository.allocationRequest
  /-- The answer carries nine bytes, with the unit in the third and fourth of them. -/
  carries : ∃ payload, allocation.Carries 9 payload ∧ payload.length = 9 ∧
    payload.wordAt 2 = unit
  /-- There is a unit. -/
  nonzero : unit ≠ 0

/-- Once told the unit, a scan asks for a header, and for nothing else beyond the unit. -/
theorem course_scan_told {host : String} {exchanges : List (Exchange controller)}
    {result : Except PartialScan (List Record)}
    (course : Course (scan host .storage) exchanges result) {allocation : Exchange controller}
    (member : allocation ∈ exchanges) {unit : UInt16} (tells : TellsUnit allocation unit) :
    (∃ header ∈ exchanges, Repository.storage.AsksPart header.request ∧
        partOf header.request = ⟨0, 5⟩) ∧
      ∀ exchange ∈ exchanges, Repository.storage.AsksPart exchange.request →
        partOf exchange.request = ⟨0, 5⟩ ∨
          (partOf exchange.request).count ≤ min unit.toNat 255 := by
  -- The walk has begun, or the opening ended the scan.
  obtain ⟨payload, ⟨valid, answered, _⟩, sized, rfl⟩ := tells.carries
  rcases course_scan course with ⟨error, opening, _⟩ | ⟨walk, first, rest, harvest, opening,
    walks, rfl, _⟩
  · -- After an answer about the allocation the opening succeeds.
    obtain ⟨_, same, _⟩ :=
      (Repository.course_opens opening).page_eq member tells.asked answered
    cases same
  obtain ⟨visits, tour, rfl, _⟩ := walks.tour
  obtain ⟨repository, paged, requested⟩ := Repository.walk_of_opened opening
  -- From here on the tour is known to ask for headers and pages only.
  have reads := tour.asks paged
  obtain ⟨header, listed, begins⟩ := tour.asks_header paged
  rw [repository] at reads begins
  -- The opening asks for no part of a record, and so the allocation is asked for there.
  have unasked : ∀ exchange ∈ first, ¬ Repository.storage.AsksPart exchange.request := by
    intro exchange early
    refine Repository.not_asksPart_of_opening ?_
    rw [← requested]
    exact List.mem_map_of_mem early
  -- If the allocation were asked for in the tour, it would be part of a record.
  have early : allocation ∈ first := by
    refine (List.mem_append.mp member).resolve_right fun late => ?_
    have part := (reads allocation late).1
    rw [tells.asked] at part
    exact Repository.not_asksPart_of_opening (by decide) part
  -- The walk reads by the page that the allocation told.
  obtain ⟨_, same, page⟩ := (Repository.course_opens opening).page_eq early tells.asked answered
  obtain rfl := Except.ok.inj same
  rw [pageAfter_told sized tells.nonzero] at page
  refine ⟨⟨header, List.mem_append_right _ listed, begins⟩, fun exchange own part => ?_⟩
  -- The requests of the opening are no parts, and those of the tour keep to the page.
  rcases List.mem_append.mp own with sooner | later
  · exact absurd part (unasked exchange sooner)
  · rw [← page]
    exact (reads exchange later).2

/--
Everything that a scan asks for at once fits the allocation unit exactly when a header does.

The unit counts as far as a byte can tell it. Whatever else is answered, nothing but a header is
ever asked for beyond it.
-/
theorem scan_within_unit_iff (host : String) {σ : Type}
    (handler : Dialogue.Handler controller σ) (memory : σ) {allocation : Exchange controller}
    (member : allocation ∈ (scan host .storage).transcript handler memory) {unit : UInt16}
    (tells : TellsUnit allocation unit) :
    ((∀ exchange ∈ (scan host .storage).transcript handler memory,
        Repository.storage.AsksPart exchange.request →
          (partOf exchange.request).count ≤ min unit.toNat 255) ↔ 5 ≤ unit.toNat) ∧
      ∀ exchange ∈ (scan host .storage).transcript handler memory,
        Repository.storage.AsksPart exchange.request →
          min unit.toNat 255 < (partOf exchange.request).count →
            partOf exchange.request = ⟨0, 5⟩ := by
  -- Everything follows from what one course of the scan asks for.
  have course := Dialogue.course_run handler (scan host .storage) memory
  obtain ⟨⟨header, listed, asks, part⟩, reads⟩ := course_scan_told course member tells
  refine ⟨⟨fun bounded => ?_, fun fits exchange own asks => ?_⟩,
    fun exchange own asks beyond => ?_⟩
  · -- The header has to fit like everything else.
    have count := bounded header listed asks
    rw [part] at count
    exact Nat.le_trans count (Nat.min_le_left _ _)
  -- Conversely a header fits, and all other parts keep to the unit anyway.
  · rcases reads exchange own asks with whole | within
    · rw [whole]
      exact Nat.le_min.mpr ⟨fits, by decide⟩
    · exact within
  -- Whatever is more than the unit can only be a header.
  · exact (reads exchange own asks).resolve_right (Nat.not_le.mpr beyond)

/-- An answer about the allocation, with units of so many bytes. -/
def unitAnswer (unit : UInt16) : Response :=
  .answered (0x00 :: ([0x00, 0x02] ++ Bytes.ofWord unit ++ [0x00, 0x01, 0x00, 0x02, 0x01]))

/-- Units of eight bytes are kept to. -/
theorem scan_within_unit_mixedChain :
    let exchanges := (scan "bmc" .storage).transcript
      (Repository.storage.serving mixedChain 0x3412 (unitAnswer 8)) ()
    (∃ allocation ∈ exchanges, TellsUnit allocation 8) ∧
      ∀ exchange ∈ exchanges, Repository.storage.AsksPart exchange.request →
        (partOf exchange.request).count ≤ 8 := by
  intro exchanges
  -- The third exchange is the one about the allocation.
  have third : exchanges[2]? = some ⟨Repository.allocationRequest, .ok (unitAnswer 8)⟩ := rfl
  have tells : TellsUnit ⟨Repository.allocationRequest, .ok (unitAnswer 8)⟩ 8 :=
    ⟨rfl, ⟨_, ⟨true, rfl, by decide⟩, rfl, rfl⟩, by decide⟩
  have member := List.mem_of_getElem? third
  exact ⟨⟨_, member, tells⟩,
    (scan_within_unit_iff "bmc" _ () member tells).1.mpr (by decide)⟩

/-- A header is asked for at once, also where no more than three bytes are handed out. -/
theorem scan_beyond_unit :
    let exchanges := (scan "bmc" .storage).transcript
      (Repository.storage.serving mixedChain 0x3412 (unitAnswer 3)) ()
    (∃ allocation ∈ exchanges, TellsUnit allocation 3) ∧
      ∃ exchange ∈ exchanges, Repository.storage.AsksPart exchange.request ∧
        min (3 : UInt16).toNat 255 < (partOf exchange.request).count := by
  intro exchanges
  -- The third exchange tells a unit of three bytes.
  have third : exchanges[2]? = some ⟨Repository.allocationRequest, .ok (unitAnswer 3)⟩ := rfl
  have tells : TellsUnit ⟨Repository.allocationRequest, .ok (unitAnswer 3)⟩ 3 :=
    ⟨rfl, ⟨_, ⟨true, rfl, by decide⟩, rfl, rfl⟩, by decide⟩
  refine ⟨⟨_, List.mem_of_getElem? third, tells⟩, ?_⟩
  -- The fourth exchange is for the first header, with five bytes at once.
  have fourth : (exchanges[3]?).map (·.request)
      = some (Repository.storage.partRequest 0x3412 0 0 5) := rfl
  obtain ⟨header, found, asked⟩ := Option.map_eq_some_iff.mp fourth
  refine ⟨header, List.mem_of_getElem? found, ?_⟩
  rw [asked]
  exact ⟨rfl, by decide⟩

end Sensor

end BmcTelemetry
