import BmcTelemetry.Proofs.Bytes
import BmcTelemetry.Proofs.Controller
import BmcTelemetry.Proofs.Sensor.Slices

/-! Stored records: what a controller keeps of its sensors, and what it hands out of that. -/

namespace BmcTelemetry.Sensor

/-- A walk reads something of each record, and no more than one-byte addresses reach. -/
theorem RecordHeader.readSize_bounds (header : RecordHeader) :
    0 < header.readSize ∧ header.readSize ≤ 255 := by
  -- The size is cut to what one byte counts, and a header is part of it.
  simp only [readSize, headerSize]
  omega

/-- A record as a controller stores it, with the link that it hands out along with it. -/
structure Stored where
  /-- All bytes of the record. -/
  bytes : Bytes
  /-- The record that follows. -/
  nextId : UInt16
deriving DecidableEq, Repr

namespace Stored

/-- The id that the record begins with. -/
def id (stored : Stored) : UInt16 :=
  stored.bytes.wordAt 0

/-- The header of the record. -/
def header (stored : Stored) : RecordHeader :=
  { nextId := stored.nextId, id := stored.id, version := stored.bytes.byteAt 2,
    type := stored.bytes.byteAt 3, length := stored.bytes.byteAt 4 }

/-- The sensor that the record describes. -/
def record (stored : Stored) : Record :=
  { header := stored.header, number := stored.bytes.byteAt 7, type := stored.bytes.byteAt 12,
    readingType := stored.bytes.byteAt 13 }

/-- The sensor that the record describes, absent for a record of another kind. -/
def sensor? (stored : Stored) : Option Record :=
  if stored.header.isSensor then some stored.record else none

/-- All that a walk has to read of the record is there. -/
structure Readable (stored : Stored) : Prop where
  /-- There is a header. -/
  hasHeader : headerSize ≤ stored.bytes.length
  /-- A sensor's record is as long as it states, as far as it is read. -/
  present : stored.header.isSensor → stored.header.readSize ≤ stored.bytes.length
  /-- A sensor's record states to reach its last field. -/
  reaches : stored.header.isSensor → 14 ≤ stored.header.readSize

/-- The record states its own length, and a sensor's record reaches its last field. -/
structure Sound (stored : Stored) : Prop where
  /-- There is a header. -/
  hasHeader : headerSize ≤ stored.bytes.length
  /-- The length byte counts what follows the header. -/
  measured : stored.header.length.toNat = stored.bytes.length - headerSize
  /-- A sensor's record holds its number, its type and its reading type. -/
  reaches : stored.header.isSensor → 9 ≤ stored.header.length.toNat

/-- A record's body is read by its own id, also when the record is known as zero. -/
theorem bodyId_eq {stored : Stored} {id : UInt16} (known : id = 0 ∨ id = stored.id) :
    (if id = 0 then stored.header.id else id) = stored.id := by
  -- The id is given, or it is taken from the header, where it stands as well.
  rcases known with rfl | rfl
  · rfl
  · split
    · rfl
    · rfl

/-- A sound record can be read. -/
theorem Sound.readable {stored : Stored} (sound : stored.Sound) : stored.Readable := by
  have hasHeader := sound.hasHeader
  have measured := sound.measured
  simp only [headerSize] at hasHeader measured
  -- What the length byte counts is there, up to the most that is read.
  refine ⟨sound.hasHeader, fun _ => ?_, fun sensor => ?_⟩
  -- The length byte plus the header is the length of the record.
  · simp only [RecordHeader.readSize, headerSize]
    omega
  -- Nine bytes behind the header reach the last of the three fields.
  · have reaches := sound.reaches sensor
    simp only [RecordHeader.readSize, headerSize]
    omega

end Stored

/-- The record that an id names; zero names the first one. -/
def named? (contents : List Stored) (id : UInt16) : Option Stored :=
  if id = 0 then contents.head? else contents.find? fun stored => stored.id == id

/-- The request for part of a record, as it travels. -/
def Repository.partRequest (repository : Repository) (reservation id : UInt16)
    (offset count : UInt8) : Request :=
  let command := match repository with
    | .storage => [0x0a, 0x23]
    | .device => [0x04, 0x21]
  .direct (command ++ Bytes.ofWord reservation ++ Bytes.ofWord id ++ [offset, count])

/-- A request for part of a record tells which part of which record it asks for. -/
theorem Repository.partRequest_data (repository : Repository) (reservation id : UInt16)
    (offset count : UInt8) :
    (repository.partRequest reservation id offset count).data.wordAt 2 = reservation ∧
      (repository.partRequest reservation id offset count).data.wordAt 4 = id ∧
      (repository.partRequest reservation id offset count).data.byteAt 6 = offset ∧
      (repository.partRequest reservation id offset count).data.byteAt 7 = count := by
  -- The words stand behind the two bytes of the command, one after the other.
  have reserved := Bytes.wordAt_ofWord reservation (Bytes.ofWord id ++ [offset, count])
  have named := Bytes.wordAt_ofWord id [offset, count]
  cases repository <;> exact ⟨reserved, named, rfl, rfl⟩

/-- A request for part of a record is not the one that reserves the repository. -/
theorem Repository.partRequest_ne_reserveRequest (repository : Repository)
    (reservation id : UInt16) (offset count : UInt8) :
    repository.partRequest reservation id offset count ≠ repository.reserveRequest := by
  intro same
  -- The command alone tells the two requests apart.
  have commands := congrArg (fun request : Request => request.data[1]?) same
  cases repository <;> exact absurd commands (by simp [partRequest, reserveRequest, Request.direct])

/-- The requests by which a walk reads a record that it knows under a name. -/
def Stored.requests (stored : Stored) (repository : Repository) (reservation : UInt16)
    (page : Nat) (name : UInt16) : List Request :=
  repository.partRequest reservation name 0 5 ::
    if stored.header.isSensor then
      (slices stored.header.readSize page).map fun slice =>
        repository.partRequest reservation stored.id (UInt8.ofNat slice.offset)
          (UInt8.ofNat slice.count)
    else []

/-- A controller hands out every part of its records under a reservation, each with its link. -/
structure HandsOut (repository : Repository) (contents : List Stored) (reservation : UInt16)
    (exchange : Exchange controller) : Prop where
  /-- The transport delivers an answer. -/
  delivered : ∃ response, exchange.answer = .ok response
  /-- The repository can be reserved. -/
  reserved : exchange.request = repository.reserveRequest →
    ∃ more, exchange.Carries 2 (Bytes.ofWord reservation ++ more)
  /-- A part that lies within a record is handed out as it is stored. -/
  part : ∀ id offset count stored,
    exchange.request = repository.partRequest reservation id offset count →
    named? contents id = some stored → offset.toNat + count.toNat ≤ stored.bytes.length →
    exchange.Carries 2
      (Bytes.ofWord stored.nextId ++ stored.bytes.slice offset.toNat count.toNat)

/-- Under a reservation, a controller hands out nothing but parts of its records. -/
def Withholds (repository : Repository) (contents : List Stored) (reservation : UInt16)
    (exchange : Exchange controller) : Prop :=
  ∀ id offset count payload,
    exchange.request = repository.partRequest reservation id offset count →
    exchange.Carries (2 + count.toNat) payload →
    ∃ stored, named? contents id = some stored ∧
      offset.toNat + count.toNat ≤ stored.bytes.length

/-- Whatever a controller hands out as part of a record agrees with the record, links apart. -/
def Truthful (repository : Repository) (contents : List Stored) (reservation : UInt16)
    (exchange : Exchange controller) : Prop :=
  ∀ id offset count payload,
    exchange.request = repository.partRequest reservation id offset count →
    exchange.Carries (2 + count.toNat) payload →
    ∃ stored, named? contents id = some stored ∧
      stored.bytes.Agrees offset.toNat (payload.slice 2 count.toNat)

/-- A controller that hands out its records and nothing else tells the truth about them. -/
theorem HandsOut.truthful {repository : Repository} {contents : List Stored}
    {reservation : UInt16} {exchange : Exchange controller}
    (fair : HandsOut repository contents reservation exchange)
    (withheld : Withholds repository contents reservation exchange) :
    Truthful repository contents reservation exchange := by
  intro id offset count payload asked carries
  -- What was carried lies within a stored record.
  obtain ⟨stored, named, inside⟩ := withheld id offset count payload asked carries
  -- What was handed out is the stored part, as there is only one payload.
  have same := carries.unique (fair.part id offset count stored asked named inside)
  subst same
  refine ⟨stored, named, fun index byte reached found => ?_⟩
  have width := Bytes.length_slice inside
  -- The link takes the two bytes in front, so the slice behind it is the stored one.
  rw [Bytes.slice_ofWord_append, List.take_of_length_le (Nat.le_of_eq width)] at reached ⊢
  rw [width] at reached
  simpa [Bytes.slice, List.getElem?_take, reached] using found

/-- What a controller that keeps these records answers, each request on its own. -/
def Repository.serve (repository : Repository) (contents : List Stored) (reservation : UInt16)
    (otherwise : Response) (request : Request) : Response :=
  let id := request.data.wordAt 4
  let offset := request.data.byteAt 6
  let count := request.data.byteAt 7
  if request = repository.reserveRequest then
    .answered (0x00 :: Bytes.ofWord reservation)
  else if request = repository.partRequest reservation id offset count then
    match named? contents id with
    | none => .answered [0xcb]
    | some stored =>
      if offset.toNat + count.toNat ≤ stored.bytes.length then
        .answered (0x00 :: (Bytes.ofWord stored.nextId
          ++ stored.bytes.slice offset.toNat count.toNat))
      else .answered [0xc9]
  else otherwise

section Serving

variable {repository : Repository} {contents : List Stored} {reservation : UInt16}
  {otherwise : Response} {exchange : Exchange controller}

/-- A request for part of a record is answered as the record is stored, or refused. -/
theorem Repository.serve_partRequest (id : UInt16) (offset count : UInt8) :
    repository.serve contents reservation otherwise
        (repository.partRequest reservation id offset count)
      = match named? contents id with
        | none => .answered [0xcb]
        | some stored =>
          if offset.toNat + count.toNat ≤ stored.bytes.length then
            .answered (0x00 :: (Bytes.ofWord stored.nextId
              ++ stored.bytes.slice offset.toNat count.toNat))
          else .answered [0xc9] := by
  -- The request tells its own record and part, which are then looked up.
  obtain ⟨_, idRead, offsetRead, countRead⟩ :=
    repository.partRequest_data reservation id offset count
  have notReserve := repository.partRequest_ne_reserveRequest reservation id offset count
  simp only [serve, idRead, offsetRead, countRead, if_neg notReserve, if_true]

/-- Under another reservation, no part of a record is handed out. -/
theorem Repository.serve_partRequest_other {other : UInt16} (differs : other ≠ reservation)
    (id : UInt16) (offset count : UInt8) :
    repository.serve contents reservation otherwise (repository.partRequest other id offset count)
      = otherwise := by
  -- The request is not the one for a reservation either.
  have notReserve := repository.partRequest_ne_reserveRequest other id offset count
  -- The reservation is part of the request, so it is not the one that is served.
  have notPart : ∀ name from_ size, repository.partRequest other id offset count
      ≠ repository.partRequest reservation name from_ size := by
    intro name from_ size same
    obtain ⟨reserved, _⟩ := repository.partRequest_data other id offset count
    obtain ⟨kept, _⟩ := repository.partRequest_data reservation name from_ size
    rw [same, kept] at reserved
    exact differs reserved.symm
  simp only [serve, if_neg notReserve, if_neg (notPart _ _ _)]

/-- Such a controller hands out every part of its records. -/
theorem handsOut_serve
    (served : exchange.answer = .ok (repository.serve contents reservation otherwise
      exchange.request)) :
    HandsOut repository contents reservation exchange := by
  refine ⟨⟨_, served⟩, fun asked => ?_, fun id offset count stored asked named inside => ?_⟩
  · -- The reservation is the payload of the answer, without anything behind it.
    rw [asked, Repository.serve, if_pos rfl] at served
    exact ⟨[], true, by rw [served, List.append_nil]; rfl, by simp [Bytes.length_ofWord]⟩
  · -- The part lies within the record, so it is not refused.
    rw [asked, Repository.serve_partRequest, named] at served
    simp only [if_pos inside] at served
    exact ⟨true, served, by rw [List.length_append, Bytes.length_ofWord]; omega⟩

/-- Such a controller hands out nothing else as part of a record. -/
theorem withholds_serve
    (served : exchange.answer = .ok (repository.serve contents reservation otherwise
      exchange.request)) :
    Withholds repository contents reservation exchange := by
  intro id offset count payload asked carries
  obtain ⟨valid, answered, _⟩ := carries
  rw [asked, Repository.serve_partRequest, answered] at served
  -- A payload is only handed out where neither refusal applies.
  cases named : named? contents id with
  -- An id that names nothing is refused.
  | none =>
    rw [named] at served
    cases served
  | some stored =>
    rw [named] at served
    -- A part beyond the record is refused too.
    by_cases inside : offset.toNat + count.toNat ≤ stored.bytes.length
    · exact ⟨stored, rfl, inside⟩
    · simp only [if_neg inside] at served
      cases served

/-- Such a controller tells the truth under every reservation if it has no other data. -/
theorem truthful_serve
    (served : exchange.answer = .ok (repository.serve contents reservation otherwise
      exchange.request))
    (silent : otherwise.completionCode ≠ some 0) (other : UInt16) :
    Truthful repository contents other exchange := by
  -- Under another reservation the answer carries no payload that could be false.
  by_cases same : other = reservation
  · rw [same]
    exact (handsOut_serve served).truthful (withholds_serve served)
  -- The answer is the other one, which does not succeed.
  · intro id offset count payload asked carries
    rw [asked, Repository.serve_partRequest_other same] at served
    obtain ⟨valid, answered, _⟩ := carries
    obtain rfl := Except.ok.inj (served.symm.trans answered)
    exact absurd rfl silent

end Serving

/-- Surroundings in which a transport delivers every answer of such a controller. -/
def Repository.serving (repository : Repository) (contents : List Stored) (reservation : UInt16)
    (otherwise : Response) : Dialogue.Handler controller Unit :=
  fun request memory => (.ok (repository.serve contents reservation otherwise request), memory)

/-- Every exchange in such surroundings is the controller's answer. -/
theorem answer_serving {α : Type} {repository : Repository} {contents : List Stored}
    {reservation : UInt16} {otherwise : Response} {dialogue : Dialogue controller α}
    {exchange : Exchange controller}
    (member : exchange ∈ dialogue.transcript
      (repository.serving contents reservation otherwise) ()) :
    exchange.answer = .ok (repository.serve contents reservation otherwise exchange.request) := by
  -- What is answered does not depend on what is remembered.
  obtain ⟨_, answered⟩ := Dialogue.transcript_answered _ dialogue () exchange member
  exact answered

end BmcTelemetry.Sensor
