import BmcTelemetry.Sensor.Record
import BmcTelemetry.Sensor.Repository

/-! Walking a repository along its links, and keeping the records of sensors. -/

namespace BmcTelemetry.Sensor

/-- A walk that ended early, with the records it had accepted by then. -/
structure PartialScan where
  /-- The accepted records, in the order of the links. -/
  records : List Record
  /-- Why the walk ended. -/
  error : IpmiError
deriving DecidableEq, Repr

/-- The wording of an early end. -/
def PartialScan.message (scan : PartialScan) : String :=
  "SDR scan stopped after " ++ toString scan.records.length ++ " records: " ++ scan.error.message

/-- What a walk yields: the accepted records, and why it ended early if it did. -/
structure Harvest where
  /-- The accepted records, in the order of the links. -/
  records : List Record
  /-- Why the walk ended early. -/
  failure : Option IpmiError
deriving DecidableEq, Repr

namespace Harvest

/-- A walk that reached the last link. -/
def complete : Harvest := { records := [], failure := none }

/-- A walk that ended early. -/
def stopped (error : IpmiError) : Harvest := { records := [], failure := some error }

/-- The same walk with one more record in front. -/
def after (record : Record) (rest : Harvest) : Harvest :=
  { rest with records := record :: rest.records }

/-- The records of a complete walk, or the early end. -/
def toExcept (harvest : Harvest) : Except PartialScan (List Record) :=
  match harvest.failure with
  | none => .ok harvest.records
  | some error => .error { records := harvest.records, error }

end Harvest

/-- A contiguous part of a record. -/
structure Slice where
  /-- Where the part starts. -/
  offset : Nat
  /-- How many bytes it has. -/
  count : Nat
deriving DecidableEq, Repr

/-- Cuts a record into parts of one size, the last of which may be shorter. -/
def slices (total page : Nat) : List Slice :=
  (List.range ((total + (page - 1)) / page)).map fun index =>
    { offset := index * page, count := min (total - index * page) page }

/-- What a walk needs for each of its reads. -/
structure Walk where
  /-- The repository that is walked. -/
  repository : Repository
  /-- The reservation under which all reads are made. -/
  reservation : UInt16
  /-- The most bytes of a record that are asked for at once. -/
  page : Nat
deriving DecidableEq, Repr

/-- Bytes of a record, and the link to the next one that came with them. -/
structure Fetched where
  /-- The record that follows. -/
  nextId : UInt16
  /-- The bytes. -/
  bytes : Bytes
deriving DecidableEq, Repr

/-- The page size for headers, and for repositories that do not report one. -/
def defaultPage : Nat := 16

namespace Walk

/-- The request for part of a record. -/
def sliceRequest (walk : Walk) (id : UInt16) (slice : Slice) : Request :=
  walk.repository.recordRequest.patched 2
    (Bytes.ofWord walk.reservation ++ Bytes.ofWord id
      ++ [UInt8.ofNat slice.offset, UInt8.ofNat slice.count])

/-- Reads part of a record. -/
def readSlice (walk : Walk) (id : UInt16) (slice : Slice) : Attempt controller Fetched := do
  -- A start past what one byte can address would wrap around.
  if 255 < slice.offset then
    Attempt.fail (.protocol (.offsetOutOfRange id slice.offset))
  else
    let payload ← Controller.fetch (walk.sliceRequest id slice) (2 + slice.count) .recordPage
    return { nextId := payload.wordAt 0, bytes := payload.slice 2 slice.count }

/-- Reads the first bytes of a record in parts; the link is the one that came last. -/
def readBytes (walk : Walk) (id : UInt16) (total page : Nat) : Attempt controller Fetched := do
  let parts ← (slices total page).mapM (walk.readSlice id)
  return { nextId := (parts.getLast?.map (·.nextId)).getD 0, bytes := parts.flatMap (·.bytes) }

/-- Reads the header of a record. -/
def readHeader (walk : Walk) (id : UInt16) : Attempt controller RecordHeader := do
  let fetched ← walk.readBytes id headerSize defaultPage
  Attempt.lift (RecordHeader.ofBytes fetched.nextId fetched.bytes)

/-- Reads the record of a sensor whose header is known. -/
def readRecord (walk : Walk) (id : UInt16) (header : RecordHeader) :
    Attempt controller Record := do
  -- Zero stands for the first record, whose body is read by its real id.
  let bodyId := if id = 0 then header.id else id
  let fetched ← walk.readBytes bodyId header.readSize walk.page
  Attempt.lift (Record.ofBytes fetched.nextId fetched.bytes)

/-- Follows the links from a record on, through at most so many records not visited before. -/
def follow (walk : Walk) (host : String) : Nat → List UInt16 → UInt16 → Dialogue controller Harvest
  -- There are no more ids than the walk may visit, so running out means meeting one again.
  | 0, _, id => return .stopped (.protocol (.visitedTwice id))
  | budget + 1, visited, id => do
    if id ∈ visited then return .stopped (.protocol (.visitedTwice id))
    match ← (walk.readHeader id).outcome with
    | .error error => return .stopped error
    | .ok header =>
      let onward :=
        if header.nextId = lastId then pure Harvest.complete
        else walk.follow host budget (id :: visited) header.nextId
      if header.isSensor then
        match ← (walk.readRecord id header).outcome with
        | .error error => return .stopped error
        | .ok record => return (← onward).after record
      else
        Dialogue.report (.recordSkipped host header.id header.type)
        onward

end Walk

/-- How much a repository hands out at once: a byte's worth of its unit, or the default. -/
def allocationUnit (host : String) : Attempt controller Nat := do
  let response ← Controller.exec Repository.allocationRequest
  if response.completionCode ≠ some 0 ∨ response.payload.length ≠ 9 then
    Attempt.report (.noAllocationUnit host defaultPage)
    return defaultPage
  else
    let unit := (response.payload.wordAt 2).toNat
    return if unit = 0 then defaultPage else min unit 255

/-- Reserves a repository and learns how to read it. -/
def startWalk (host : String) (repository : Repository) : Attempt controller Walk := do
  -- The information itself is not needed, but asking for it has to succeed.
  let _ ← Controller.exec repository.infoRequest
  let reserved ← Controller.fetch repository.reserveRequest 2 .reservation
  let page ← match repository with
    | .storage => allocationUnit host
    | .device => pure defaultPage
  let walk : Walk := { repository, reservation := reserved.wordAt 0, page }
  Attempt.report (.scanStarted host repository.label walk.reservation page)
  return walk

/-- The number of record ids that there are. -/
def idCount : Nat := 65536

/-- Walks a whole repository for the records of its sensors. -/
def scan (host : String) (repository : Repository) :
    Dialogue controller (Except PartialScan (List Record)) := do
  match ← (startWalk host repository).outcome with
  | .error error => return (Harvest.stopped error).toExcept
  | .ok walk => return (← walk.follow host idCount [] 0).toExcept

end BmcTelemetry.Sensor
