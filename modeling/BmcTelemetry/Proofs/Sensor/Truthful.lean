import BmcTelemetry.Proofs.Sensor.Reading

/-! Reads that succeed: what they tell of the records, when the controller tells the truth. -/

namespace BmcTelemetry.Sensor

open Dialogue (Course)

/-- A record that an id other than zero names begins with that id. -/
theorem named?_some_id {contents : List Stored} {id : UInt16} {stored : Stored}
    (nonzero : id ≠ 0) (named : named? contents id = some stored) : stored.id = id := by
  rw [named?, if_neg nonzero] at named
  have same := List.find?_some named
  simpa using same

/-- The first record is known by its own id too. -/
theorem named?_head_id (first : Stored) (rest : List Stored) :
    named? (first :: rest) first.id = some first := by
  -- The first record may have the id zero, by which it is named in any case.
  by_cases zero : first.id = 0
  · rw [named?, if_pos zero]
    rfl
  · rw [named?, if_neg zero]
    simp

/-- Whatever is named is stored. -/
theorem named?_mem {contents : List Stored} {id : UInt16} {stored : Stored}
    (named : named? contents id = some stored) : stored ∈ contents := by
  rw [named?] at named
  -- Either zero names the first of the records, or the id is looked for in all of them.
  split at named
  · exact List.mem_of_mem_head? named
  · exact List.mem_of_find?_eq_some named

/-- A header that can be read begins with the word that its bytes begin with. -/
theorem RecordHeader.ofBytes_ok {nextId : UInt16} {bytes : Bytes} {header : RecordHeader}
    (parsed : RecordHeader.ofBytes nextId bytes = .ok header) :
    headerSize ≤ bytes.length ∧ header.id = bytes.wordAt 0 := by
  rw [RecordHeader.ofBytes] at parsed
  -- Bytes that are too few for a header are refused.
  split at parsed
  · cases parsed
  · cases parsed
    exact ⟨by omega, rfl⟩

/-- What can be read as a record has the header of a sensor and all bytes up to its last field. -/
theorem Record.ofBytes_sensor {nextId : UInt16} {bytes : Bytes} {record : Record}
    (parsed : Record.ofBytes nextId bytes = .ok record) :
    14 ≤ bytes.length ∧ record.header.isSensor = true ∧
      RecordHeader.ofBytes nextId bytes = .ok record.header := by
  rw [Record.ofBytes] at parsed
  -- Without a header there is no record either.
  cases read : RecordHeader.ofBytes nextId bytes with
  | error error =>
    simp only [read, Bind.bind, Except.bind] at parsed
    cases parsed
  | ok header =>
    simp only [read, Bind.bind, Except.bind] at parsed
    -- Neither of the two refusals can have been met.
    by_cases sensor : header.isSensor
    · by_cases short : bytes.length < 14
      · simp [sensor, short, MonadExcept.throw, throw, throwThe, MonadExceptOf.throw] at parsed
      · simp [sensor, short, Pure.pure, Except.pure] at parsed
        subst parsed
        exact ⟨by omega, sensor, rfl⟩
    · simp [sensor, MonadExcept.throw, throw, throwThe, MonadExceptOf.throw] at parsed

/-- A sensor that can be read has its header and all bytes up to its last field. -/
theorem Record.ofBytes_ok {nextId : UInt16} {bytes : Bytes} {record : Record}
    (parsed : Record.ofBytes nextId bytes = .ok record) :
    14 ≤ bytes.length ∧ record.header.id = bytes.wordAt 0 := by
  obtain ⟨enough, _, read⟩ := Record.ofBytes_sensor parsed
  exact ⟨enough, (RecordHeader.ofBytes_ok read).2⟩

/-- A record whose id is not zero has at least the bytes of its id. -/
theorem Stored.two_le_length {stored : Stored} (nonzero : stored.id ≠ 0) :
    2 ≤ stored.bytes.length := by
  -- Two bytes are there, or one of those of the id is missing.
  rcases Nat.lt_or_ge stored.bytes.length 2 with short | enough
  · -- An id that is cut off reads as zero.
    have cut : stored.bytes[1]? = none := List.getElem?_eq_none (by omega)
    exact absurd (by simp [Stored.id, Bytes.wordAt, Bytes.word?, cut]) nonzero
  · exact enough

namespace Walk

variable {walk : Walk} {contents : List Stored} {id : UInt16}
  {exchanges : List (Exchange controller)}

/-- A part that a truthful controller hands out agrees with the record of that name. -/
theorem readSlice_truthful {slice : Slice} {fetched : Fetched}
    (bounded : slice.offset + slice.count ≤ 255)
    (truthful : ∀ exchange ∈ exchanges,
      Truthful walk.repository contents walk.reservation exchange)
    (course : Course (walk.readSlice id slice).outcome exchanges (.ok fetched)) :
    fetched.bytes.length = slice.count ∧ ∃ stored, named? contents id = some stored ∧
      stored.bytes.Agrees slice.offset fetched.bytes := by
  -- The slice is one exchange, and what was fetched is the payload that it carries.
  obtain ⟨exchange, rfl, asked, carries⟩ := course_readSlice (by omega) course
  obtain ⟨payload, carried, rfl⟩ := (carries fetched).mp rfl
  -- Offset and count travel as bytes, which hold them without loss.
  have offsetByte : (UInt8.ofNat slice.offset).toNat = slice.offset := Bytes.toNat_byte (by omega)
  have countByte : (UInt8.ofNat slice.count).toNat = slice.count := Bytes.toNat_byte (by omega)
  have told := truthful exchange (by simp) id _ _ payload
    (asked.trans (sliceRequest_eq walk id slice)) (by rwa [countByte])
  rw [offsetByte, countByte] at told
  exact ⟨Bytes.length_slice carried.le_length, told⟩

/-- Slices that a truthful controller hands out agree with the record of that name. -/
theorem readSlices_truthful {page start stop : Nat} {parts : List Slice}
    (tiled : Tiles page start parts stop) (bounded : stop ≤ 255) :
    ∀ {exchanges : List (Exchange controller)} {fetched : List Fetched},
      (∀ exchange ∈ exchanges, Truthful walk.repository contents walk.reservation exchange) →
      Course (Attempt.outcome (parts.mapM (walk.readSlice id))) exchanges (.ok fetched) →
      (fetched.flatMap (·.bytes)).length = stop - start ∧
      (start < stop → ∃ stored, named? contents id = some stored) ∧
      ∀ stored, named? contents id = some stored →
        stored.bytes.Agrees start (fetched.flatMap (·.bytes)) := by
  -- Each slice agrees where it stands, and the rest goes on where it ends.
  induction tiled with
  -- Nothing is left to read, so there is nothing that could differ.
  | nil place =>
    intro exchanges fetched _ course
    obtain ⟨rfl, same⟩ := Attempt.course_pure_iff.mp course
    obtain rfl := Except.ok.inj same
    exact ⟨by simp, fun empty => absurd empty (by omega), fun _ _ => Bytes.agrees_nil _ _⟩
  -- The first slice and the rest are read one after another, each from its own exchanges.
  | @cons offset count stop rest positive fits tiled ih =>
    intro exchanges fetched truthful course
    have within := tiled.le
    rw [Attempt.course_mapM_cons_ok_iff] at course
    obtain ⟨first, head, others, tail, read, course, rfl, rfl⟩ := course
    have told : ∀ exchange ∈ first, Truthful walk.repository contents walk.reservation exchange :=
      fun exchange member => truthful exchange (by simp [member])
    obtain ⟨width, stored, named, agree⟩ := readSlice_truthful (by simp only; omega) told read
    obtain ⟨length, _, agrees⟩ := ih bounded
      (fun exchange member => truthful exchange (by simp [member])) course
    refine ⟨?_, fun _ => ⟨stored, named⟩, fun other otherNamed => ?_⟩
    -- The widths add up to what lies between the start and the end.
    · rw [List.flatMap_cons, List.length_append, width, length]
      simp only
      omega
    · -- Both parts were read under one name, so they are parts of one record.
      obtain rfl := Option.some.inj (named.symm.trans otherNamed)
      rw [List.flatMap_cons]
      exact agree.append (by rw [width]; exact agrees _ named)

/-- What a truthful controller hands out as the start of a record agrees with it. -/
theorem readBytes_truthful {total page : Nat} {fetched : Fetched} (nonempty : 0 < total)
    (bounded : total ≤ 255) (paged : 0 < page)
    (truthful : ∀ exchange ∈ exchanges,
      Truthful walk.repository contents walk.reservation exchange)
    (course : Course (walk.readBytes id total page).outcome exchanges (.ok fetched)) :
    fetched.bytes.length = total ∧ ∃ stored, named? contents id = some stored ∧
      stored.bytes.Agrees 0 fetched.bytes := by
  -- The bytes are those of the slices, put together without another exchange.
  rw [readBytes, Attempt.course_bind_ok_iff] at course
  obtain ⟨first, parts, rest, course, joined, rfl⟩ := course
  obtain ⟨rfl, same⟩ := Attempt.course_pure_iff.mp joined
  obtain rfl := Except.ok.inj same
  rw [List.append_nil] at truthful
  obtain ⟨length, known, agrees⟩ :=
    readSlices_truthful (slices_tile paged total) bounded truthful course
  -- There is something to read, so some part tells which record it is.
  obtain ⟨stored, named⟩ := known nonempty
  exact ⟨length, stored, named, agrees stored named⟩

/-- A header that a truthful controller hands out begins with the record's own id. -/
theorem readHeader_truthful {header : RecordHeader}
    (nonzero : ∀ stored ∈ contents, stored.id ≠ 0)
    (truthful : ∀ exchange ∈ exchanges,
      Truthful walk.repository contents walk.reservation exchange)
    (course : Course (walk.readHeader id).outcome exchanges (.ok header)) :
    ∃ stored, named? contents id = some stored ∧ header.id = stored.id := by
  -- The header is made of the first bytes of the record, which were fetched in one read.
  rw [readHeader, Attempt.course_bind_ok_iff] at course
  obtain ⟨first, fetched, rest, course, parsed, rfl⟩ := course
  obtain ⟨rfl, made⟩ := Attempt.course_lift_iff.mp parsed
  rw [List.append_nil] at truthful
  obtain ⟨length, stored, named, agree⟩ :=
    readBytes_truthful (by decide) (by decide) (by decide) truthful course
  -- The id stands in the first two bytes, which the record has as well.
  obtain ⟨reached, same⟩ := RecordHeader.ofBytes_ok made.symm
  have inside := Stored.two_le_length (nonzero stored (named?_mem named))
  rw [agree.wordAt_eq (by simp only [headerSize] at reached; omega) inside] at same
  exact ⟨stored, named, same⟩

/-- A sensor that a truthful controller hands out is that of a record that reaches its fields. -/
theorem readRecord_truthful {header : RecordHeader} {record : Record} (paged : 0 < walk.page)
    (nonzero : ∀ stored ∈ contents, stored.id ≠ 0)
    (truthful : ∀ exchange ∈ exchanges,
      Truthful walk.repository contents walk.reservation exchange)
    (course : Course (walk.readRecord id header).outcome exchanges (.ok record)) :
    14 ≤ header.readSize ∧
      ∃ stored, named? contents (if id = 0 then header.id else id) = some stored ∧
        record.header.id = stored.id := by
  -- The size that is read fits one byte, whatever length the header states.
  obtain ⟨nonempty, bounded⟩ := header.readSize_bounds
  rw [readRecord, Attempt.course_bind_ok_iff] at course
  obtain ⟨first, fetched, rest, course, parsed, rfl⟩ := course
  obtain ⟨rfl, made⟩ := Attempt.course_lift_iff.mp parsed
  rw [List.append_nil] at truthful
  obtain ⟨length, stored, named, agree⟩ :=
    readBytes_truthful nonempty bounded paged truthful course
  -- The record reaches its last field within the bytes that were read.
  obtain ⟨reached, same⟩ := Record.ofBytes_ok made.symm
  have inside := Stored.two_le_length (nonzero stored (named?_mem named))
  rw [agree.wordAt_eq (by omega) inside] at same
  exact ⟨by omega, stored, named, same⟩

/-- A part that is handed out lies within the record of that name. -/
theorem readSlice_withheld {slice : Slice} {fetched : Fetched}
    (bounded : slice.offset + slice.count ≤ 255)
    (withheld : ∀ exchange ∈ exchanges,
      Withholds walk.repository contents walk.reservation exchange)
    (course : Course (walk.readSlice id slice).outcome exchanges (.ok fetched)) :
    ∃ stored, named? contents id = some stored ∧
      slice.offset + slice.count ≤ stored.bytes.length := by
  -- The part was carried whole, which only happens within the record.
  obtain ⟨exchange, rfl, asked, carries⟩ := course_readSlice (by omega) course
  obtain ⟨payload, carried, rfl⟩ := (carries fetched).mp rfl
  have offsetByte : (UInt8.ofNat slice.offset).toNat = slice.offset := Bytes.toNat_byte (by omega)
  have countByte : (UInt8.ofNat slice.count).toNat = slice.count := Bytes.toNat_byte (by omega)
  have inside := withheld exchange (by simp) id _ _ payload
    (asked.trans (sliceRequest_eq walk id slice)) (by rwa [countByte])
  rwa [offsetByte, countByte] at inside

/-- Slices that are handed out all lie within the record of that name. -/
theorem readSlices_withheld {page start stop : Nat} {parts : List Slice}
    (tiled : Tiles page start parts stop) (bounded : stop ≤ 255) :
    ∀ {exchanges : List (Exchange controller)} {fetched : List Fetched},
      (∀ exchange ∈ exchanges, Withholds walk.repository contents walk.reservation exchange) →
      Course (Attempt.outcome (parts.mapM (walk.readSlice id))) exchanges (.ok fetched) →
      start < stop → ∃ stored, named? contents id = some stored ∧ stop ≤ stored.bytes.length := by
  -- The last slice decides: it ends where all of them end.
  induction tiled with
  -- Without a slice the end is where it started.
  | nil place =>
    intro exchanges fetched _ _ empty
    omega
  | @cons offset count stop rest positive fits tiled ih =>
    intro exchanges fetched withheld course _
    have within := tiled.le
    -- The first slice was read and then the others, each handed out on its own.
    rw [Attempt.course_mapM_cons_ok_iff] at course
    obtain ⟨first, head, others, tail, read, course, rfl, _⟩ := course
    -- Either there are more slices to come, or this one reaches the end.
    rcases Nat.lt_or_ge (offset + count) stop with more | ended
    · exact ih bounded (fun exchange member => withheld exchange (by simp [member])) course more
    · obtain ⟨stored, named, inside⟩ := readSlice_withheld (by simp only; omega)
        (fun exchange member => withheld exchange (by simp [member])) read
      simp only at inside
      exact ⟨stored, named, by omega⟩

/-- What is handed out as the start of a record lies within it. -/
theorem readBytes_withheld {total page : Nat} {fetched : Fetched} (nonempty : 0 < total)
    (bounded : total ≤ 255) (paged : 0 < page)
    (withheld : ∀ exchange ∈ exchanges,
      Withholds walk.repository contents walk.reservation exchange)
    (course : Course (walk.readBytes id total page).outcome exchanges (.ok fetched)) :
    ∃ stored, named? contents id = some stored ∧ total ≤ stored.bytes.length := by
  -- The slices tile the bytes, so the last of them reaches the end.
  rw [readBytes, Attempt.course_bind_ok_iff] at course
  obtain ⟨first, parts, rest, course, joined, rfl⟩ := course
  exact readSlices_withheld (slices_tile paged total) bounded
    (fun exchange member => withheld exchange (by simp [member])) course nonempty

/-- A header that is handed out lies within the record of that name. -/
theorem readHeader_withheld {header : RecordHeader}
    (withheld : ∀ exchange ∈ exchanges,
      Withholds walk.repository contents walk.reservation exchange)
    (course : Course (walk.readHeader id).outcome exchanges (.ok header)) :
    ∃ stored, named? contents id = some stored ∧ headerSize ≤ stored.bytes.length := by
  -- A header is read like any other bytes, from the start of the record.
  rw [readHeader, Attempt.course_bind_ok_iff] at course
  obtain ⟨first, fetched, rest, course, _, rfl⟩ := course
  exact readBytes_withheld (by decide) (by decide) (by decide)
    (fun exchange member => withheld exchange (by simp [member])) course

/-- A sensor's record that is handed out is there as far as it is read. -/
theorem readRecord_withheld {header : RecordHeader} {record : Record} (paged : 0 < walk.page)
    (withheld : ∀ exchange ∈ exchanges,
      Withholds walk.repository contents walk.reservation exchange)
    (course : Course (walk.readRecord id header).outcome exchanges (.ok record)) :
    ∃ stored, named? contents (if id = 0 then header.id else id) = some stored ∧
      header.readSize ≤ stored.bytes.length := by
  -- The size that is read fits one byte, whatever length the header states.
  obtain ⟨nonempty, bounded⟩ := header.readSize_bounds
  rw [readRecord, Attempt.course_bind_ok_iff] at course
  obtain ⟨first, fetched, rest, course, _, rfl⟩ := course
  exact readBytes_withheld nonempty bounded paged
    (fun exchange member => withheld exchange (by simp [member])) course

end Walk

end BmcTelemetry.Sensor
