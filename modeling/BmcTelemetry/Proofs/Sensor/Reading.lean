import BmcTelemetry.Proofs.Sensor.Stored

/-! Reading a record in slices: what the parts of a served record add up to. -/

namespace BmcTelemetry.Sensor.Walk

open Dialogue (Course)

variable {walk : Walk} {contents : List Stored} {id : UInt16} {stored : Stored}
  {exchanges : List (Exchange controller)}

/-- A read asks for its part under the reservation of the walk. -/
theorem sliceRequest_eq (walk : Walk) (id : UInt16) (slice : Slice) :
    walk.sliceRequest id slice = walk.repository.partRequest walk.reservation id
      (UInt8.ofNat slice.offset) (UInt8.ofNat slice.count) := by
  obtain ⟨repository, reservation, page⟩ := walk
  -- Both commands stand in front of the same words and bytes.
  cases repository <;> rfl

/-- Reading part of a record is one exchange, which has to carry the link and the whole part. -/
theorem course_readSlice {slice : Slice} {result : Except IpmiError Fetched}
    (reachable : slice.offset ≤ 255)
    (course : Course (walk.readSlice id slice).outcome exchanges result) :
    ∃ exchange : Exchange controller, exchanges = [exchange] ∧
      exchange.request = walk.sliceRequest id slice ∧
      ∀ fetched, result = .ok fetched ↔ ∃ payload, exchange.Carries (2 + slice.count) payload ∧
        fetched = ⟨payload.wordAt 0, payload.slice 2 slice.count⟩ := by
  rw [readSlice, if_neg (by omega), Attempt.course_bind_iff] at course
  rcases course with ⟨error, fetched, rfl⟩ | ⟨first, payload, rest, fetched, read, rfl⟩
  · -- The payload is not there or too short, and nothing is read.
    obtain ⟨exchange, rfl, asked, carries⟩ := Controller.course_fetch fetched
    refine ⟨exchange, rfl, asked, fun fetched => ?_⟩
    simp [← carries]
  -- The payload is there, and the part is cut out of it.
  · obtain ⟨exchange, rfl, asked, carries⟩ := Controller.course_fetch fetched
    obtain ⟨rfl, rfl⟩ := Attempt.course_pure_iff.mp read
    refine ⟨exchange, rfl, asked, fun fetched => ?_⟩
    simp only [← carries, Except.ok.injEq, exists_eq_left', eq_comm]

/-- A part inside a record that is handed out is read as it is stored. -/
theorem readSlice_handsOut {slice : Slice} {result : Except IpmiError Fetched}
    (named : named? contents id = some stored)
    (inside : slice.offset + slice.count ≤ stored.bytes.length)
    (bounded : slice.offset + slice.count ≤ 255)
    (fair : ∀ exchange ∈ exchanges,
      HandsOut walk.repository contents walk.reservation exchange)
    (course : Course (walk.readSlice id slice).outcome exchanges result) :
    result = .ok ⟨stored.nextId, stored.bytes.slice slice.offset slice.count⟩ ∧
      exchanges.map (·.request) = [walk.sliceRequest id slice] := by
  obtain ⟨exchange, rfl, asked, carries⟩ := course_readSlice (by omega) course
  refine ⟨?_, by simp [asked]⟩
  -- Offset and count travel as bytes, which hold them without loss.
  have offsetByte : (UInt8.ofNat slice.offset).toNat = slice.offset := Bytes.toNat_byte (by omega)
  have countByte : (UInt8.ofNat slice.count).toNat = slice.count := Bytes.toNat_byte (by omega)
  have handed := (fair exchange (by simp)).part id _ _ stored
    (asked.trans (sliceRequest_eq walk id slice)) named (by omega)
  rw [offsetByte, countByte] at handed
  obtain ⟨valid, answered, _⟩ := handed
  refine (carries _).mpr ⟨_, ⟨valid, answered, ?_⟩, ?_⟩
  -- The payload is as long as the link and the part together.
  · exact Nat.le_of_eq (by rw [List.length_append, Bytes.length_ofWord, Bytes.length_slice inside])
  -- The link is read back from its two bytes, and the part from those behind it.
  · rw [Bytes.wordAt_ofWord, Bytes.slice_ofWord_append,
      List.take_of_length_le (Nat.le_of_eq (Bytes.length_slice inside))]

/-- Slices that tile part of a record are read as they are stored, one request each. -/
theorem readSlices_handsOut {page start stop : Nat} {parts : List Slice}
    (tiled : Tiles page start parts stop) (named : named? contents id = some stored)
    (inside : stop ≤ stored.bytes.length) (bounded : stop ≤ 255) :
    ∀ {exchanges : List (Exchange controller)} {result : Except IpmiError (List Fetched)},
      (∀ exchange ∈ exchanges, HandsOut walk.repository contents walk.reservation exchange) →
      Course (Attempt.outcome (parts.mapM (walk.readSlice id))) exchanges result →
      result = .ok (parts.map fun slice =>
        ⟨stored.nextId, stored.bytes.slice slice.offset slice.count⟩) ∧
      exchanges.map (·.request) = parts.map (walk.sliceRequest id) := by
  -- Each slice is read by an exchange of its own, in the order of the tiling.
  induction tiled with
  -- No slices take no exchanges, and there is nothing to read.
  | nil =>
    intro exchanges result _ course
    obtain ⟨rfl, rfl⟩ := Attempt.course_pure_iff.mp course
    exact ⟨rfl, rfl⟩
  | @cons offset count stop rest positive fits tiled ih =>
    intro exchanges result fair course
    have within := tiled.le
    rw [Attempt.course_mapM_cons_iff] at course
    rcases course with ⟨error, course, rfl⟩ | ⟨first, fetched, others, remaining, course, onward,
      rfl, rfl⟩
    -- The read of the first slice fails, or the others are read after it.
    · -- The part lies within the record, so reading it does not fail.
      obtain ⟨read, _⟩ := readSlice_handsOut named (by simp only; omega) (by simp only; omega)
        fair course
      cases read
    -- The first slice is read as it is stored, and so are the others.
    · obtain ⟨read, asked⟩ := readSlice_handsOut named (by simp only; omega) (by simp only; omega)
        (fun exchange member => fair exchange (by simp [member])) course
      obtain rfl := Except.ok.inj read
      obtain ⟨rfl, askedRest⟩ := ih inside bounded
        (fun exchange member => fair exchange (by simp [member])) onward
      exact ⟨rfl, by simp [asked, askedRest]⟩

/-- Slices that tile part of a record hold the bytes between their ends. -/
theorem flatMap_slices {page start stop : Nat} {parts : List Slice}
    (tiled : Tiles page start parts stop) (data : Bytes) :
    parts.flatMap (fun slice => data.slice slice.offset slice.count)
      = data.slice start (stop - start) := by
  -- Each slice ends where the rest of them starts.
  induction tiled with
  | nil => simp [Bytes.slice]
  | @cons offset count stop rest positive fits tiled ih =>
    have within := tiled.le
    -- A slice and the bytes behind it make up one longer slice.
    rw [List.flatMap_cons, ih, Bytes.slice_append_slice,
      show count + (stop - (offset + count)) = stop - offset by omega]

/-- The first bytes of a record that is handed out are read as they are stored. -/
theorem readBytes_handsOut {total page : Nat} {result : Except IpmiError Fetched}
    (named : named? contents id = some stored) (nonempty : 0 < total) (paged : 0 < page)
    (inside : total ≤ stored.bytes.length) (bounded : total ≤ 255)
    (fair : ∀ exchange ∈ exchanges,
      HandsOut walk.repository contents walk.reservation exchange)
    (course : Course (walk.readBytes id total page).outcome exchanges result) :
    result = .ok ⟨stored.nextId, stored.bytes.take total⟩ ∧
      exchanges.map (·.request) = (slices total page).map (walk.sliceRequest id) := by
  have tiled := slices_tile paged total
  rw [readBytes, Attempt.course_bind_iff] at course
  -- The slices could not be read, or what was read of them is put together.
  rcases course with ⟨error, course, rfl⟩ | ⟨first, fetched, rest, course, joined, rfl⟩
  · cases (readSlices_handsOut tiled named inside bounded fair course).1
  · obtain ⟨read, asked⟩ := readSlices_handsOut tiled named inside bounded
      (fun exchange member => fair exchange (by simp [member])) course
    obtain rfl := Except.ok.inj read
    obtain ⟨rfl, rfl⟩ := Attempt.course_pure_iff.mp joined
    refine ⟨?_, by simpa using asked⟩
    -- Every part carries the same link, and there is a last one, as the total is not zero.
    obtain ⟨others, last, split⟩ : ∃ others last, slices total page = others ++ [last] := by
      rcases List.eq_nil_or_concat (slices total page) with empty | ⟨others, last, split⟩
      · rw [empty] at tiled
        cases tiled
        omega
      · exact ⟨others, last, split.trans List.concat_eq_append⟩
    have joined := flatMap_slices tiled stored.bytes
    simp only [Nat.sub_zero, Bytes.slice, List.drop_zero] at joined
    rw [List.flatMap_map]
    simp only [Bytes.slice, joined, Except.ok.injEq, Fetched.mk.injEq, and_true]
    simp [split]

/-- Bytes that agree with a record and reach its header's end give its header. -/
theorem header_of_agrees {bytes : Bytes} (agree : stored.bytes.Agrees 0 bytes)
    (reached : headerSize ≤ bytes.length) (inside : headerSize ≤ stored.bytes.length) :
    RecordHeader.ofBytes stored.nextId bytes = .ok stored.header := by
  -- The header has five bytes, which are compared one field after the other.
  simp only [headerSize] at reached inside
  -- Every field of the header lies where the bytes agree.
  rw [RecordHeader.ofBytes, if_neg (by simp only [headerSize]; omega),
    agree.wordAt_eq (by omega) (by omega), agree.byteAt_eq (by omega) (by omega),
    agree.byteAt_eq (by omega) (by omega), agree.byteAt_eq (by omega) (by omega)]
  rfl

/-- Bytes that agree with a sensor's record and reach its last field give the sensor. -/
theorem record_of_agrees {bytes : Bytes} (agree : stored.bytes.Agrees 0 bytes)
    (reached : 14 ≤ bytes.length) (inside : 14 ≤ stored.bytes.length)
    (sensor : stored.header.isSensor) :
    Record.ofBytes stored.nextId bytes = .ok stored.record := by
  -- Neither refusal applies, and every field lies where the bytes agree.
  have header := header_of_agrees agree (by simp only [headerSize]; omega)
    (by simp only [headerSize]; omega)
  simp only [Record.ofBytes, header, Bind.bind, Except.bind, sensor, Bool.not_true,
    Bool.false_eq_true, if_false, if_neg (show ¬ bytes.length < 14 by omega),
    agree.byteAt_eq (show 7 < bytes.length by omega) (by omega),
    agree.byteAt_eq (show 12 < bytes.length by omega) (by omega),
    agree.byteAt_eq (show 13 < bytes.length by omega) (by omega)]
  rfl

/-- The header of a record that is handed out is read as it is stored. -/
theorem readHeader_handsOut {result : Except IpmiError RecordHeader}
    (named : named? contents id = some stored) (hasHeader : headerSize ≤ stored.bytes.length)
    (fair : ∀ exchange ∈ exchanges,
      HandsOut walk.repository contents walk.reservation exchange)
    (course : Course (walk.readHeader id).outcome exchanges result) :
    result = .ok stored.header ∧
      exchanges.map (·.request) = [walk.sliceRequest id ⟨0, headerSize⟩] := by
  -- A header fits on one page, so it takes a single request.
  have single : slices headerSize defaultPage = [⟨0, headerSize⟩] :=
    slices_single (by decide) (by decide)
  rw [readHeader, Attempt.course_bind_iff] at course
  -- The bytes could not be read, or they are parsed as a header.
  rcases course with ⟨error, course, rfl⟩ | ⟨first, fetched, rest, course, parsed, rfl⟩
  · cases (readBytes_handsOut named (by decide) (by decide) hasHeader (by decide) fair course).1
  · obtain ⟨rfl, rfl⟩ := Attempt.course_lift_iff.mp parsed
    rw [List.append_nil] at fair ⊢
    obtain ⟨read, asked⟩ :=
      readBytes_handsOut named (by decide) (by decide) hasHeader (by decide) fair course
    obtain rfl := Except.ok.inj read
    refine ⟨header_of_agrees (Bytes.agrees_take _ _) ?_ hasHeader, by rw [asked, single]; rfl⟩
    rw [List.length_take]
    omega

/-- A sensor's record that is handed out is read as it is stored, by its own id. -/
theorem readRecord_handsOut {result : Except IpmiError Record}
    (named : named? contents stored.id = some stored) (readable : stored.Readable)
    (sensor : stored.header.isSensor) (paged : 0 < walk.page) (known : id = 0 ∨ id = stored.id)
    (fair : ∀ exchange ∈ exchanges,
      HandsOut walk.repository contents walk.reservation exchange)
    (course : Course (walk.readRecord id stored.header).outcome exchanges result) :
    result = .ok stored.record ∧ exchanges.map (·.request)
      = (slices stored.header.readSize walk.page).map (walk.sliceRequest stored.id) := by
  have present := readable.present sensor
  have reaches := readable.reaches sensor
  have bounded := stored.header.readSize_bounds.2
  rw [readRecord, Stored.bodyId_eq known, Attempt.course_bind_iff] at course
  -- The bytes could not be read, or they are parsed as the record of a sensor.
  rcases course with ⟨error, course, rfl⟩ | ⟨first, fetched, rest, course, parsed, rfl⟩
  · cases (readBytes_handsOut named (by omega) paged present bounded fair course).1
  · obtain ⟨rfl, rfl⟩ := Attempt.course_lift_iff.mp parsed
    rw [List.append_nil] at fair ⊢
    obtain ⟨read, asked⟩ := readBytes_handsOut named (by omega) paged present bounded fair course
    obtain rfl := Except.ok.inj read
    -- All fields lie inside the bytes that were read, which agree with the record.
    refine ⟨record_of_agrees (Bytes.agrees_take _ _) ?_ (by omega) sensor, asked⟩
    rw [List.length_take]
    omega

end BmcTelemetry.Sensor.Walk
