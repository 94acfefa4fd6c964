import BmcTelemetry.Proofs.Sensor.Steps

/-!
Reading a record page by page into a buffer, whatever the controller answers.

Each page is asked for where the one before it ended. Its bytes are written into a buffer that holds
the link in front of the record, and no write reaches past the end of it.
-/

namespace BmcTelemetry

open Attempt (failureOf)
open Dialogue (Course)

namespace Sensor

/-- The part of a record that a request asks for. -/
def partOf (request : Request) : Slice where
  offset := (request.data.byteAt 6).toNat
  count := (request.data.byteAt 7).toNat

/-- A request for part of a record asks for the part that it was made for. -/
theorem partOf_partRequest (repository : Repository) (reservation id : UInt16)
    {place count : Nat} (offsetSmall : place ≤ 255) (countSmall : count ≤ 255) :
    partOf (repository.partRequest reservation id (UInt8.ofNat place) (UInt8.ofNat count))
      = ⟨place, count⟩ := by
  -- Place and count stand in the last two bytes of the request.
  obtain ⟨_, _, offset, size⟩ :=
    repository.partRequest_data reservation id (UInt8.ofNat place) (UInt8.ofNat count)
  rw [partOf, offset, size, Bytes.toNat_byte offsetSmall, Bytes.toNat_byte countSmall]

/-- What was fetched of a record, as it travels: the link in front of the bytes. -/
def Fetched.raw (fetched : Fetched) : Bytes :=
  Bytes.ofWord fetched.nextId ++ fetched.bytes

namespace Walk

/-- The buffer with one more page: its link in front, and its bytes at their place. -/
def writePage (buffer : Bytes) (place count : Nat) (payload : Bytes) : Bytes :=
  (buffer.patch 0 (payload.take 2)).patch (2 + place) (payload.slice 2 count)

/-- A page is asked for at the place that was reached, and not past the end of the record. -/
structure AsksPage (walk : Walk) (id : UInt16) (total page place count : Nat)
    (exchange : Exchange controller) : Prop where
  /-- The page holds something, and no more than a page may. -/
  sized : 0 < count ∧ count ≤ page
  /-- The page ends inside what is to be read. -/
  inside : place + count ≤ total
  /-- The page is asked for under the reservation of the walk. -/
  asked : exchange.request = walk.repository.partRequest walk.reservation id (UInt8.ofNat place)
    (UInt8.ofNat count)
  /-- The place and the size that are sent are the ones that are meant. -/
  exact : partOf exchange.request = ⟨place, count⟩

/-- The exchanges that fill a buffer from a place on, and the full buffer, or why it stays short. -/
inductive Fills (walk : Walk) (id : UInt16) (total page : Nat) :
    Nat → Bytes → List (Exchange controller) → Except IpmiError Bytes → Prop
  /-- There is nothing left to read. -/
  | full (buffer : Bytes) : Fills walk id total page total buffer [] (.ok buffer)
  /-- A page that fails is the last one. -/
  | failed {place count : Nat} {buffer : Bytes} {exchange : Exchange controller}
      {error : IpmiError} (asks : walk.AsksPage id total page place count exchange)
      (failed : walk.repository.failure? exchange = some error) :
      Fills walk id total page place buffer [exchange] (.error error)
  /-- Any other page is written where it belongs, and the next one follows it. -/
  | page {place count : Nat} {buffer payload : Bytes} {exchange : Exchange controller}
      {others : List (Exchange controller)} {result : Except IpmiError Bytes}
      (asks : walk.AsksPage id total page place count exchange)
      (carries : exchange.Carries (2 + count) payload)
      (room : 2 + (place + count) ≤ buffer.length)
      (onward : Fills walk id total page (place + count) (writePage buffer place count payload)
        others result) :
      Fills walk id total page place buffer (exchange :: others) result

variable {walk : Walk} {id : UInt16} {total page : Nat} {exchanges : List (Exchange controller)}

/-- A page that is written replaces the link and its own place, and nothing else. -/
theorem writePage_eq {buffer payload : Bytes} {place count : Nat}
    (room : 2 + (place + count) ≤ buffer.length) (enough : 2 + count ≤ payload.length) :
    writePage buffer place count payload = payload.take 2 ++ (buffer.drop 2).take place
      ++ payload.slice 2 count ++ buffer.drop (2 + (place + count)) := by
  have link : (payload.take 2).length = 2 := by
    rw [List.length_take]
    omega
  have own : (payload.slice 2 count).length = count := Bytes.length_slice enough
  have linked : buffer.patch 0 (payload.take 2) = payload.take 2 ++ buffer.drop 2 := by
    rw [Bytes.patch_of_inside (by omega), link]
    rfl
  -- The bytes of the page are patched into what has the link in front by now.
  rw [writePage, linked, Bytes.patch_of_inside (by
    rw [List.length_append, List.length_drop, link, own]
    omega), own]
  -- The place of the page is counted from behind the link.
  have before : (payload.take 2 ++ buffer.drop 2).take (2 + place)
      = payload.take 2 ++ (buffer.drop 2).take place := by
    rw [List.take_append, link, List.take_of_length_le (by omega), Nat.add_sub_cancel_left]
  have behind : (payload.take 2 ++ buffer.drop 2).drop (2 + place + count)
      = buffer.drop (2 + (place + count)) := by
    rw [List.drop_append, link, List.drop_eq_nil_of_le (by omega), List.nil_append, List.drop_drop]
    congr 1
    omega
  rw [before, behind]

/-- Writing a page never changes the size of the buffer. -/
theorem length_writePage {buffer payload : Bytes} {place count : Nat}
    (room : 2 + (place + count) ≤ buffer.length) (enough : 2 + count ≤ payload.length) :
    (writePage buffer place count payload).length = buffer.length := by
  have own : (payload.slice 2 count).length = count := Bytes.length_slice enough
  -- Four parts make up the buffer, and their lengths add up to what it was.
  rw [writePage_eq room enough]
  simp only [List.length_append, List.length_take, List.length_drop, own]
  omega

/-- The link that is written comes with the page. -/
theorem take_writePage {buffer payload : Bytes} {place count : Nat}
    (room : 2 + (place + count) ≤ buffer.length) (enough : 2 + count ≤ payload.length) :
    (writePage buffer place count payload).take 2 = Bytes.ofWord (payload.wordAt 0) := by
  have link : (payload.take 2).length = 2 := by
    rw [List.length_take]
    omega
  -- The link is the first of the four parts.
  rw [writePage_eq room enough, List.append_assoc, List.append_assoc,
    List.take_append_of_le_length (by omega), List.take_of_length_le (by omega),
    Bytes.ofWord_wordAt (by omega)]

/-- What was read so far grows by the bytes of the page. -/
theorem read_writePage {buffer payload : Bytes} {place count : Nat}
    (room : 2 + (place + count) ≤ buffer.length) (enough : 2 + count ≤ payload.length) :
    ((writePage buffer place count payload).drop 2).take (place + count)
      = (buffer.drop 2).take place ++ payload.slice 2 count := by
  have own : (payload.slice 2 count).length = count := Bytes.length_slice enough
  have link : (payload.take 2).length = 2 := by
    rw [List.length_take]
    omega
  have before : ((buffer.drop 2).take place).length = place := by
    rw [List.length_take, List.length_drop]
    omega
  -- Behind the link come the bytes read before, those of the page, and what is left to fill.
  rw [writePage_eq room enough, List.append_assoc, List.append_assoc, List.drop_left' link,
    ← List.append_assoc, List.take_left']
  rw [List.length_append, before, own]

/-- Reading a page is one exchange that asks for it, and ends with its error or with the page. -/
theorem course_page {place count : Nat} {result : Except IpmiError Fetched}
    (sized : 0 < count ∧ count ≤ page) (inside : place + count ≤ total) (bounded : total ≤ 255)
    (course : Course (walk.readSlice id ⟨place, count⟩).outcome exchanges result) :
    ∃ exchange, exchanges = [exchange] ∧ walk.AsksPage id total page place count exchange ∧
      ((∃ error, walk.repository.failure? exchange = some error ∧ result = .error error) ∨
        ∃ payload, exchange.Carries (2 + count) payload ∧
          result = .ok ⟨payload.wordAt 0, payload.slice 2 count⟩) := by
  have asks : ∀ reply, walk.AsksPage id total page place count
      ⟨walk.sliceRequest id ⟨place, count⟩, reply⟩ := fun reply => by
    -- The end of the part fits into a byte, and so do its place and its size.
    refine ⟨sized, inside, sliceRequest_eq walk id _, ?_⟩
    change partOf (walk.sliceRequest id ⟨place, count⟩) = _
    rw [sliceRequest_eq]
    exact partOf_partRequest _ _ _ (show place ≤ 255 by omega) (show count ≤ 255 by omega)
  rw [readSlice, if_neg (show ¬ 255 < place by omega), Attempt.course_bind_iff] at course
  -- The fetch failed with its exchange, or it brought the payload of the page.
  rcases course with ⟨error, fetched, rfl⟩ | ⟨first, payload, rest, fetched, read, rfl⟩
  · obtain ⟨reply, rfl, made⟩ := Controller.course_fetch_iff.mp fetched
    refine ⟨_, rfl, asks reply, .inl ⟨error, ?_, rfl⟩⟩
    rw [walk.failure?_sliceRequest id (show count ≤ 255 by omega), ← made]
    rfl
  -- The payload is what the exchange carries, which is enough for the link and the page.
  · obtain ⟨exchange, rfl, asked, carries⟩ := Controller.course_fetch fetched
    obtain ⟨rfl, rfl⟩ := Attempt.course_pure_iff.mp read
    obtain ⟨request, reply⟩ := exchange
    obtain rfl : request = _ := asked
    exact ⟨_, rfl, asks reply, .inr ⟨payload, (carries payload).mp rfl, rfl⟩⟩

/-- The bytes in a buffer of which some pages were read, once the others are written as well. -/
def joined (buffer : Bytes) (place : Nat) (parts : List Fetched) : Bytes :=
  (parts.getLast?.map fun last => Bytes.ofWord last.nextId).getD (buffer.take 2)
    ++ (buffer.drop 2).take place ++ parts.flatMap (·.bytes)

/-- Writing the first of the pages first makes no difference. -/
theorem joined_writePage {buffer payload : Bytes} {place count : Nat}
    (room : 2 + (place + count) ≤ buffer.length) (enough : 2 + count ≤ payload.length)
    (parts : List Fetched) :
    joined (writePage buffer place count payload) (place + count) parts
      = joined buffer place (⟨payload.wordAt 0, payload.slice 2 count⟩ :: parts) := by
  -- The link comes from the payload, and what was read has grown by its bytes.
  rw [joined, joined, take_writePage room enough, read_writePage room enough, List.getLast?_cons,
    List.flatMap_cons]
  -- The last link is the same, be it that of the first page or that of a later one.
  cases parts.getLast? <;> simp

/-- Pages that tile the rest of a record fill the buffer from where the rest begins. -/
theorem fills_of_tiles {start : Nat} {parts : List Slice} (tiled : Tiles page start parts total)
    (bounded : total ≤ 255) {buffer : Bytes} (sized : buffer.length = total + 2)
    {result : Except IpmiError (List Fetched)}
    (course : Course (Attempt.outcome (parts.mapM (walk.readSlice id))) exchanges result) :
    walk.Fills id total page start buffer exchanges (result.map (joined buffer start)) := by
  -- Every page is the first one of those that are left.
  induction tiled generalizing buffer exchanges result with
  -- The place is the end, so the whole buffer was read.
  | nil place =>
    obtain ⟨rfl, rfl⟩ := Attempt.course_pure_iff.mp course
    have rest : (buffer.drop 2).take place = buffer.drop 2 :=
      List.take_of_length_le (by rw [List.length_drop]; omega)
    have whole : joined buffer place [] = buffer := by
      rw [joined, rest, List.flatMap_nil, List.append_nil]
      exact List.take_append_drop 2 buffer
    change walk.Fills id place page place buffer [] (.ok (joined buffer place []))
    rw [whole]
    exact .full buffer
  | @cons offset count total rest positive fits tiled ih =>
    have within := tiled.le
    -- The first page fails, or it is read and the others follow.
    rcases Attempt.course_mapM_cons_iff.mp course with ⟨error, read, rfl⟩ |
      ⟨first, part, others, remaining, read, onward, rfl, rfl⟩
    -- A page that fails ends the filling with its error.
    · obtain ⟨exchange, rfl, asks, outcome⟩ := course_page ⟨positive, fits⟩ within bounded read
      rcases outcome with ⟨reason, failed, same⟩ | ⟨_, _, same⟩
      · cases same
        exact .failed asks failed
      · cases same
    -- The page is written, and the rest fills the buffer from behind it.
    · obtain ⟨exchange, rfl, asks, outcome⟩ := course_page ⟨positive, fits⟩ within bounded read
      rcases outcome with ⟨_, _, same⟩ | ⟨payload, carries, same⟩
      · cases same
      · cases same
        have room : 2 + (offset + count) ≤ buffer.length := by omega
        have enough := carries.le_length
        have filled := ih bounded ((length_writePage room enough).trans sized) onward
        refine .page asks carries room ?_
        -- The rest may have failed as well, or the pages are put together.
        cases remaining with
        | error error => exact filled
        | ok parts =>
          change walk.Fills id total page _ _ _ (.ok _) at filled ⊢
          rw [joined_writePage room enough] at filled
          exact filled

/-- Every course of a read fills a buffer for the record and its link, from the start on. -/
theorem fills_of_course (paged : 0 < page) (bounded : total ≤ 255)
    {fetched : Except IpmiError Fetched}
    (course : Course (walk.readBytes id total page).outcome exchanges fetched) :
    walk.Fills id total page 0 (List.replicate (total + 2) 0) exchanges
      (fetched.map Fetched.raw) := by
  have tiled := slices_tile paged total
  have sized : (List.replicate (total + 2) (0 : UInt8)).length = total + 2 :=
    List.length_replicate
  rw [readBytes, Attempt.course_bind_iff] at course
  -- Either the read of the pages failed, or putting them together was all that was left.
  rcases course with ⟨error, read, rfl⟩ | ⟨first, parts, rest, read, ended, rfl⟩
  · exact fills_of_tiles tiled bounded sized read
  · obtain ⟨rfl, rfl⟩ := Attempt.course_pure_iff.mp ended
    have filled := fills_of_tiles tiled bounded sized read
    rw [List.append_nil]
    -- Without any page, the link is as empty as the buffer.
    have empty : (List.replicate (total + 2) (0 : UInt8)).take 2 = Bytes.ofWord 0 := by
      simp [List.take_replicate, Bytes.ofWord]
    have same : joined (List.replicate (total + 2) 0) 0 parts = Fetched.raw
        ⟨(parts.getLast?.map (·.nextId)).getD 0, parts.flatMap (·.bytes)⟩ := by
      rw [joined, Fetched.raw, List.take_zero, List.append_nil, empty]
      cases parts.getLast? <;> rfl
    change walk.Fills id total page _ _ _ (.ok _) at filled ⊢
    rwa [same] at filled

section Fills

variable {place : Nat} {buffer : Bytes} {result : Except IpmiError Bytes}

/-- Every exchange asks for a page. -/
theorem Fills.asks (fills : walk.Fills id total page place buffer exchanges result) :
    ∀ exchange ∈ exchanges, ∃ place count, walk.AsksPage id total page place count exchange := by
  -- Each step asks for its own page.
  induction fills with
  | full => simp
  | failed asks => simpa using ⟨_, _, asks⟩
  | page asks _ _ _ ih => simpa using ⟨⟨_, _, asks⟩, ih⟩

/-- The pages follow one another without gap or overlap, up to the end unless one of them fails. -/
theorem Fills.tiles (fills : walk.Fills id total page place buffer exchanges result)
    (begins : place ≤ total) :
    ∃ stop ≤ total, Tiles page place (exchanges.map fun exchange => partOf exchange.request) stop ∧
      ∀ filled, result = .ok filled → stop = total := by
  -- A page that fails was asked for all the same, so the parts stop behind it.
  induction fills with
  | full => exact ⟨total, Nat.le_refl total, .nil total, fun _ _ => rfl⟩
  | @failed place count _ exchange _ asks failed =>
    refine ⟨place + count, asks.inside, ?_, nofun⟩
    rw [List.map_singleton, asks.exact]
    exact .cons asks.sized.1 asks.sized.2 (.nil _)
  -- The page is one more part, in front of those that tile the rest.
  | page asks _ _ _ ih =>
    obtain ⟨stop, inside, tiled, ended⟩ := ih asks.inside
    refine ⟨stop, inside, ?_, ended⟩
    rw [List.map_cons, asks.exact]
    exact .cons asks.sized.1 asks.sized.2 tiled

/-- A read that fails does so for its last exchange. -/
theorem Fills.last_failed {error : IpmiError}
    (fills : walk.Fills id total page place buffer exchanges result)
    (ended : result = .error error) :
    ∃ last, exchanges.getLast? = some last ∧ walk.repository.failure? last = some error := by
  -- Only a page that fails ends the filling with an error.
  induction fills with
  | full => cases ended
  | failed asks failed =>
    cases ended
    exact ⟨_, rfl, failed⟩
  -- The error comes from the pages behind this one, so their last exchange is the last of all.
  | page _ _ _ _ ih =>
    obtain ⟨last, found, failed⟩ := ih ended
    exact ⟨last, by rw [List.getLast?_cons, found]; rfl, failed⟩

/-- The buffer keeps its size. -/
theorem Fills.length_eq {filled : Bytes}
    (fills : walk.Fills id total page place buffer exchanges result)
    (ended : result = .ok filled) : filled.length = buffer.length := by
  -- Each page is written inside the buffer, which does not grow by it.
  induction fills with
  | full => rw [Except.ok.inj ended]
  | failed => cases ended
  | page _ carries room _ ih => rw [ih ended, length_writePage room carries.le_length]

end Fills

/-- The exchanges of one read of a record: page after page, until one fails or all are read. -/
structure PageRun (walk : Walk) (id : UInt16) (total page : Nat)
    (exchanges : List (Exchange controller)) (fetched : Except IpmiError Fetched) : Prop where
  /-- Every request asks for a part of this record, under the reservation of the walk. -/
  asked : ∀ exchange ∈ exchanges, ∃ offset count : UInt8, exchange.request
    = walk.repository.partRequest walk.reservation id offset count
  /-- The parts follow one another from the first byte on; only a failure cuts them short. -/
  tiled : ∃ stop ≤ total, Tiles page 0 (exchanges.map fun exchange => partOf exchange.request) stop ∧
    ∀ value, fetched = .ok value → stop = total
  /-- Offset and count are told exactly by a byte each, and so is the end of the part. -/
  addressed : ∀ exchange ∈ exchanges,
    (partOf exchange.request).offset + (partOf exchange.request).count ≤ total ∧ total ≤ 255
  /-- Each page is written inside a buffer for the link and the bytes, which end up filled. -/
  fills : walk.Fills id total page 0 (List.replicate (total + 2) 0) exchanges
    (fetched.map Fetched.raw)
  /-- As many bytes are fetched as were to be read. -/
  sized : ∀ value, fetched = .ok value → value.bytes.length = total
  /-- A read that fails does so for its last exchange. -/
  cut : ∀ error, fetched = .error error →
    ∃ last, exchanges.getLast? = some last ∧ walk.repository.failure? last = some error
  /-- No page is asked for after one that fails. -/
  silent : EndsAtFailure walk.repository.failure? exchanges (failureOf fetched)

/-- Every course of a read goes from page to page. -/
theorem pageRun_of_course (paged : 0 < page) (bounded : total ≤ 255)
    {fetched : Except IpmiError Fetched}
    (course : Course (walk.readBytes id total page).outcome exchanges fetched) :
    walk.PageRun id total page exchanges fetched := by
  have fills := fills_of_course paged bounded course
  refine {
    asked := fun exchange member => ?_
    tiled := ?_
    addressed := fun exchange member => ?_
    fills := fills
    sized := ?_
    cut := ?_
    silent := walk.heeds_readBytes id page bounded _ _ course }
  -- Each exchange asks for a page, by its place and its size.
  · obtain ⟨place, count, asks⟩ := fills.asks exchange member
    exact ⟨_, _, asks.asked⟩
  -- The parts tile what was read, which is all of it unless the read failed.
  · obtain ⟨stop, inside, tiled, ended⟩ := fills.tiles (Nat.zero_le total)
    refine ⟨stop, inside, tiled, ?_⟩
    rintro value rfl
    exact ended value.raw rfl
  -- The page ends inside the record, whose size fits one byte.
  · obtain ⟨place, count, asks⟩ := fills.asks exchange member
    rw [asks.exact]
    exact ⟨asks.inside, bounded⟩
  · rintro value rfl
    -- The link takes the two bytes by which the buffer is larger.
    have whole := fills.length_eq rfl
    rw [Fetched.raw, List.length_append, Bytes.length_ofWord, List.length_replicate] at whole
    omega
  -- The filling ended with the error, so its last exchange failed with it.
  · rintro error rfl
    exact fills.last_failed rfl

end Walk

end Sensor

end BmcTelemetry
