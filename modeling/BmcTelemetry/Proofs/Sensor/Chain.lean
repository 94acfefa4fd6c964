import BmcTelemetry.Proofs.Sensor.Reading
import BmcTelemetry.Proofs.Sensor.Visits

/-! Chains: a well-formed repository is scanned from its first record to its last. -/

namespace BmcTelemetry.Sensor

open Dialogue (Course)

/-- Each record links to the one after it, and the last one to none. -/
def Linked : List Stored → Prop
  | [] => True
  | [last] => last.nextId = lastId
  | stored :: next :: rest => stored.nextId = next.id ∧ Linked (next :: rest)

/-- A chain of records that states its ids, its lengths and its links truly. -/
structure WellFormed (contents : List Stored) : Prop where
  /-- There is a first record. -/
  nonempty : contents ≠ []
  /-- No two records share an id. -/
  distinct : (contents.map Stored.id).Nodup
  /-- No record is named by the mark of the last link. -/
  named : ∀ stored ∈ contents, stored.id ≠ lastId
  /-- Only the first record may be named by zero. -/
  nonzero : ∀ stored ∈ contents.tail, stored.id ≠ 0
  /-- Every record is sound. -/
  sound : ∀ stored ∈ contents, stored.Sound
  /-- The links lead from each record to the next. -/
  linked : Linked contents

/-- A record is known by its own id. -/
theorem WellFormed.named?_id {contents : List Stored} (wellFormed : WellFormed contents)
    {stored : Stored} (member : stored ∈ contents) : named? contents stored.id = some stored := by
  obtain ⟨first, rest, rfl⟩ := List.exists_cons_of_ne_nil wellFormed.nonempty
  by_cases zero : stored.id = 0
  · -- Zero is the id of no later record.
    have head : stored = first := by
      rcases List.mem_cons.mp member with same | later
      · exact same
      · exact absurd zero (wellFormed.nonzero stored later)
    rw [named?, if_pos zero, head]
    rfl
  -- Any other id is searched for, and the records in front of this one have others.
  · rw [named?, if_neg zero, List.find?_eq_some_iff_append]
    obtain ⟨before, after, split⟩ := List.append_of_mem member
    refine ⟨by simp, before, after, split, fun other earlier => ?_⟩
    have distinct := wellFormed.distinct
    rw [split, List.map_append, List.map_cons, List.nodup_append] at distinct
    -- No two ids are the same, so none of those in front is this one.
    simpa using distinct.2.2 other.id (List.mem_map_of_mem earlier) stored.id (by simp)

/-- The rest of a chain lies ahead of a walk, which knows its first record under a name. -/
structure Ahead (contents : List Stored) (visited : List UInt16) (name : UInt16)
    (first : Stored) (rest : List Stored) : Prop where
  /-- All of it is stored. -/
  stored : ∀ stored ∈ first :: rest, stored ∈ contents
  /-- The name is that of its first record. -/
  named : named? contents name = some first
  /-- The name is zero or the record's own id. -/
  known : name = 0 ∨ name = first.id
  /-- The links lead through all of it. -/
  linked : Linked (first :: rest)
  /-- The walk will meet different names. -/
  distinct : (name :: rest.map Stored.id).Nodup
  /-- The walk has met none of them. -/
  fresh : ∀ id ∈ name :: rest.map Stored.id, id ∉ visited

/-- One record on, the rest of the chain lies ahead. -/
theorem Ahead.next {contents : List Stored} {visited : List UInt16} {name : UInt16}
    {first second : Stored} {rest : List Stored} (wellFormed : WellFormed contents)
    (ahead : Ahead contents visited name first (second :: rest)) :
    Ahead contents (name :: visited) second.id second rest := by
  -- The name just visited is none of those ahead, as all of them differ.
  have distinct := List.nodup_cons.mp ahead.distinct
  -- The links and the names of the rest are those of the whole, without the first of them.
  refine ⟨fun stored member => ahead.stored stored (List.mem_cons_of_mem _ member),
    wellFormed.named?_id (ahead.stored second (by simp)), .inr rfl, ahead.linked.2,
    distinct.2, fun id member => ?_⟩
  rw [List.mem_cons, not_or]
  constructor
  -- The new name was visited if it were the one just read, or if it had been before.
  · rintro rfl
    exact distinct.1 member
  · exact ahead.fresh id (List.mem_cons_of_mem _ member)

/-- At the start of a walk, the whole chain lies ahead under the name zero. -/
theorem WellFormed.ahead {first : Stored} {rest : List Stored}
    (wellFormed : WellFormed (first :: rest)) : Ahead (first :: rest) [] 0 first rest := by
  -- Zero names the first record, and no later record bears it.
  have distinct := (List.nodup_cons.mp wellFormed.distinct).2
  refine ⟨fun stored member => member, rfl, .inl rfl, wellFormed.linked,
    List.nodup_cons.mpr ⟨fun zero => ?_, distinct⟩, fun id _ => List.not_mem_nil⟩
  obtain ⟨stored, member, same⟩ := List.mem_map.mp zero
  exact wellFormed.nonzero stored member same

namespace Walk

variable {walk : Walk} {contents : List Stored} {stored : Stored} {name : UInt16}

/-- The requests of a record are those of its header and, for a sensor, of its parts. -/
theorem requests_eq (walk : Walk) (stored : Stored) (name : UInt16) :
    stored.requests walk.repository walk.reservation walk.page name
      = walk.sliceRequest name ⟨0, headerSize⟩ :: if stored.header.isSensor then
          (slices stored.header.readSize walk.page).map (walk.sliceRequest stored.id) else [] := by
  -- A read asks for its part in the form in which requests travel.
  have parts : walk.sliceRequest stored.id = fun slice =>
      walk.repository.partRequest walk.reservation stored.id (UInt8.ofNat slice.offset)
        (UInt8.ofNat slice.count) := funext (sliceRequest_eq walk stored.id)
  rw [Stored.requests, sliceRequest_eq, parts]
  rfl

/-- A record that can be read is kept exactly when it describes a sensor. -/
theorem reads_handsOut {exchanges : List (Exchange controller)}
    {result : Except IpmiError (RecordHeader × Option Record)}
    (named : named? contents name = some stored) (own : named? contents stored.id = some stored)
    (known : name = 0 ∨ name = stored.id) (readable : stored.Readable) (paged : 0 < walk.page)
    (fair : ∀ exchange ∈ exchanges,
      HandsOut walk.repository contents walk.reservation exchange)
    (reads : Reads walk name exchanges result) :
    result = .ok (stored.header, stored.sensor?) ∧ exchanges.map (·.request)
      = stored.requests walk.repository walk.reservation walk.page name := by
  have hasHeader := readable.hasHeader
  rw [requests_eq]
  -- Whatever is handed out can be read, so the failing cases do not arise.
  cases reads with
  -- The header is there, so reading it does not fail.
  | headerFailed header => cases (readHeader_handsOut named hasHeader fair header).1
  -- The record is of another kind, and no more than its header is asked for.
  | skipped header other =>
    obtain ⟨read, asked⟩ := readHeader_handsOut named hasHeader fair header
    obtain rfl := Except.ok.inj read
    exact ⟨by simp [Stored.sensor?, other], by simp [asked, other]⟩
  -- The body is there as well, so reading it does not fail either.
  | bodyFailed header sensor body =>
    obtain ⟨read, _⟩ := readHeader_handsOut named hasHeader
      (fun exchange member => fair exchange (by simp [member])) header
    obtain rfl := Except.ok.inj read
    cases (readRecord_handsOut own readable sensor paged known
      (fun exchange member => fair exchange (by simp [member])) body).1
  -- Both reads succeed, with what is stored.
  | accepted header sensor body =>
    obtain ⟨read, asked⟩ := readHeader_handsOut named hasHeader
      (fun exchange member => fair exchange (by simp [member])) header
    obtain rfl := Except.ok.inj read
    obtain ⟨read, askedBody⟩ := readRecord_handsOut own readable sensor paged known
      (fun exchange member => fair exchange (by simp [member])) body
    obtain rfl := Except.ok.inj read
    exact ⟨by simp [Stored.sensor?, sensor], by simp [asked, askedBody, sensor]⟩

/-- A walk with a chain ahead reads all of it in order and keeps its sensors. -/
theorem visits_ahead (wellFormed : WellFormed contents) (paged : 0 < walk.page)
    {visited : List UInt16} {exchanges : List (Exchange controller)} {harvest : Harvest}
    (visits : walk.Visits visited name exchanges harvest) :
    ∀ {first : Stored} {rest : List Stored}, Ahead contents visited name first rest →
      (∀ exchange ∈ exchanges, HandsOut walk.repository contents walk.reservation exchange) →
      harvest = ⟨(first :: rest).filterMap Stored.sensor?, none⟩ ∧
      exchanges.map (·.request)
        = first.requests walk.repository walk.reservation walk.page name ++
          rest.flatMap fun stored =>
            stored.requests walk.repository walk.reservation walk.page stored.id := by
  -- The links of the chain decide at each record whether the walk ends or goes on.
  induction visits with
  -- The name ahead was not visited.
  | revisited seen =>
    intro first rest ahead _
    exact absurd seen (ahead.fresh _ (by simp))
  -- The record is sound, so reading it does not fail.
  | failed fresh reads =>
    intro first rest ahead fair
    have member := ahead.stored first (by simp)
    cases (reads_handsOut ahead.named (wellFormed.named?_id member) ahead.known
      (wellFormed.sound first member).readable paged fair reads).1
  -- The link is the mark of the end, so this has to be the last record.
  | ended fresh reads last =>
    intro first rest ahead fair
    have member := ahead.stored first (by simp)
    obtain ⟨read, asked⟩ := reads_handsOut ahead.named (wellFormed.named?_id member) ahead.known
      (wellFormed.sound first member).readable paged fair reads
    obtain ⟨rfl, rfl⟩ := Prod.mk.inj (Except.ok.inj read)
    cases rest with
    | nil =>
      refine ⟨?_, by simpa using asked⟩
      cases found : first.sensor? with
      | none => simp [Harvest.keep, Harvest.complete, found]
      | some record => simp [Harvest.keep, Harvest.after, Harvest.complete, found]
    | cons second rest =>
      -- The chain goes on, so its link is not the mark of the end.
      have second_last : second.id = lastId := ahead.linked.1.symm.trans last
      exact absurd second_last (wellFormed.named second (ahead.stored second (by simp)))
  -- The link leads on, so there is another record behind this one.
  | onward fresh reads more _ ih =>
    intro first rest ahead fair
    have member := ahead.stored first (by simp)
    obtain ⟨read, asked⟩ := reads_handsOut ahead.named (wellFormed.named?_id member) ahead.known
      (wellFormed.sound first member).readable paged
      (fun exchange member => fair exchange (by simp [member])) reads
    obtain ⟨rfl, rfl⟩ := Prod.mk.inj (Except.ok.inj read)
    cases rest with
    -- The last record links to none.
    | nil => exact absurd ahead.linked more
    | cons second rest =>
      have link : first.header.nextId = second.id := ahead.linked.1
      rw [link] at ih
      obtain ⟨rfl, askedRest⟩ := ih (ahead.next wellFormed)
        (fun exchange member => fair exchange (by simp [member]))
      refine ⟨?_, by simp [asked, askedRest]⟩
      -- The record is kept if it is that of a sensor, in front of those behind it.
      cases found : first.sensor? with
      | none => simp [Harvest.keep, found]
      | some record => simp [Harvest.keep, Harvest.after, found]

end Walk

/-- A fair controller lets a walk start, under the reservation that it hands out. -/
theorem startWalk_handsOut {host : String} {repository : Repository} {contents : List Stored}
    {reservation : UInt16} {exchanges : List (Exchange controller)}
    {result : Except IpmiError Walk}
    (fair : ∀ exchange ∈ exchanges, HandsOut repository contents reservation exchange)
    (course : Course (startWalk host repository).outcome exchanges result) :
    ∃ page, 0 < page ∧ page ≤ 255 ∧ result = .ok ⟨repository, reservation, page⟩ ∧
      exchanges.map (·.request) = repository.opening := by
  rcases course_startWalk course with ⟨error, _, exchange, member, failed⟩ |
    ⟨reserve, member, payload, page, requested, carried, positive, bounded, rfl, asked⟩
  · -- Neither kind of failure is that of a fair controller.
    have fair := fair exchange member
    rcases failed with failed | ⟨requested, empty⟩
    · obtain ⟨response, answered⟩ := fair.delivered
      rw [failed] at answered
      cases answered
    · obtain ⟨more, carried⟩ := fair.reserved requested
      exact absurd carried (empty _)
  -- What was reserved is what the controller hands out, since there is one payload only.
  · obtain ⟨more, handed⟩ := (fair reserve member).reserved requested
    obtain rfl := carried.unique handed
    exact ⟨page, positive, bounded, by rw [Bytes.wordAt_ofWord], asked⟩

/-- A controller that hands out a well-formed repository has all of it scanned. -/
theorem course_scan_wellFormed {host : String} {repository : Repository} {first : Stored}
    {rest : List Stored} (wellFormed : WellFormed (first :: rest)) {reservation : UInt16}
    {exchanges : List (Exchange controller)} {scanned : Except PartialScan (List Record)}
    (fair : ∀ exchange ∈ exchanges, HandsOut repository (first :: rest) reservation exchange)
    (course : Course (scan host repository) exchanges scanned) :
    scanned = .ok ((first :: rest).filterMap Stored.sensor?) := by
  -- The opening cannot fail, so there is a walk, with the whole chain ahead of it.
  rcases course_scan course with ⟨error, started, _⟩ |
    ⟨walk, opening, reads, harvest, started, visits, rfl, rfl⟩
  · obtain ⟨page, _, _, same, _⟩ := startWalk_handsOut fair started
    cases same
  · obtain ⟨page, positive, _, same, _⟩ := startWalk_handsOut
      (fun exchange member => fair exchange (List.mem_append_left _ member)) started
    obtain rfl := Except.ok.inj same
    obtain ⟨rfl, _⟩ := Walk.visits_ahead wellFormed positive visits wellFormed.ahead
      (fun exchange member => fair exchange (List.mem_append_right _ member))
    rfl

/-- A well-formed repository yields exactly its sensors, in the order of its links. -/
theorem scan_wellFormed {σ : Type} (host : String) (repository : Repository)
    {first : Stored} {rest : List Stored} (wellFormed : WellFormed (first :: rest))
    (reservation : UInt16) (handler : Dialogue.Handler controller σ) (memory : σ)
    (fair : ∀ exchange ∈ (scan host repository).transcript handler memory,
      HandsOut repository (first :: rest) reservation exchange) :
    ((scan host repository).run handler memory).1
        = .ok ((first :: rest).filterMap Stored.sensor?) ∧
      ∃ page, 0 < page ∧ page ≤ 255 ∧
        ((scan host repository).transcript handler memory).map (·.request)
          = repository.opening ++ (first.requests repository reservation page 0 ++
              rest.flatMap fun stored =>
                stored.requests repository reservation page stored.id) := by
  -- The opening fixes the reservation and the page, and the walk finds the whole chain ahead.
  rcases course_scan (Dialogue.course_run handler (scan host repository) memory) with
    ⟨error, started, _⟩ | ⟨walk, opening, reads, harvest, started, visits, split, ended⟩
  -- The opening of a fair controller succeeds.
  · obtain ⟨page, _, _, same, _⟩ := startWalk_handsOut fair started
    cases same
  · rw [split] at fair
    obtain ⟨page, positive, bounded, same, opened⟩ := startWalk_handsOut
      (fun exchange member => fair exchange (List.mem_append_left _ member)) started
    obtain rfl := Except.ok.inj same
    obtain ⟨rfl, asked⟩ := Walk.visits_ahead wellFormed positive visits wellFormed.ahead
      (fun exchange member => fair exchange (List.mem_append_right _ member))
    -- The requests of the opening come first, and those of the walk after them.
    refine ⟨ended, page, positive, bounded, ?_⟩
    rw [split, List.map_append, opened, asked]

/-- A full record, a record of another kind and a compact one, linked in this order. -/
def mixedChain : List Stored :=
  [⟨[0x02, 0x01, 0x51, 0x01, 0x0b, 0x20, 0x00, 0x30, 0x03, 0x01, 0x7f, 0x68, 0x01, 0x01, 0x00,
      0x00], 0x0009⟩,
    ⟨[0x09, 0x00, 0x51, 0x12, 0x02, 0x20, 0x00], 0x0104⟩,
    ⟨[0x04, 0x01, 0x51, 0x02, 0x09, 0x20, 0x00, 0x31, 0x0a, 0x01, 0x67, 0x40, 0x08, 0x6f],
      0xffff⟩]

/-- The two sensors of a chain of three records are found, without an allocation unit. -/
theorem scan_mixedChain :
    WellFormed mixedChain ∧
      (∀ exchange ∈ (scan "bmc" .storage).transcript
        (Repository.storage.serving mixedChain 0x3412 (.answered [0xc1])) (),
        HandsOut .storage mixedChain 0x3412 exchange) ∧
      ((scan "bmc" .storage).run
        (Repository.storage.serving mixedChain 0x3412 (.answered [0xc1])) ()).1
        = .ok [⟨⟨0x0009, 0x0102, 0x51, 0x01, 0x0b⟩, 0x30, 0x01, 0x01⟩,
            ⟨⟨0xffff, 0x0104, 0x51, 0x02, 0x09⟩, 0x31, 0x08, 0x6f⟩] := by
  -- Lengths and kinds of the records are checked together, by computing them.
  have sound : ∀ stored ∈ mixedChain, stored.Sound := fun stored member =>
    have facts : ∀ stored ∈ mixedChain, headerSize ≤ stored.bytes.length ∧
        stored.header.length.toNat = stored.bytes.length - headerSize ∧
        (stored.header.isSensor → 9 ≤ stored.header.length.toNat) := by decide
    ⟨(facts stored member).1, (facts stored member).2.1, (facts stored member).2.2⟩
  have wellFormed : WellFormed mixedChain :=
    ⟨by decide, by decide, by decide, by decide, sound, rfl, rfl, rfl⟩
  have fair : ∀ exchange ∈ (scan "bmc" .storage).transcript
      (Repository.storage.serving mixedChain 0x3412 (.answered [0xc1])) (),
      HandsOut .storage mixedChain 0x3412 exchange :=
    fun exchange member => handsOut_serve (answer_serving member)
  -- Such a controller is fair, so that the chain is scanned as a whole.
  exact ⟨wellFormed, fair, (scan_wellFormed "bmc" .storage wellFormed 0x3412 _ () fair).1⟩

end BmcTelemetry.Sensor
