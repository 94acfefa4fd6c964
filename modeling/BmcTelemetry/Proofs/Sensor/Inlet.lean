import BmcTelemetry.Proofs.Sensor.Answering
import BmcTelemetry.Sensor.Inlet
import BmcTelemetry.Sensor.Status
import Mathlib.Data.List.Nodup

/-!
Discovering the inlet: one exchange or two, and what is found in their answers.

How long an answer is decides whether anything is looked for in it.
-/

namespace BmcTelemetry

/-- A request with what became of it. -/
def Exchange.of (request : Request) (answer : Except IpmiError Response) : Exchange controller :=
  ⟨request, answer⟩

@[simp] theorem Exchange.request_of (request : Request) (answer : Except IpmiError Response) :
    (Exchange.of request answer).request = request := rfl

@[simp] theorem Exchange.answer_of (request : Request) (answer : Except IpmiError Response) :
    (Exchange.of request answer).answer = answer := rfl

/-- An answer that comes carries the payload behind a completion code of zero. -/
theorem Exchange.carries_of_ok_iff {request : Request} {response : Response} {least : Nat}
    {payload : Bytes} : (Exchange.of request (.ok response)).Carries least payload ↔
      response.data = 0x00 :: payload ∧ least ≤ payload.length :=
  carries_answered_iff rfl

/-- An answer that does not come carries nothing. -/
theorem Exchange.not_carries_of_error {request : Request} {error : IpmiError} {least : Nat}
    {payload : Bytes} : ¬ (Exchange.of request (.error error)).Carries least payload := by
  -- The answer is an error, so it has no payload at all.
  rintro ⟨_, answered, _⟩
  cases answered

namespace Sensor

open Dialogue (Course)

namespace Inlet

/-- The lookup of the record that an answer names. -/
def lookup (capability : Response) (answer : Except IpmiError Response) : Exchange controller :=
  .of (recordRequest (capability.payload.slice 3 2)) answer

/-- What discovering the inlet comes to, by what becomes of its requests. -/
inductive Discovers : List (Exchange controller) → Option Description → Prop
  /-- The sensors of the inlet are asked for in vain. -/
  | unanswered (error : IpmiError) : Discovers [.of capabilityRequest (.error error)] none
  /-- The answer does not reach the id of a record. -/
  | unreported {capability : Response} (short : capability.data.length < 6) :
      Discovers [.of capabilityRequest (.ok capability)] none
  /-- The record is asked for in vain. -/
  | recordUnanswered {capability : Response} (reported : 6 ≤ capability.data.length)
      (error : IpmiError) :
      Discovers [.of capabilityRequest (.ok capability), lookup capability (.error error)] none
  /-- The record does not reach the number of its sensor. -/
  | recordShort {capability record : Response} (reported : 6 ≤ capability.data.length)
      (short : record.data.length < 11) :
      Discovers [.of capabilityRequest (.ok capability), lookup capability (.ok record)] none
  /-- The record reaches the number of its sensor. -/
  | discovered {capability record : Response} (reported : 6 ≤ capability.data.length)
      (reached : 11 ≤ record.data.length) :
      Discovers [.of capabilityRequest (.ok capability), lookup capability (.ok record)]
        (some (Catalog.inletTemperature (record.payload.byteAt 9)))

/-- Every course of discovering the inlet is one of these. -/
theorem course_discover {host : String} {exchanges : List (Exchange controller)}
    {found : Option Description} (course : Course (discover host) exchanges found) :
    Discovers exchanges found := by
  -- Only an answer that comes and is long enough leads on, first to the record and then to a find.
  obtain ⟨_, answer, later, sent, onward, rfl⟩ := Dialogue.course_bind_iff.mp course
  obtain rfl := Dialogue.course_query_iff.mp sent
  -- The first answer is missing, too short for the id, or there is a record to look up.
  cases answer with
  | error error =>
    obtain ⟨rfl, rfl⟩ := Dialogue.course_report_bind_pure_iff.mp onward
    exact .unanswered error
  | ok capability =>
    dsimp only at onward
    split at onward
    next short =>
      obtain ⟨rfl, rfl⟩ := Dialogue.course_report_bind_pure_iff.mp onward
      exact .unreported (Nat.lt_succ_of_le short)
    next reported =>
      obtain ⟨_, answer, last, sent, ended, rfl⟩ := Dialogue.course_bind_iff.mp onward
      obtain rfl := Dialogue.course_query_iff.mp sent
      -- The second answer is missing, too short for the number, or the number is in it.
      cases answer with
      | error error =>
        obtain ⟨rfl, rfl⟩ := Dialogue.course_report_bind_pure_iff.mp ended
        exact .recordUnanswered (Nat.not_le.mp reported) error
      | ok record =>
        dsimp only at ended
        split at ended
        next short =>
          obtain ⟨rfl, rfl⟩ := Dialogue.course_report_bind_pure_iff.mp ended
          exact .recordShort (Nat.not_le.mp reported) (Nat.lt_succ_of_le short)
        next reached =>
          obtain ⟨rfl, rfl⟩ := Dialogue.course_report_bind_pure_iff.mp ended
          exact .discovered (Nat.not_le.mp reported) (Nat.not_le.mp reached)

end Inlet

/-- Without a reservation, a controller hands out how its records begin, each with its link. -/
def HandsOutUnreserved (contents : List Stored) (exchange : Exchange controller) : Prop :=
  ∀ id count stored, exchange.request = Repository.storage.partRequest 0 id 0 count →
    named? contents id = some stored → count.toNat ≤ stored.bytes.length →
    exchange.Carries 2 (Bytes.ofWord stored.nextId ++ stored.bytes.take count.toNat)

namespace Inlet

/-- The record of an inlet is asked for by its first eight bytes. -/
theorem recordRequest_ofWord (id : UInt16) :
    recordRequest (Bytes.ofWord id) = Repository.storage.partRequest 0 id 0 8 := rfl

section Named

variable {contents : List Stored} {stored : Stored} {exchanges : List (Exchange controller)}

/-- The controller answers that the inlet has a certain record. -/
def Names (stored : Stored) (exchange : Exchange controller) : Prop :=
  exchange.request = capabilityRequest →
    ∃ payload, exchange.Carries 5 payload ∧ payload.slice 3 2 = Bytes.ofWord stored.id

/-- A record that the controller names and hands out is looked up as it begins. -/
theorem carries_lookup {capability : Response} {answer : Except IpmiError Response}
    (named : named? contents stored.id = some stored) (long : 8 ≤ stored.bytes.length)
    (names : ∀ exchange ∈ [.of capabilityRequest (.ok capability), lookup capability answer],
      Names stored exchange)
    (unreserved : ∀ exchange ∈ [.of capabilityRequest (.ok capability), lookup capability answer],
      HandsOutUnreserved contents exchange) :
    (lookup capability answer).Carries 2 (Bytes.ofWord stored.nextId ++ stored.bytes.take 8) := by
  -- The bytes behind the completion code are the payload, so the request has the record's id.
  obtain ⟨payload, carried, id⟩ := names _ List.mem_cons_self rfl
  have own : capability.payload = payload := by
    rw [Response.payload, (Exchange.carries_of_ok_iff.mp carried).1, List.drop_succ_cons,
      List.drop_zero]
  refine unreserved _ (List.mem_cons_of_mem _ List.mem_cons_self) stored.id 8 stored ?_ named long
  rw [lookup, Exchange.request_of, own, id, recordRequest_ofWord]

/-- Where a sensor's record is named and handed out, the number of the sensor is found. -/
theorem Discovers.found_eq {found : Option Description}
    (named : named? contents stored.id = some stored) (long : 8 ≤ stored.bytes.length)
    (names : ∀ exchange ∈ exchanges, Names stored exchange)
    (unreserved : ∀ exchange ∈ exchanges, HandsOutUnreserved contents exchange)
    (discovers : Discovers exchanges found) :
    found = some (Catalog.inletTemperature stored.record.number) := by
  -- Both answers are as long as they have to be, so that only the last case is left.
  cases discovers with
  -- Both answers were delivered, which excludes those cases that lack one.
  | unanswered error =>
    obtain ⟨_, carried, _⟩ := names _ List.mem_cons_self rfl
    exact absurd carried Exchange.not_carries_of_error
  -- Five bytes of payload reach the id of the record.
  | unreported short =>
    obtain ⟨payload, carried, _⟩ := names _ List.mem_cons_self rfl
    obtain ⟨data, enough⟩ := Exchange.carries_of_ok_iff.mp carried
    rw [data, List.length_cons] at short
    omega
  | recordUnanswered _ error =>
    exact absurd (carries_lookup named long names unreserved) Exchange.not_carries_of_error
  -- Eight bytes of the record with its link reach the number.
  | recordShort _ short =>
    have carried := carries_lookup named long names unreserved
    rw [(Exchange.carries_of_ok_iff.mp carried).1] at short
    simp only [List.length_cons, List.length_append, Bytes.length_ofWord, List.length_take] at short
    omega
  | @discovered capability record _ _ =>
    have carried := carries_lookup named long names unreserved
    -- Two bytes of a link precede the record, whose byte seven is the number.
    have payload : record.payload = Bytes.ofWord stored.nextId ++ stored.bytes.take 8 := by
      rw [Response.payload, (Exchange.carries_of_ok_iff.mp carried).1]
      rfl
    have number : record.payload.byteAt 9 = stored.bytes.byteAt 7 := by
      rw [payload]
      change (stored.bytes.slice 0 8).byteAt 7 = _
      exact Bytes.byteAt_slice stored.bytes (by decide)
    rw [number]
    rfl

end Named

end Inlet

namespace Status

/-- Reading a sensor sends the request for its number, and no other. -/
theorem requests_read {record : Record} {exchanges : List (Exchange controller)}
    {result : Except IpmiError Status} (course : Course (read record).outcome exchanges result) :
    exchanges.map (·.request) = [Catalog.sensorReading record.number] := by
  -- The answer is made a state of without asking for anything more.
  rcases Attempt.course_bind_iff.mp course with ⟨_, sent, _⟩ | ⟨_, _, _, sent, ended, rfl⟩
  · obtain rfl := Controller.course_exec_iff.mp sent
    rfl
  · obtain rfl := Controller.course_exec_iff.mp sent
    obtain ⟨rfl, _⟩ := Attempt.course_pure_iff.mp ended
    rfl

/-- Reading sensors sends the requests for their numbers, in order, until the transport fails. -/
theorem requests_readAll {records : List Record} {exchanges : List (Exchange controller)}
    {result : Except IpmiError (List Status)}
    (course : Course (readAll records).outcome exchanges result) :
    exchanges.map (·.request)
      <+: records.map fun record => Catalog.sensorReading record.number := by
  unfold readAll at course
  -- The first sensor is asked for in any case, and the others if it is answered.
  induction records generalizing exchanges result with
  -- With no sensors there is nothing to ask for.
  | nil =>
    obtain ⟨rfl, _⟩ := Attempt.course_pure_iff.mp course
    exact List.prefix_rfl
  | cons record records ih =>
    -- The transport fails for this sensor, or its state is read and the others follow.
    rcases Attempt.course_mapM_cons_iff.mp course with ⟨_, failed, _⟩ |
      ⟨first, _, others, _, asked, onward, rfl, _⟩
    · rw [requests_read failed]
      exact List.prefix_append _ _
    · rw [List.map_append, requests_read asked, List.map_cons, ← List.singleton_append]
      exact (List.prefix_append_right_inj _).mpr (ih onward)

/-- Reading a single sensor sends its request in any case. -/
theorem requests_readAll_singleton {record : Record} {exchanges : List (Exchange controller)}
    {result : Except IpmiError (List Status)}
    (course : Course (readAll [record]).outcome exchanges result) :
    exchanges.map (·.request) = [Catalog.sensorReading record.number] := by
  -- With or without an answer, there is no other sensor to go on to.
  rcases Attempt.course_mapM_cons_iff.mp course with ⟨_, failed, _⟩ |
    ⟨first, _, others, _, asked, onward, rfl, _⟩
  · exact requests_read failed
  · obtain ⟨rfl, _⟩ := Attempt.course_pure_iff.mp onward
    rw [List.append_nil, requests_read asked]

end Status

/-- A record in a chain is the only one that is found under its id. -/
theorem WellFormed.record_unique {contents : List Stored} (wellFormed : WellFormed contents)
    {stored : Stored} (member : stored ∈ contents) {record : Record}
    (found : record ∈ contents.filterMap Stored.sensor?) (same : record.header.id = stored.id) :
    record = stored.record := by
  obtain ⟨other, listed, sensor⟩ := List.mem_filterMap.mp found
  -- Only a record of a sensor is found, with the id that it is stored under.
  rw [Stored.sensor?] at sensor
  split at sensor
  · obtain rfl := Option.some.inj sensor
    -- Two records with one id would be in one place, as ids are distinct.
    rw [List.inj_on_of_nodup_map wellFormed.distinct listed member same]
  · cases sensor

/--
The inlet that is discovered is the sensor that a scan finds.

A chain of records is scanned, and the controller also hands out how its records begin without a
reservation. Where it names one of its sensors as that of the inlet, the description found has the
request by which the state of this very sensor is read.
-/
theorem discover_scanned (host : String) {first : Stored} {rest : List Stored}
    (wellFormed : WellFormed (first :: rest)) (reservation : UInt16) {stored : Stored}
    (member : stored ∈ first :: rest) (sensor : stored.header.isSensor) {σ : Type}
    (handler : Dialogue.Handler controller σ) (scanning discovering : σ)
    (reserved : ∀ exchange ∈ (scan host .storage).transcript handler scanning,
      HandsOut .storage (first :: rest) reservation exchange)
    (unreserved : ∀ exchange ∈ (Inlet.discover host).transcript handler discovering,
      HandsOutUnreserved (first :: rest) exchange)
    (names : ∀ exchange ∈ (Inlet.discover host).transcript handler discovering,
      Inlet.Names stored exchange) :
    ∃ records record description,
      ((scan host .storage).run handler scanning).1 = .ok records ∧
      record ∈ records ∧ record.header.id = stored.id ∧
      (∀ other ∈ records, other.header.id = stored.id → other = record) ∧
      ((Inlet.discover host).run handler discovering).1 = some description ∧
      description = Catalog.inletTemperature record.number ∧
      ∀ {τ : Type} (surroundings : Dialogue.Handler controller τ) (remembered : τ),
        ((Status.readAll [record]).outcome.transcript surroundings remembered).map (·.request)
          = [description.request] ∧
        ∀ (among : List Record) (place : Nat), among[place]? = some record → ∀ request,
          (((Status.readAll among).outcome.transcript surroundings remembered).map
            (·.request))[place]? = some request →
          request = description.request := by
  -- The scan finds all sensors of the chain, in its order.
  have scanned := course_scan_wellFormed wellFormed reserved
    (Dialogue.course_run handler (scan host .storage) scanning)
  have found : stored.record ∈ (first :: rest).filterMap Stored.sensor? :=
    List.mem_filterMap.mpr ⟨stored, member, if_pos sensor⟩
  -- A sensor's record is long enough for the lookup to reach the number.
  have sound := wellFormed.sound stored member
  have long : 8 ≤ stored.bytes.length :=
    Nat.le_trans (Nat.le_trans (by decide) (sound.readable.reaches sensor))
      (sound.readable.present sensor)
  have discovered := Inlet.Discovers.found_eq (wellFormed.named?_id member) long names unreserved
    (Inlet.course_discover (Dialogue.course_run handler (Inlet.discover host) discovering))
  refine ⟨_, stored.record, _, scanned, found, rfl,
    fun other listed same => wellFormed.record_unique member listed same, discovered, rfl,
    fun surroundings remembered => ⟨?_, fun among place here request asked => ?_⟩⟩
  -- The record stands alone, so its request is the only one.
  · exact Status.requests_readAll_singleton (Dialogue.course_run surroundings _ remembered)
  · -- Whatever is asked for in the place of the record is asked for by its number.
    obtain ⟨unasked, all⟩ := Status.requests_readAll
      (Dialogue.course_run surroundings (Status.readAll among).outcome remembered)
    obtain ⟨inside, _⟩ := List.getElem?_eq_some_iff.mp asked
    have sent := congrArg (fun requests => requests[place]?) all
    simp only [List.getElem?_append_left inside, asked, List.getElem?_map, here] at sent
    exact Option.some.inj sent

/-- A rack whose controller names the record of its temperature as that of the inlet. -/
def rackWithInlet : controller.Answers :=
  fun request : Request => .ok <|
    if request = Inlet.capabilityRequest then .answered [0x00, 0xdc, 0x01, 0x01, 0x01, 0x00]
    else Repository.storage.serve rackChain 0x3412
      (Repository.storage.serve rackChain 0 (.answered [0xc1]) request) request

/-- The sensors of the inlet are not asked for as part of a record. -/
theorem Inlet.partRequest_ne_capabilityRequest (reservation id : UInt16) (offset count : UInt8) :
    Repository.storage.partRequest reservation id offset count ≠ capabilityRequest := by
  intro same
  -- The network function alone tells the two requests apart.
  have functions := congrArg (fun request : Request => request.data[0]?) same
  exact absurd (Option.some.inj functions) (by decide)

/-- The controller of the rack hands out its records, and without a reservation how they begin. -/
theorem handsOut_rackWithInlet {exchange : Exchange controller}
    (answered : exchange.answer = rackWithInlet exchange.request) :
    HandsOut .storage rackChain 0x3412 exchange ∧ HandsOutUnreserved rackChain exchange := by
  -- What does not ask for the inlet is served under the reservation, or else without one.
  have served : exchange.request ≠ Inlet.capabilityRequest → exchange.answer
      = .ok (Repository.storage.serve rackChain 0x3412
        (Repository.storage.serve rackChain 0 (.answered [0xc1]) exchange.request)
        exchange.request) :=
    fun other => answered.trans (congrArg Except.ok (if_neg other))
  refine ⟨⟨⟨_, answered⟩, fun asked => ?_, fun id offset count stored asked => ?_⟩,
    fun id count stored asked named inside => ?_⟩
  -- A reservation is served as by the repository alone.
  · exact (handsOut_serve (served (by rw [asked]; decide))).reserved asked
  -- A part that is asked for under the reservation is handed out as such.
  · have part := Inlet.partRequest_ne_capabilityRequest 0x3412 id offset count
    exact (handsOut_serve (served (by rwa [asked]))).part id offset count stored asked
  -- Without the reservation the other answer is given, which hands out the part as well.
  · have part := Inlet.partRequest_ne_capabilityRequest 0 id 0 count
    have unreserved := served (by rwa [asked])
    rw [asked, Repository.serve_partRequest_other (by decide), ← asked] at unreserved
    exact (handsOut_serve unreserved).part id 0 count stored asked named (by simpa using inside)

/-- The record that the controller of the rack names: the first one, which a walk knows as zero. -/
def rackInlet : Stored :=
  rackChain.head wellFormed_rackChain.nonempty

/-- The inlet of the rack is the sensor in the record named, which a scan finds under its id. -/
theorem discover_scanned_rack :
    rackInlet ∈ rackChain ∧ rackInlet.header.isSensor ∧
    (∀ exchange ∈ (scan "bmc" .storage).transcript (Dialogue.constantly rackWithInlet) (),
      HandsOut .storage rackChain 0x3412 exchange) ∧
    (∀ exchange ∈ (Inlet.discover "bmc").transcript (Dialogue.constantly rackWithInlet) (),
      HandsOutUnreserved rackChain exchange ∧ Inlet.Names rackInlet exchange) ∧
    ((Inlet.discover "bmc").run (Dialogue.constantly rackWithInlet) ()).1
      = some (Catalog.inletTemperature 0x30) ∧
    ∃ records record,
      ((scan "bmc" .storage).run (Dialogue.constantly rackWithInlet) ()).1 = .ok records ∧
      record ∈ records ∧ record.header.id = 0x0001 ∧
      ((Status.readAll [record]).outcome.transcript (Dialogue.constantly rackAnswers) ()).map
        (·.request) = [Catalog.sensorReading 0x30] := by
  -- Each exchange has the answer that the controller gives to its request.
  have answered {α : Type} (dialogue : Dialogue controller α) :
      ∀ exchange ∈ dialogue.transcript (Dialogue.constantly rackWithInlet) (),
        exchange.answer = rackWithInlet exchange.request := by
    intro exchange member
    obtain ⟨_, same⟩ := Dialogue.transcript_answered _ dialogue () exchange member
    exact same
  have member : rackInlet ∈ rackChain := List.head_mem _
  have reserved : ∀ exchange ∈ (scan "bmc" .storage).transcript
      (Dialogue.constantly rackWithInlet) (), HandsOut .storage rackChain 0x3412 exchange :=
    fun exchange listed => (handsOut_rackWithInlet (answered _ exchange listed)).1
  have unreserved : ∀ exchange ∈ (Inlet.discover "bmc").transcript
      (Dialogue.constantly rackWithInlet) (), HandsOutUnreserved rackChain exchange :=
    fun exchange listed => (handsOut_rackWithInlet (answered _ exchange listed)).2
  have names : ∀ exchange ∈ (Inlet.discover "bmc").transcript
      (Dialogue.constantly rackWithInlet) (), Inlet.Names rackInlet exchange := by
    -- The answer names the first record by its own id.
    intro exchange listed asked
    refine ⟨[0xdc, 0x01, 0x01, 0x01, 0x00], ⟨true, ?_, by decide⟩, by decide⟩
    rw [answered _ exchange listed, asked]
    rfl
  have found : ((Inlet.discover "bmc").run (Dialogue.constantly rackWithInlet) ()).1
      = some (Catalog.inletTemperature 0x30) := by decide
  obtain ⟨records, record, description, scanned, listed, id, _, discovered, _, reads⟩ :=
    discover_scanned "bmc" wellFormed_rackChain 0x3412 member (by decide)
      (Dialogue.constantly rackWithInlet) () () reserved unreserved names
  -- The description is known from the computed discovery, so the request is too.
  obtain rfl := Option.some.inj (discovered.symm.trans found)
  exact ⟨member, by decide, reserved,
    fun exchange listed => ⟨unreserved exchange listed, names exchange listed⟩, found,
    records, record, scanned, listed, id, (reads (Dialogue.constantly rackAnswers) ()).1⟩

end Sensor

end BmcTelemetry
