import BmcTelemetry.Proofs.Dialogue.Returns
import BmcTelemetry.Proofs.Driver.Loop

/-! Delivery: in whatever order answers are delivered, each ends up in its request's place. -/

namespace BmcTelemetry.Driver

open Dialogue (Course)

/-- A call into the driver does not fail. -/
def Succeeds (exchange : Exchange kernel) : Prop :=
  match exchange with
  | ⟨Call.openDevice _, result⟩ => result = (.ok () : Except OsError Unit)
  | ⟨Call.send _ _ _, result⟩ => result = (.ok () : Except OsError Unit)
  | ⟨Call.wait, readiness⟩ => readiness = Readiness.ready
  | ⟨Call.receive, result⟩ => ∃ message : Message, result = (.ok message : Except OsError Message)

/-- The message that a call into the driver delivers. -/
def delivered? (exchange : Exchange kernel) : Option Message :=
  match exchange with
  | ⟨Call.receive, (.ok message : Except OsError Message)⟩ => some message
  | _ => none

/-- The messages that calls into the driver deliver, in this order. -/
def delivered (exchanges : List (Exchange kernel)) : List Message :=
  exchanges.filterMap delivered?

/-- The answer that the messages of a batch leave in a place: the last one under its number. -/
def lastUnder (messages : List Message) (place : Nat) : Response :=
  match messages.reverse.find? fun message => message.id == (place : Int) with
  | some message => .answered (message.data.take receiveCapacity)
  | none => .missing

/-- A message changes the place of its own id and no other. -/
theorem getElem?_put (answers : List Response) (message : Message) (place : Nat) :
    (Progress.put answers message)[place]? =
      if message.id = place then
        answers[place]?.map fun _ => .answered (message.data.take receiveCapacity)
      else answers[place]? := by
  obtain ⟨id, data⟩ := message
  -- Only a number that is not negative can be that of a place.
  cases id with
  | ofNat index =>
    simp only [Progress.put, List.getElem?_set, Int.ofNat_eq_natCast, Int.natCast_inj]
    by_cases same : index = place
    · subst same
      -- A place past the end has no answer that could be replaced.
      by_cases inside : index < answers.length
      · simp [inside]
      · simp [inside]
    · simp [same]
  | negSucc index =>
    -- A negative id is the number of no place.
    have other : Int.negSucc index ≠ (place : Int) := by omega
    simp only [Progress.put, if_neg other]

/-- Messages one after another leave in each place the last answer under its number. -/
theorem getElem?_foldl_put (messages : List Message) (answers : List Response) (place : Nat) :
    (messages.foldl Progress.put answers)[place]? =
      match messages.reverse.find? fun message => message.id == (place : Int) with
      | some message => answers[place]?.map fun _ => .answered (message.data.take receiveCapacity)
      | none => answers[place]? := by
  -- The first message is put first, and the later ones decide whether it stays.
  induction messages generalizing answers with
  | nil => rfl
  | cons message rest ih =>
    rw [List.foldl_cons, ih, getElem?_put, List.reverse_cons, List.find?_append]
    -- A later message under the number replaces this one.
    cases rest.reverse.find? fun message => message.id == (place : Int) with
    -- The answer of the last message under the number stays, whatever this one puts there.
    | some last =>
      by_cases own : message.id = place
      · cases answers[place]? <;> simp [own]
      · simp [own]
    -- No later message is under the number, so that this one decides if it is.
    | none =>
      by_cases own : message.id = place
      · simp [own]
      · simp [own]

/-- A batch in which nothing fails ends with what its messages leave in the places. -/
theorem runs_succeeds {addressing : Addressing} {requests : List Request} {progress : Progress}
    {exchanges : List (Exchange kernel)} {ended : Except IpmiError Progress}
    (runs : Runs addressing requests progress exchanges ended) :
    (∀ exchange ∈ exchanges, Succeeds exchange) →
    ∃ final, ended = .ok final ∧ final.deferred = progress.deferred ∧
      final.answers = (delivered exchanges).foldl Progress.put progress.answers := by
  -- No call fails, so nothing is put off and only messages that were taken change a place.
  induction runs with
  | drained none_left =>
    intro _
    exact ⟨_, rfl, rfl, rfl⟩
  | @sent progress request result rest ended left next onward ih =>
    -- A call that was made is one that did not fail, so that the step is known.
    intro succeed
    have sent : result = .ok () :=
      succeed (sending progress.sent (addressing.address request) request.data result) (by simp)
    subst sent
    obtain ⟨final, ended, deferred, answers⟩ := ih fun exchange member =>
      succeed exchange (List.mem_cons_of_mem _ member)
    exact ⟨final, ended, deferred, answers⟩
  -- A wait that ends without a message is a failing call, which there is none of.
  | timedOut left blocked =>
    intro succeed
    have ready : Readiness.timedOut = .ready := succeed (waiting .timedOut) (by simp)
    cases ready
  | @failed progress error left blocked =>
    intro succeed
    have ready : Readiness.failed error = .ready := succeed (waiting (.failed error)) (by simp)
    cases ready
  | @taken progress result rest ended left blocked onward ih =>
    -- The message that was taken is put in its place before the others are.
    intro succeed
    obtain ⟨message, took⟩ : ∃ message : Message, result = .ok message :=
      succeed (taking result) (by simp)
    subst took
    obtain ⟨final, ended, deferred, answers⟩ := ih fun exchange member =>
      succeed exchange (List.mem_cons_of_mem _ (List.mem_cons_of_mem _ member))
    exact ⟨final, ended, deferred, answers⟩

/-- The places that messages leave behind, one for each request. -/
theorem foldl_put_start (messages : List Message) (count : Nat) :
    messages.foldl Progress.put (Progress.start count).answers
      = (List.range count).map (lastUnder messages) := by
  -- Each place starts out without an answer and keeps the last message under its number.
  apply List.ext_getElem?
  intro place
  rw [getElem?_foldl_put, List.getElem?_map]
  simp only [Progress.start, List.getElem?_replicate]
  -- Inside the batch, a place holds the last message or the missing answer that it began with.
  by_cases inside : place < count
  · rw [List.getElem?_range inside, if_pos inside, Option.map_some, lastUnder]
    cases messages.reverse.find? fun message => message.id == (place : Int) <;> rfl
  -- Past the last request there is no place at all.
  · rw [List.getElem?_eq_none (by simpa using inside), if_neg inside]
    cases messages.reverse.find? fun message => message.id == (place : Int) <;> rfl

/--
What an honest driver may answer, given the messages that are to be delivered.

It answers each message that is sent to it exactly once, in any order, under the id of the
message, and a wait succeeds while there is something to deliver. A device that is opened anew
has nothing to deliver, and how a driver that has nothing to deliver answers is left open.
-/
def Honest (reply : Address → Bytes → Bytes) : List Message → List (Exchange kernel) → Prop
  | _, [] => True
  | pending, ⟨call, result⟩ :: rest =>
    match call, result with
    | Call.openDevice _, result => result = (.ok () : Except OsError Unit) ∧ Honest reply [] rest
    | Call.send id address data, result => result = (.ok () : Except OsError Unit) ∧
        Honest reply (⟨id, reply address data⟩ :: pending) rest
    | Call.wait, readiness =>
        (pending ≠ [] → readiness = Readiness.ready) ∧ Honest reply pending rest
    | Call.receive, result => (pending = [] ∧ Honest reply [] rest) ∨ ∃ message ∈ pending,
        result = (.ok message : Except OsError Message) ∧ Honest reply (pending.erase message) rest

section Honesty

variable {reply : Address → Bytes → Bytes} {addressing : Addressing} {requests : List Request}
  {pending : List Message} {progress : Progress}

/-- The answer of a request, as it is handed over. -/
def answerOf (reply : Address → Bytes → Bytes) (addressing : Addressing) (request : Request) :
    Response :=
  .answered ((reply (addressing.address request) request.data).take receiveCapacity)

/-- What is on its way while an honest driver works on a batch, and what has arrived. -/
structure Answering (reply : Address → Bytes → Bytes) (addressing : Addressing)
    (requests : List Request) (pending : List Message) (progress : Progress) : Prop where
  /-- The counts are in balance. -/
  balanced : progress.Balanced requests.length
  /-- Everything on its way is still to be delivered. -/
  counted : pending.length = progress.inFlight
  /-- Everything to be delivered answers a request, under its place. -/
  sound : ∀ message ∈ pending, ∃ (place : Nat) (request : Request),
    requests[place]? = some request ∧
      message = ⟨place, reply (addressing.address request) request.data⟩
  /-- The answer of a request that was sent is on its way or in its place. -/
  settled : ∀ (place : Nat) (request : Request), place < progress.sent →
    requests[place]? = some request → (∃ message ∈ pending, message.id = place) ∨
      progress.answers[place]? = some (answerOf reply addressing request)
  /-- Nothing has failed. -/
  clear : progress.deferred = none

/-- At the start there is nothing on its way. -/
theorem answering_start : Answering reply addressing requests [] (.start requests.length) :=
  ⟨balanced_start _, rfl, by simp, fun _ _ before => absurd before (Nat.not_lt_zero _), rfl⟩

namespace Answering

/-- A message that is sent is on its way. -/
theorem afterSend (answering : Answering reply addressing requests pending progress)
    {request : Request} (next : progress.next? requests = some request) :
    Answering reply addressing requests
      (⟨progress.sent, reply (addressing.address request) request.data⟩ :: pending)
      (progress.afterSend (.ok ())) := by
  -- The request is the one at the place that comes next.
  have found := (next?_eq_some_iff.mp next).2
  refine ⟨answering.balanced.afterSend next _, ?_, ?_, ?_, answering.clear⟩
  · simpa [Progress.afterSend] using answering.counted
  · intro message member
    rcases List.mem_cons.mp member with rfl | earlier
    · exact ⟨progress.sent, request, found, rfl⟩
    · exact answering.sound message earlier
  · intro place other before located
    -- The request is the new one or was sent before.
    by_cases new : place = progress.sent
    · subst new
      exact .inl ⟨_, List.mem_cons_self, rfl⟩
    · simp only [Progress.afterSend] at before ⊢
      rcases answering.settled place other (by omega) located with ⟨message, member, own⟩ | arrived
      · exact .inl ⟨message, List.mem_cons_of_mem _ member, own⟩
      · exact .inr arrived

/-- A message that is delivered is in its place. -/
theorem afterReceive (answering : Answering reply addressing requests pending progress)
    (left : progress.toReceive ≠ 0) (blocked : progress.next? requests = none)
    {message : Message} (member : message ∈ pending) :
    Answering reply addressing requests (pending.erase message)
      (progress.afterReceive (.ok message)) := by
  -- The message answers the request at some place, which is its number.
  obtain ⟨index, answered, located, rfl⟩ := answering.sound message member
  -- That place is one of the batch, so that the answer finds it.
  have inside : index < progress.answers.length := by
    rw [answering.balanced.placed]
    exact (List.getElem?_eq_some_iff.mp located).1
  refine ⟨answering.balanced.afterReceive left blocked _, ?_, ?_, ?_, answering.clear⟩
  · simp only [Progress.afterReceive]
    rw [List.length_erase_of_mem member, answering.counted]
  · exact fun other held => answering.sound other (List.mem_of_mem_erase held)
  · intro place request before found
    simp only [Progress.afterReceive]
    rw [getElem?_put]
    by_cases own : index = place
    · -- The delivered message is the answer of this very request.
      subst own
      obtain rfl := Option.some.inj (located.symm.trans found)
      rw [if_pos rfl, List.getElem?_eq_getElem inside]
      exact .inr rfl
    -- The place of another request is left, and what was on its way for it still is.
    · rw [if_neg fun same => own (Int.ofNat_inj.mp same)]
      rcases answering.settled place request before found with ⟨other, held, same⟩ | arrived
      · refine .inl ⟨other, (List.mem_erase_of_ne fun equal => own ?_).mpr held, same⟩
        subst equal
        exact Int.ofNat_inj.mp same
      · exact .inr arrived

/-- While the batch waits, there is something to deliver. -/
theorem busy (answering : Answering reply addressing requests pending progress)
    (left : progress.toReceive ≠ 0) (blocked : progress.next? requests = none) :
    pending ≠ [] := by
  -- The loop has something to wait for, and all that is on its way is still to be delivered.
  have waited := answering.balanced.inFlight_pos left blocked
  rw [← answering.counted] at waited
  exact List.ne_nil_of_length_pos waited

/-- When nothing is left to take, every answer is in its place. -/
theorem outcome (answering : Answering reply addressing requests pending progress)
    (drained : progress.toReceive = 0) :
    progress.outcome = .ok (requests.map (answerOf reply addressing)) := by
  have counted := answering.balanced.counted
  have within := answering.balanced.within
  -- All requests were sent and none is on its way, so each answer is in its place.
  have empty : pending = [] := List.eq_nil_of_length_eq_zero (by
    rw [answering.counted]
    omega)
  have answers : progress.answers = requests.map (answerOf reply addressing) := by
    -- The places are compared with the requests one by one.
    apply List.ext_getElem?
    intro place
    rw [List.getElem?_map]
    cases found : requests[place]? with
    -- Past the last request there is neither a request nor a place.
    | none =>
      have past := List.getElem?_eq_none_iff.mp found
      exact List.getElem?_eq_none (by rw [answering.balanced.placed]; exact past)
    | some request =>
      -- The request was sent and nothing is on its way any more, so that its answer has arrived.
      have inside := (List.getElem?_eq_some_iff.mp found).1
      rcases answering.settled place request (by omega) found with ⟨message, member, _⟩ | arrived
      · rw [empty] at member
        cases member
      · exact arrived
  rw [Progress.outcome, answering.clear, answers]

end Answering

/-- An honest driver leads every batch to the answers of its requests. -/
theorem runs_honest {exchanges : List (Exchange kernel)} {ended : Except IpmiError Progress}
    (runs : Runs addressing requests progress exchanges ended) :
    ∀ {pending : List Message}, Answering reply addressing requests pending progress →
      Honest reply pending exchanges →
      ended.bind Progress.outcome = .ok (requests.map (answerOf reply addressing)) := by
  -- Whatever a step does, the answer of each request that was sent is on its way or in its place.
  induction runs with
  -- Nothing is left to take, so that every answer is in its place.
  | drained none_left =>
    intro pending answering _
    exact answering.outcome none_left
  -- The message that is sent will be answered, since the driver is honest.
  | sent left next onward ih =>
    intro pending answering honest
    obtain ⟨rfl, further⟩ := honest
    exact ih (answering.afterSend next) further
  -- Something is to be delivered, so that an honest driver does not let the wait end without it.
  | @timedOut progress left blocked =>
    intro pending answering honest
    cases honest.1 (answering.busy left blocked)
  | @failed progress error left blocked =>
    intro pending answering honest
    cases honest.1 (answering.busy left blocked)
  -- An honest driver hands over one of the messages that are to be delivered.
  | taken left blocked onward ih =>
    intro pending answering honest
    rcases honest.2 with ⟨idle, _⟩ | ⟨message, member, rfl, further⟩
    · exact absurd idle (answering.busy left blocked)
    · exact ih (answering.afterReceive left blocked member) further

/-- Whatever an honest driver answers first, it goes on honestly. -/
theorem Honest.split {first rest : List (Exchange kernel)}
    (honest : Honest reply pending (first ++ rest)) :
    Honest reply pending first ∧ ∃ left, Honest reply left rest := by
  -- What is still to be delivered after the first part is what the rest starts with.
  induction first generalizing pending with
  | nil => exact ⟨trivial, pending, honest⟩
  | cons exchange first ih =>
    obtain ⟨call, result⟩ := exchange
    -- The first call decides what is to be delivered for the others, and is honest by itself.
    cases call with
    | openDevice path =>
      obtain ⟨opened, further⟩ := honest
      obtain ⟨front, left⟩ := ih further
      exact ⟨⟨opened, front⟩, left⟩
    | send id address data =>
      obtain ⟨sent, further⟩ := honest
      obtain ⟨front, left⟩ := ih further
      exact ⟨⟨sent, front⟩, left⟩
    | wait =>
      obtain ⟨ready, further⟩ := honest
      obtain ⟨front, left⟩ := ih further
      exact ⟨⟨ready, front⟩, left⟩
    | receive =>
      rcases honest with ⟨idle, further⟩ | ⟨message, member, taken, further⟩
      · obtain ⟨front, left⟩ := ih further
        exact ⟨.inl ⟨idle, front⟩, left⟩
      · obtain ⟨front, left⟩ := ih further
        exact ⟨.inr ⟨message, member, taken, front⟩, left⟩

/-- A driver that is honest, whatever messages were on their way before. -/
def HonestDriver (reply : Address → Bytes → Bytes) (exchanges : List (Exchange kernel)) : Prop :=
  ∃ pending, Honest reply pending exchanges

/-- An honest driver is honest in each part of what it does. -/
theorem splits_honestDriver (reply : Address → Bytes → Bytes) : Splits (HonestDriver reply) := by
  -- What is on its way between the parts is what the second part begins with.
  rintro first rest ⟨pending, honest⟩
  obtain ⟨front, back⟩ := honest.split
  exact ⟨⟨pending, front⟩, back⟩

/-- An honest driver answers every batch of proper requests. -/
theorem succeeds_batch (reply : Address → Bytes → Bytes) {device : String}
    (clean : Text.holdsZero device = false) (addressing : Addressing) {requests : List Request}
    (proper : ∀ request ∈ requests, 2 ≤ request.data.length) :
    (batch device addressing requests).Succeeds (HonestDriver reply)
      (requests.map (answerOf reply addressing)) := by
  rintro exchanges result ⟨pending, honest⟩ course
  -- Opening the device does not fail.
  rcases course_batch clean proper course with ⟨error, rfl, _⟩ | ⟨rest, ended, rfl, runs, rfl⟩
  · cases honest.1
  · -- A device that was just opened has nothing to deliver.
    exact runs_honest runs answering_start honest.2

/-- Sends requests in batches of one, each after the answer to the one before. -/
def oneAtATime (device : String) (addressing : Addressing) (requests : List Request) :
    Attempt kernel (List Response) := do
  let answers ← requests.mapM fun request => batch device addressing [request]
  return answers.flatten

/-- Sending one at a time gives the same answers as sending a batch. -/
theorem succeeds_oneAtATime (reply : Address → Bytes → Bytes) {device : String}
    (clean : Text.holdsZero device = false) (addressing : Addressing) {requests : List Request}
    (proper : ∀ request ∈ requests, 2 ≤ request.data.length) :
    (oneAtATime device addressing requests).Succeeds (HonestDriver reply)
      (requests.map (answerOf reply addressing)) := by
  -- Each batch opens the device anew, so it starts with nothing on its way.
  have each : ∀ request ∈ requests, (batch device addressing [request]).Succeeds
      (HonestDriver reply) [answerOf reply addressing request] := fun request member =>
    succeeds_batch reply clean addressing fun only single =>
      proper only (List.mem_singleton.mp single ▸ member)
  have together : requests.map (answerOf reply addressing)
      = (requests.map fun request => [answerOf reply addressing request]).flatten := by
    rw [← List.flatMap_def, ← List.map_eq_flatMap]
  -- Both ways of asking end with the same list of answers, put together differently.
  rw [oneAtATime, together]
  have splits := splits_honestDriver reply
  exact (Attempt.succeeds_mapM splits requests each).bind splits (Attempt.succeeds_pure _)

end Honesty

/-- An honest driver that delivers the newest answer first. -/
def newestFirst (reply : Address → Bytes → Bytes) : Dialogue.Handler kernel (List Message) :=
  fun call pending => match call with
    | Call.openDevice _ => ((.ok () : Except OsError Unit), [])
    | Call.send id address data =>
      ((.ok () : Except OsError Unit), ⟨id, reply address data⟩ :: pending)
    | Call.wait => (if pending = [] then Readiness.timedOut else Readiness.ready, pending)
    | Call.receive => match pending with
      | [] => ((.error .inputOutput : Except OsError Message), [])
      | message :: rest => ((.ok message : Except OsError Message), rest)

/-- A driver that delivers the newest answer first is honest, whatever is asked of it. -/
theorem honest_newestFirst {α : Type} (reply : Address → Bytes → Bytes)
    (dialogue : Dialogue kernel α) (pending : List Message) :
    Honest reply pending (dialogue.transcript (newestFirst reply) pending) := by
  -- The driver keeps exactly the messages that it still has to deliver.
  induction dialogue generalizing pending with
  | done value => trivial
  | note event next ih => exact ih pending
  | ask call next ih =>
    cases call with
    | openDevice path => exact ⟨rfl, ih _ []⟩
    | send id address data => exact ⟨rfl, ih _ _⟩
    -- The driver is ready exactly when there is something to deliver.
    | wait => exact ⟨fun busy => if_neg busy, ih _ pending⟩
    | receive =>
      cases pending with
      | nil => exact .inl ⟨rfl, ih _ []⟩
      | cons message rest =>
        -- The newest message is one of those that are to be delivered.
        refine .inr ⟨message, List.mem_cons_self, rfl, ?_⟩
        rw [List.erase_cons_head]
        exact ih _ rest

/--
Every answer of a batch ends up in the place of its request.

When nothing fails, each place holds the last message that came under its number, or none; when
the driver answers each message once, in any order, each place holds the answer of its request,
just as when the requests are sent one at a time.
-/
theorem batch_answers {σ : Type} (device : String) (clean : Text.holdsZero device = false)
    (addressing : Addressing) (requests : List Request)
    (proper : ∀ request ∈ requests, 2 ≤ request.data.length)
    (handler : Dialogue.Handler kernel σ) (memory : σ) :
    ((∀ exchange ∈ (batch device addressing requests).outcome.transcript handler memory,
        Succeeds exchange) →
      ((batch device addressing requests).outcome.run handler memory).1
        = .ok ((List.range requests.length).map (lastUnder
            (delivered ((batch device addressing requests).outcome.transcript handler memory))))) ∧
    ∀ (reply : Address → Bytes → Bytes) (pending : List Message),
      Honest reply pending ((batch device addressing requests).outcome.transcript handler memory) →
      ((batch device addressing requests).outcome.run handler memory).1
        = .ok (requests.map fun request =>
            .answered ((reply (addressing.address request) request.data).take receiveCapacity)) ∧
      ∀ {τ : Type} (other : Dialogue.Handler kernel τ) (state : τ),
        Honest reply pending
          ((oneAtATime device addressing requests).outcome.transcript other state) →
        ((oneAtATime device addressing requests).outcome.run other state).1
          = ((batch device addressing requests).outcome.run handler memory).1 := by
  -- The run is one course of the batch, so that what holds of all courses holds of it.
  have course := Dialogue.course_run handler (batch device addressing requests).outcome memory
  constructor
  -- Nothing fails, so that the device opens and the loop goes on to its end.
  · intro succeed
    rcases course_batch clean proper course with ⟨error, opened, _⟩ |
      ⟨rest, ended, opened, runs, result⟩
    · have failed : (.error error : Except OsError Unit) = .ok () :=
        succeed (opening device (.error error)) (by rw [opened]; exact List.mem_singleton_self _)
      cases failed
    · rw [opened] at succeed ⊢
      obtain ⟨final, rfl, clear, answers⟩ := runs_succeeds runs fun exchange member =>
        succeed exchange (List.mem_cons_of_mem _ member)
      rw [result]
      change final.outcome = _
      rw [Progress.outcome, clear, answers, foldl_put_start]
      rfl
  -- The driver is honest, so that both ways of asking end with the answers of their requests.
  · intro reply pending honest
    have answered := (succeeds_batch reply clean addressing proper).run ⟨pending, honest⟩
    refine ⟨answered, fun other state alike => ?_⟩
    rw [answered]
    exact (succeeds_oneAtATime reply clean addressing proper).run ⟨pending, alike⟩

/-- Five requests, each with a parameter of its own. -/
def fiveRequests : List Request :=
  [0x10, 0x11, 0x12, 0x13, 0x14].map fun parameter => ⟨[0x2e, 0x40, parameter], 6, 0x2c⟩

/-- A driver that answers each message with its last byte, the newest first, mixes nothing up. -/
theorem batch_answers_newestFirst :
    Text.holdsZero "/dev/ipmi0" = false ∧ (∀ request ∈ fiveRequests, 2 ≤ request.data.length) ∧
      Honest (fun _ data => 0x00 :: data.drop 2) []
        ((batch "/dev/ipmi0" .bus fiveRequests).outcome.transcript
          (newestFirst fun _ data => 0x00 :: data.drop 2) []) ∧
      ((batch "/dev/ipmi0" .bus fiveRequests).outcome.run
          (newestFirst fun _ data => 0x00 :: data.drop 2) []).1
        = .ok [.answered [0x00, 0x10], .answered [0x00, 0x11], .answered [0x00, 0x12],
            .answered [0x00, 0x13], .answered [0x00, 0x14]] := by
  have clean : Text.holdsZero "/dev/ipmi0" = false := by decide
  have proper : ∀ request ∈ fiveRequests, 2 ≤ request.data.length := by decide
  have honest : Honest (fun _ data => 0x00 :: data.drop 2) []
      ((batch "/dev/ipmi0" .bus fiveRequests).outcome.transcript
        (newestFirst fun _ data => 0x00 :: data.drop 2) []) :=
    honest_newestFirst _ _ []
  exact ⟨clean, proper, honest, ((batch_answers "/dev/ipmi0" clean .bus fiveRequests proper
    (newestFirst fun _ data => 0x00 :: data.drop 2) []).2 _ [] honest).1⟩

end BmcTelemetry.Driver
