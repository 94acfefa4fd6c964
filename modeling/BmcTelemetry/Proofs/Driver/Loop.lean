import BmcTelemetry.Driver.Batch
import BmcTelemetry.Proofs.Dialogue.Course

/-! The loop of a batch: what each step can do, and what every step keeps in balance. -/

namespace BmcTelemetry.Driver

open Dialogue (Course)

/-- The exchange that opens a device. -/
def opening (path : String) (result : Except OsError Unit) : Exchange kernel :=
  ⟨.openDevice path, result⟩

/-- The exchange that sends a message. -/
def sending (id : Nat) (address : Address) (data : Bytes) (result : Except OsError Unit) :
    Exchange kernel :=
  ⟨.send id address data, result⟩

/-- The exchange that waits for a message. -/
def waiting (readiness : Readiness) : Exchange kernel :=
  ⟨.wait, readiness⟩

/-- The exchange that takes a message. -/
def taking (result : Except OsError Message) : Exchange kernel :=
  ⟨.receive, result⟩

/-- The exchanges and the end of a batch from some progress on. -/
inductive Runs (addressing : Addressing) (requests : List Request) :
    Progress → List (Exchange kernel) → Except IpmiError Progress → Prop
  /-- No message is left to take. -/
  | drained {progress : Progress} (none_left : progress.toReceive = 0) :
      Runs addressing requests progress [] (.ok progress)
  /-- The next request is sent, or at least tried. -/
  | sent {progress : Progress} {request : Request} {result : Except OsError Unit}
      {rest : List (Exchange kernel)} {ended : Except IpmiError Progress}
      (left : progress.toReceive ≠ 0) (next : progress.next? requests = some request)
      (onward : Runs addressing requests (progress.afterSend result) rest ended) :
      Runs addressing requests progress
        (sending progress.sent (addressing.address request) request.data result :: rest) ended
  /-- No message comes in time, which ends the batch. -/
  | timedOut {progress : Progress} (left : progress.toReceive ≠ 0)
      (blocked : progress.next? requests = none) :
      Runs addressing requests progress [waiting .timedOut] (.error waitTimedOut)
  /-- Waiting fails, which ends the batch. -/
  | failed {progress : Progress} {error : OsError} (left : progress.toReceive ≠ 0)
      (blocked : progress.next? requests = none) :
      Runs addressing requests progress [waiting (.failed error)] (.error (waitFailed error))
  /-- A message is taken, or at least tried. -/
  | taken {progress : Progress} {result : Except OsError Message}
      {rest : List (Exchange kernel)} {ended : Except IpmiError Progress}
      (left : progress.toReceive ≠ 0) (blocked : progress.next? requests = none)
      (onward : Runs addressing requests (progress.afterReceive result) rest ended) :
      Runs addressing requests progress (waiting .ready :: taking result :: rest) ended

section Steps

variable {addressing : Addressing} {requests : List Request} {progress : Progress}
  {exchanges : List (Exchange kernel)}

/-- The next request is the first that was not sent, if the window has room. -/
theorem next?_eq_some_iff {request : Request} :
    progress.next? requests = some request ↔
      progress.inFlight < window ∧ requests[progress.sent]? = some request := by
  -- Without room nothing is sent, whatever is left to send.
  rw [Progress.next?]
  split
  next room => simp [room]
  next full => simp [full]

/-- Taking a message is one exchange, after which the batch has come further. -/
theorem course_receive {result : Progress}
    (course : Course (receive progress) exchanges result) :
    ∃ took, exchanges = [taking took] ∧ result = progress.afterReceive took := by
  -- Taking is one call, and everything after it works on what the call gave.
  rw [receive, Dialogue.course_bind_iff] at course
  obtain ⟨first, took, rest, asked, course, rfl⟩ := course
  obtain rfl := Dialogue.course_query_iff.mp asked
  -- A message is reported before the batch comes further, and a failure is not.
  cases took with
  | error error =>
    obtain ⟨rfl, rfl⟩ := Dialogue.course_pure_iff.mp course
    exact ⟨.error error, rfl, rfl⟩
  | ok message =>
    obtain ⟨second, _, last, noted, ended, rfl⟩ := Dialogue.course_bind_iff.mp course
    obtain rfl := Dialogue.course_report_iff.mp noted
    obtain ⟨rfl, rfl⟩ := Dialogue.course_pure_iff.mp ended
    exact ⟨.ok message, rfl, rfl⟩

/-- A step sends the next request, takes a message, or ends the batch. -/
theorem course_step {result : Except IpmiError Progress}
    (course : Course (step addressing requests progress).outcome exchanges result) :
    (∃ request sent, progress.next? requests = some request ∧
      exchanges = [sending progress.sent (addressing.address request) request.data sent] ∧
      result = .ok (progress.afterSend sent)) ∨
    progress.next? requests = none ∧
      ((exchanges = [waiting .timedOut] ∧ result = .error waitTimedOut) ∨
        (∃ error, exchanges = [waiting (.failed error)] ∧ result = .error (waitFailed error)) ∨
        ∃ took, exchanges = [waiting .ready, taking took] ∧
          result = .ok (progress.afterReceive took)) := by
  rw [step] at course
  cases next : progress.next? requests with
  | some request =>
    -- The message is sent, whatever comes of it.
    simp only [next] at course
    obtain ⟨first, sent, rest, asked, ended, rfl⟩ :=
      Attempt.course_liftDialogue_bind_iff.mp course
    obtain rfl := Dialogue.course_query_iff.mp asked
    obtain ⟨rfl, rfl⟩ := Attempt.course_pure_iff.mp ended
    exact .inl ⟨request, sent, rfl, rfl, rfl⟩
  | none =>
    simp only [next] at course
    refine .inr ⟨rfl, ?_⟩
    obtain ⟨first, readiness, rest, asked, ended, rfl⟩ :=
      Attempt.course_liftDialogue_bind_iff.mp course
    obtain rfl := Dialogue.course_query_iff.mp asked
    -- What follows depends on how waiting ended.
    cases readiness with
    | ready =>
      obtain ⟨_, received, rfl⟩ := Attempt.course_liftDialogue_iff.mp ended
      obtain ⟨took, rfl, rfl⟩ := course_receive received
      exact .inr (.inr ⟨took, rfl, rfl⟩)
    | timedOut =>
      obtain ⟨rfl, rfl⟩ := Attempt.course_fail_iff.mp ended
      exact .inl ⟨rfl, rfl⟩
    | failed error =>
      obtain ⟨rfl, rfl⟩ := Attempt.course_fail_iff.mp ended
      exact .inr (.inl ⟨error, rfl, rfl⟩)

/-- What a batch may still have to do: requests to send and messages to take. -/
def Progress.ahead (requests : List Request) (progress : Progress) : Nat :=
  requests.length - progress.sent + progress.toReceive

/-- Sending the next request leaves less to do. -/
theorem ahead_afterSend {request : Request} (next : progress.next? requests = some request)
    (sent : Except OsError Unit) :
    (progress.afterSend sent).ahead requests < progress.ahead requests := by
  -- The request that is sent is one of those that are left.
  have inside := (List.getElem?_eq_some_iff.mp (next?_eq_some_iff.mp next).2).1
  cases sent with
  | ok _ =>
    -- One request fewer is left to send, and its answer is still to be taken.
    simp only [Progress.ahead, Progress.afterSend]
    omega
  | error _ =>
    -- Neither the request nor an answer to it is left.
    simp only [Progress.ahead, Progress.afterSend]
    omega

/-- Taking a message leaves less to do. -/
theorem ahead_afterReceive (requests : List Request) (left : progress.toReceive ≠ 0)
    (took : Except OsError Message) :
    (progress.afterReceive took).ahead requests < progress.ahead requests := by
  -- Taking counts as done whether a message came or not.
  cases took with
  | ok _ =>
    simp only [Progress.ahead, Progress.afterReceive]
    omega
  | error _ =>
    simp only [Progress.ahead, Progress.afterReceive]
    omega

/-- Every course of enough steps is a run of the loop to its end. -/
theorem steps_runs {budget : Nat} {result : Except IpmiError Progress}
    (enough : progress.ahead requests ≤ budget)
    (course : Course (steps addressing requests budget progress).outcome exchanges result) :
    Runs addressing requests progress exchanges result := by
  -- Each step leaves less to do, so the budget outlasts what there is to do.
  induction budget generalizing progress exchanges result with
  | zero =>
    -- Without steps left there is nothing left to do, so that nothing is to be taken.
    obtain ⟨rfl, rfl⟩ := Attempt.course_pure_iff.mp course
    simp only [Progress.ahead] at enough
    exact .drained (by omega)
  | succ budget ih =>
    rw [steps] at course
    -- The loop looks first whether something is to be taken, and ends where nothing is.
    by_cases drained : progress.toReceive = 0
    · rw [if_pos drained] at course
      obtain ⟨rfl, rfl⟩ := Attempt.course_pure_iff.mp course
      exact .drained drained
    · rw [if_neg drained, Attempt.course_bind_iff] at course
      rcases course with ⟨error, stepped, rfl⟩ | ⟨first, further, rest, stepped, onward, rfl⟩
      -- A step gives up only where waiting fails, which is the end of the batch.
      · rcases course_step stepped with ⟨request, sent, _, _, same⟩ |
          ⟨blocked, ⟨rfl, same⟩ | ⟨failure, rfl, same⟩ | ⟨took, _, same⟩⟩
        · cases same
        · obtain rfl := Except.error.inj same
          exact .timedOut drained blocked
        · obtain rfl := Except.error.inj same
          exact .failed drained blocked
        · cases same
      -- A step that ends well has sent a request or taken a message, and the loop goes on from
      -- there.
      · rcases course_step stepped with ⟨request, sent, next, rfl, same⟩ |
          ⟨blocked, ⟨rfl, same⟩ | ⟨failure, rfl, same⟩ | ⟨took, rfl, same⟩⟩
        · obtain rfl := Except.ok.inj same
          have less := ahead_afterSend next sent
          exact .sent drained next (ih (by omega) onward)
        · cases same
        · cases same
        · obtain rfl := Except.ok.inj same
          have less := ahead_afterReceive requests drained took
          exact .taken drained blocked (ih (by omega) onward)

end Steps

/-- What every step keeps in balance, for a batch of so many requests. -/
structure Progress.Balanced (count : Nat) (progress : Progress) : Prop where
  /-- No request is sent twice. -/
  within : progress.sent ≤ count
  /-- What is to be taken is on its way or still to be sent. -/
  counted : progress.toReceive = (count - progress.sent) + progress.inFlight
  /-- The window is never exceeded. -/
  windowed : progress.inFlight ≤ window
  /-- There is a place for the answer of each request. -/
  placed : progress.answers.length = count

/-- Putting an answer in its place adds and removes none. -/
@[simp] theorem length_put (answers : List Response) (message : Message) :
    (Progress.put answers message).length = answers.length := by
  -- A place is written over or left, and in neither case does their number change.
  unfold Progress.put
  split
  · exact List.length_set
  · rfl

/-- At the start nothing is on its way. -/
theorem balanced_start (count : Nat) : (Progress.start count).Balanced count :=
  ⟨Nat.zero_le _, rfl, Nat.zero_le _, List.length_replicate⟩

namespace Progress.Balanced

variable {requests : List Request} {progress : Progress}

/-- A batch sends on while there is room, so what it waits for is on its way. -/
theorem inFlight_pos (balanced : progress.Balanced requests.length)
    (left : progress.toReceive ≠ 0) (blocked : progress.next? requests = none) :
    0 < progress.inFlight := by
  -- What is to be taken is on its way or to be sent, and nothing can be sent now.
  have counted := balanced.counted
  unfold Progress.next? at blocked
  split at blocked
  · -- There was room, so there was nothing left to send.
    have exhausted := List.getElem?_eq_none_iff.mp blocked
    omega
  · -- There was no room, so the window is full.
    rename_i full
    unfold window at full
    omega

/-- Sending a request keeps the balance. -/
theorem afterSend (balanced : progress.Balanced requests.length) {request : Request}
    (next : progress.next? requests = some request) (sent : Except OsError Unit) :
    (progress.afterSend sent).Balanced requests.length := by
  obtain ⟨within, counted, windowed, placed⟩ := balanced
  -- There was room for one more on its way, and there was a request to send.
  obtain ⟨room, found⟩ := next?_eq_some_iff.mp next
  have inside := (List.getElem?_eq_some_iff.mp found).1
  unfold window at room
  cases sent with
  | ok _ =>
    -- One more is on its way, and one fewer is still to be sent.
    refine ⟨?_, ?_, ?_, placed⟩
    · simp only [Progress.afterSend]
      omega
    · simp only [Progress.afterSend]
      omega
    · simp only [Progress.afterSend, window]
      omega
  | error _ =>
    -- What was not sent is not waited for.
    refine ⟨?_, ?_, windowed, placed⟩
    · simp only [Progress.afterSend]
      omega
    · simp only [Progress.afterSend]
      omega

/-- Taking a message keeps the balance. -/
theorem afterReceive (balanced : progress.Balanced requests.length)
    (left : progress.toReceive ≠ 0) (blocked : progress.next? requests = none)
    (took : Except OsError Message) :
    (progress.afterReceive took).Balanced requests.length := by
  have positive := balanced.inFlight_pos left blocked
  obtain ⟨within, counted, windowed, placed⟩ := balanced
  -- Something was on its way, so the count of it can go down by one.
  cases took with
  | ok message =>
    refine ⟨within, ?_, ?_, ?_⟩
    · simp only [Progress.afterReceive]
      omega
    · simp only [Progress.afterReceive]
      omega
    · simpa only [Progress.afterReceive, length_put] using placed
  | error _ =>
    refine ⟨within, ?_, ?_, placed⟩
    · simp only [Progress.afterReceive]
      omega
    · simp only [Progress.afterReceive]
      omega

end Progress.Balanced

/-- Opening a device whose path holds no zero is one exchange. -/
theorem course_openDevice {device : String} {exchanges : List (Exchange kernel)}
    {result : Except OsError Unit} (clean : Text.holdsZero device = false)
    (course : Course (openDevice device) exchanges result) :
    exchanges = [opening device result] := by
  -- The path is checked before the call, and this one passes the check.
  have asks : openDevice device = Dialogue.query (I := kernel) (.openDevice device) :=
    if_neg (by simp [clean])
  rw [asks] at course
  exact Dialogue.course_query_iff.mp course

/-- A batch with a request that is too short is given up before the device is opened. -/
theorem course_batch_short {device : String} {addressing : Addressing} {requests : List Request}
    {exchanges : List (Exchange kernel)} {result : Except IpmiError (List Response)}
    (short : ∃ request ∈ requests, request.data.length < 2)
    (course : Course (batch device addressing requests).outcome exchanges result) :
    exchanges = [] ∧ result = .error invalidLength := by
  obtain ⟨request, member, tooShort⟩ := short
  -- The search for a short request finds one.
  cases found : firstTooShort requests with
  | none =>
    -- A search that finds nothing would have found this request to be long enough.
    have long := List.findIdx?_eq_none_iff.mp found request member
    exact absurd tooShort (of_decide_eq_false long)
  | some index =>
    -- The batch reports the short request and gives up, neither of which is an exchange.
    simp only [batch, found] at course
    exact Attempt.course_fail_iff.mp (Attempt.course_report_bind_iff.mp course)

/-- The search for a short request finds none among proper ones. -/
theorem firstTooShort_proper {requests : List Request}
    (proper : ∀ request ∈ requests, 2 ≤ request.data.length) : firstTooShort requests = none := by
  -- The search finds nothing when no request has what it looks for.
  rw [firstTooShort, List.findIdx?_eq_none_iff]
  intro request member
  have long := proper request member
  rw [decide_eq_false_iff_not]
  omega

/-- A batch of proper requests to a device whose path cannot be passed on asks for nothing. -/
theorem course_batch_refused {device : String} {addressing : Addressing} {requests : List Request}
    {exchanges : List (Exchange kernel)} {result : Except IpmiError (List Response)}
    (unclean : Text.holdsZero device = true)
    (proper : ∀ request ∈ requests, 2 ≤ request.data.length)
    (course : Course (batch device addressing requests).outcome exchanges result) :
    exchanges = [] ∧ result = .error (openFailed .zeroInPath) := by
  -- The check of the path takes the place of the call, with an error of its own.
  have refused : openDevice device = (return .error .zeroInPath) := if_pos unclean
  simp only [batch, firstTooShort_proper proper, refused] at course
  obtain ⟨_, opened, _, asked, onward, rfl⟩ := Attempt.course_liftDialogue_bind_iff.mp course
  obtain ⟨rfl, rfl⟩ := Dialogue.course_pure_iff.mp asked
  exact Attempt.course_fail_iff.mp onward

/-- A batch of proper requests opens its device and then runs its loop to an end. -/
theorem course_batch {device : String} {addressing : Addressing} {requests : List Request}
    {exchanges : List (Exchange kernel)} {result : Except IpmiError (List Response)}
    (clean : Text.holdsZero device = false) (proper : ∀ request ∈ requests, 2 ≤ request.data.length)
    (course : Course (batch device addressing requests).outcome exchanges result) :
    (∃ error, exchanges = [opening device (.error error)] ∧ result = .error (openFailed error)) ∨
    ∃ rest ended, exchanges = opening device (.ok ()) :: rest ∧
      Runs addressing requests (.start requests.length) rest ended ∧
      result = ended.bind Progress.outcome := by
  -- The search for short requests finds none, so that the batch goes on to open the device.
  simp only [batch, firstTooShort_proper proper] at course
  obtain ⟨first, opened, rest, asked, onward, rfl⟩ :=
    Attempt.course_liftDialogue_bind_iff.mp course
  obtain rfl := course_openDevice clean asked
  cases opened with
  | error error =>
    -- A device that does not open ends the batch before its loop.
    obtain ⟨rfl, rfl⟩ := Attempt.course_fail_iff.mp onward
    exact .inl ⟨error, rfl, rfl⟩
  | ok _ =>
    -- Twice as many steps as requests are enough, one to send each and one to take its answer.
    have enough : (Progress.start requests.length).ahead requests ≤ 2 * requests.length := by
      simp only [Progress.ahead, Progress.start]
      omega
    -- The loop ends with an error, or with a progress that is turned into the result at no cost.
    rcases Attempt.course_bind_iff.mp onward with ⟨error, looped, rfl⟩ |
      ⟨second, progress, last, looped, ended, rfl⟩
    · exact .inr ⟨rest, .error error, rfl, steps_runs enough looped, rfl⟩
    · obtain ⟨rfl, rfl⟩ := Attempt.course_lift_iff.mp ended
      exact .inr ⟨second, .ok progress, by simp [opening], steps_runs enough looped, rfl⟩

end BmcTelemetry.Driver
