import BmcTelemetry.Proofs.Dialogue.Heeds
import BmcTelemetry.Proofs.Driver.Failure

/-!
The account of a batch: what is sent, waited for and taken, whatever the driver answers.

The exchanges alone tell how far a batch has come, so what holds of its counts is said of what the
exchanges up to any moment add up to.
-/

namespace BmcTelemetry.Driver

open Attempt (failureOf)
open Dialogue (Course)

/-- The call of an exchange with the driver. -/
def call (exchange : Exchange kernel) : Call :=
  exchange.query

namespace Progress

/-- The batch after one more exchange. -/
def after (progress : Progress) (exchange : Exchange kernel) : Progress :=
  match exchange with
  | ⟨Call.send _ _ _, result⟩ => progress.afterSend result
  | ⟨Call.receive, result⟩ => progress.afterReceive result
  -- Neither opening nor waiting changes a count.
  | ⟨Call.openDevice _, _⟩ => progress
  | ⟨Call.wait, _⟩ => progress

/-- The batch after several exchanges, one after another. -/
def replay (progress : Progress) (exchanges : List (Exchange kernel)) : Progress :=
  exchanges.foldl after progress

/-- An exchange that the counts allow: the next request while the window has room, or a wait for
something that is on its way. -/
def Allows (addressing : Addressing) (requests : List Request) (progress : Progress)
    (exchange : Exchange kernel) : Prop :=
  match call exchange with
  | Call.send id address data => id = progress.sent ∧ progress.inFlight < window ∧
      ∃ request, requests[progress.sent]? = some request ∧
        address = addressing.address request ∧ data = request.data
  | Call.wait => 0 < progress.inFlight
  | Call.receive => 0 < progress.inFlight
  -- The device is opened before there is anything to count.
  | Call.openDevice _ => False

/-- The counts are in balance before and after each of the exchanges, and allow each of them. -/
def Keeps (addressing : Addressing) (requests : List Request) :
    Progress → List (Exchange kernel) → Prop
  | progress, [] => progress.Balanced requests.length
  | progress, exchange :: rest =>
    progress.Balanced requests.length ∧ progress.Allows addressing requests exchange ∧
      Keeps addressing requests (progress.after exchange) rest

end Progress

/-- Whether an exchange is an attempt to send a request. -/
def isSend (exchange : Exchange kernel) : Bool :=
  match call exchange with
  | Call.send _ _ _ => true
  | _ => false

/-- Whether an exchange is an attempt to take a message. -/
def isTake (exchange : Exchange kernel) : Bool :=
  match call exchange with
  | Call.receive => true
  | _ => false

/-- Whether an exchange begins a step of the loop, which either sends or waits. -/
def beginsStep (exchange : Exchange kernel) : Bool :=
  match call exchange with
  | Call.send _ _ _ => true
  | Call.wait => true
  | _ => false

/-- Whether an exchange sends a request without failing. -/
def isSent (exchange : Exchange kernel) : Bool :=
  match exchange with
  | ⟨Call.send _ _ _, (.ok _ : Except OsError Unit)⟩ => true
  | _ => false

/-- Why waiting failed, which ends a batch at once. -/
def waitFailure? (exchange : Exchange kernel) : Option IpmiError :=
  match exchange with
  | ⟨Call.wait, (Readiness.timedOut : Readiness)⟩ => some waitTimedOut
  | ⟨Call.wait, (Readiness.failed error : Readiness)⟩ => some (waitFailed error)
  | _ => none

/-- Why sending or taking failed, which is put off until a batch ends. -/
def deferred? (exchange : Exchange kernel) : Option IpmiError :=
  match exchange with
  | ⟨Call.send _ _ _, (.error error : Except OsError Unit)⟩ => some (sendFailed error)
  | ⟨Call.receive, (.error error : Except OsError Message)⟩ => some (receiveFailed error)
  | _ => none

/-- The calls that send the requests of a batch, in order. -/
def sends (addressing : Addressing) (requests : List Request) : List Call :=
  requests.mapIdx fun place request => .send place (addressing.address request) request.data

section Replay

variable {addressing : Addressing} {requests : List Request} {progress : Progress}
  {exchanges : List (Exchange kernel)}

namespace Progress

@[simp] theorem replay_nil : progress.replay [] = progress := rfl

@[simp] theorem replay_cons (exchange : Exchange kernel) :
    progress.replay (exchange :: exchanges) = (progress.after exchange).replay exchanges := rfl

namespace Keeps

/-- The counts are in balance where the exchanges end. -/
theorem balanced_replay (keeps : progress.Keeps addressing requests exchanges) :
    (progress.replay exchanges).Balanced requests.length := by
  induction exchanges generalizing progress with
  | nil => exact keeps
  | cons exchange rest ih => exact ih keeps.2.2

/-- Requests are sent in order, beginning with the first that was not sent before. -/
theorem sends_eq (keeps : progress.Keeps addressing requests exchanges) :
    (sends addressing requests).take (progress.replay exchanges).sent
      = (sends addressing requests).take progress.sent
        ++ (exchanges.filter isSend).map call := by
  -- Each attempt to send takes one more of the calls, and nothing else does.
  induction exchanges generalizing progress with
  | nil => simp
  | cons exchange rest ih =>
    obtain ⟨_, allows, onward⟩ := keeps
    have later := ih onward
    obtain ⟨call, result⟩ := exchange
    cases call with
    | openDevice path => exact allows.elim
    | wait => exact later
    | receive => cases result <;> exact later
    | send id address data =>
      obtain ⟨rfl, _, request, found, rfl, rfl⟩ := allows
      have one : (progress.after ⟨Call.send progress.sent (addressing.address request)
          request.data, result⟩).sent = progress.sent + 1 := by cases result <;> rfl
      have call : (sends addressing requests)[progress.sent]?
          = some (.send progress.sent (addressing.address request) request.data) := by
        rw [sends, List.getElem?_mapIdx, found]
        rfl
      rw [replay_cons, later, one, List.take_add_one, call, List.append_assoc]
      rfl

/-- Everything that was sent has been taken or is still on its way. -/
theorem inFlight_replay (keeps : progress.Keeps addressing requests exchanges) :
    (progress.replay exchanges).inFlight + exchanges.countP isTake
      = progress.inFlight + exchanges.countP isSent := by
  induction exchanges generalizing progress with
  | nil => rfl
  | cons exchange rest ih =>
    obtain ⟨_, allows, onward⟩ := keeps
    have later := ih onward
    obtain ⟨call, result⟩ := exchange
    rw [replay_cons, List.countP_cons, List.countP_cons]
    cases call with
    | openDevice path => exact allows.elim
    | wait => exact later
    | send id address data =>
      cases result with
      | ok _ =>
        change _ + _ = progress.inFlight + 1 + _ at later
        change _ + (_ + 0) = _ + (_ + 1)
        omega
      | error error => exact later
    | receive =>
      -- Something is on its way, so that the count of it goes down by one.
      change 0 < progress.inFlight at allows
      change _ + (_ + 1) = _ + (_ + 0)
      cases result with
      | ok message =>
        change _ + _ = progress.inFlight - 1 + _ at later
        omega
      | error error =>
        change _ + _ = progress.inFlight - 1 + _ at later
        omega

end Keeps

/-- What is put off is the last failure of an exchange, if there is any. -/
theorem deferred_replay (progress : Progress) (exchanges : List (Exchange kernel)) :
    (progress.replay exchanges).deferred
      = ((exchanges.filterMap deferred?).getLast?).or progress.deferred := by
  -- Each failure takes the place of the one before it.
  induction exchanges generalizing progress with
  | nil => rfl
  | cons exchange rest ih =>
    rw [replay_cons, ih]
    obtain ⟨call, result⟩ := exchange
    have last (error : IpmiError) (errors : List IpmiError) (before : Option IpmiError) :
        (error :: errors).getLast?.or before = errors.getLast?.or (some error) := by
      cases errors with
      | nil => rfl
      | cons other rest =>
        rw [List.getLast?_cons_cons, List.getLast?_cons]
        rfl
    cases call with
    | openDevice path => rfl
    | wait => rfl
    | send id address data =>
      cases result with
      | ok _ => rfl
      | error error => exact (last _ _ _).symm
    | receive =>
      cases result with
      | ok message => rfl
      | error error => exact (last _ _ _).symm

/-- The answers are what the messages leave in the places. -/
theorem answers_replay (progress : Progress) (exchanges : List (Exchange kernel)) :
    (progress.replay exchanges).answers = (delivered exchanges).foldl put progress.answers := by
  -- Only an exchange that takes a message changes an answer.
  induction exchanges generalizing progress with
  | nil => rfl
  | cons exchange rest ih =>
    rw [replay_cons, ih]
    obtain ⟨call, result⟩ := exchange
    cases call with
    | openDevice path => rfl
    | wait => rfl
    | send id address data => cases result <;> rfl
    | receive => cases result <;> rfl

end Progress

end Replay

section Loop

variable {addressing : Addressing} {requests : List Request} {progress : Progress}
  {exchanges : List (Exchange kernel)} {ended : Except IpmiError Progress}

/-- A run of the loop keeps the counts in balance, and does nothing that they do not allow. -/
theorem runs_keeps (runs : Runs addressing requests progress exchanges ended)
    (balanced : progress.Balanced requests.length) :
    progress.Keeps addressing requests exchanges := by
  -- A step that waits has something on its way, or it would have something to send.
  induction runs with
  | drained none_left => exact balanced
  | sent left next onward ih =>
    obtain ⟨room, found⟩ := next?_eq_some_iff.mp next
    exact ⟨balanced, ⟨rfl, room, _, found, rfl, rfl⟩, ih (balanced.afterSend next _)⟩
  | timedOut left blocked => exact ⟨balanced, balanced.inFlight_pos left blocked, balanced⟩
  | failed left blocked => exact ⟨balanced, balanced.inFlight_pos left blocked, balanced⟩
  | taken left blocked onward ih =>
    have busy := balanced.inFlight_pos left blocked
    exact ⟨balanced, busy, balanced, busy, ih (balanced.afterReceive left blocked _)⟩

/-- A run of the loop takes no more steps than there is to do. -/
theorem runs_steps_le (runs : Runs addressing requests progress exchanges ended) :
    exchanges.countP beginsStep ≤ progress.ahead requests := by
  -- Every step leaves less to do, and one that fails had something to do.
  induction runs with
  | drained none_left => exact Nat.zero_le _
  | @sent progress request result rest ended left next onward ih =>
    have less := ahead_afterSend next result
    rw [List.countP_cons]
    change _ + 1 ≤ _
    omega
  | timedOut left blocked =>
    change 1 ≤ _
    rw [Progress.ahead]
    omega
  | failed left blocked =>
    change 1 ≤ _
    rw [Progress.ahead]
    omega
  | @taken progress result rest ended left blocked onward ih =>
    have less := ahead_afterReceive requests left result
    rw [List.countP_cons, List.countP_cons]
    change _ + 0 + 1 ≤ _
    omega

/-- A run of the loop ends with the first wait that fails. -/
theorem runs_endsAtFailure (runs : Runs addressing requests progress exchanges ended) :
    EndsAtFailure waitFailure? exchanges (failureOf ended) := by
  -- Neither sending nor a wait that ends well is a failure of a wait.
  induction runs with
  | drained none_left => exact endsAtFailure_of_passed (by simp) _
  | @sent progress request result rest ended left next onward ih =>
    have passed : ∀ exchange ∈ [sending progress.sent (addressing.address request) request.data
        result], waitFailure? exchange = none := List.forall_mem_singleton.mpr rfl
    exact ih.after passed
  | timedOut left blocked => exact endsAtFailure_singleton fun error failed => failed
  | failed left blocked => exact endsAtFailure_singleton fun error failed => failed
  | @taken progress result rest ended left blocked onward ih =>
    have passed : ∀ exchange ∈ [waiting .ready, taking result], waitFailure? exchange = none :=
      List.forall_mem_cons.mpr ⟨rfl, List.forall_mem_singleton.mpr rfl⟩
    exact ih.after passed

/-- A run of the loop in which no wait fails goes on until there is nothing left to take. -/
theorem runs_drained (runs : Runs addressing requests progress exchanges ended)
    (patient : ∀ exchange ∈ exchanges, waitFailure? exchange = none) :
    ended = .ok (progress.replay exchanges) ∧ (progress.replay exchanges).toReceive = 0 := by
  -- The loop has three ends, and in two of them a wait has failed.
  induction runs with
  | drained none_left => exact ⟨rfl, none_left⟩
  | sent left next onward ih => exact ih (List.forall_mem_cons.mp patient).2
  | timedOut left blocked => cases (List.forall_mem_cons.mp patient).1
  | failed left blocked => cases (List.forall_mem_cons.mp patient).1
  | taken left blocked onward ih =>
    exact ih (List.forall_mem_cons.mp (List.forall_mem_cons.mp patient).2).2

end Loop

/--
The account of a batch whose device is open.

It tells what the loop of the batch does, whatever the driver answers to any of its calls.
-/
structure Account (addressing : Addressing) (requests : List Request)
    (exchanges : List (Exchange kernel)) (result : Except IpmiError (List Response)) : Prop where
  /-- The counts are in balance all along, and allow each of the exchanges. -/
  keeps : (Progress.start requests.length).Keeps addressing requests exchanges
  /-- Requests are sent in order, each of them once at most. -/
  ordered : (exchanges.filter isSend).map call <+: sends addressing requests
  /-- The loop takes two steps at most for each request. -/
  steps_le : exchanges.countP beginsStep ≤ 2 * requests.length
  /-- The batch succeeds exactly when no call fails. -/
  succeeds_iff : (∃ answers, result = .ok answers) ↔ ∀ exchange ∈ exchanges, Succeeds exchange
  /-- A wait that fails is the last call, and its error is what the batch ends with. -/
  impatient : EndsAtFailure waitFailure? exchanges (failureOf result)
  /-- Where no wait fails, the loop goes on until there is nothing left to take. -/
  drained : (∀ exchange ∈ exchanges, waitFailure? exchange = none) →
    ((Progress.start requests.length).replay exchanges).toReceive = 0
  /-- Where no wait fails, every request is sent, or at least tried, in its turn. -/
  complete : (∀ exchange ∈ exchanges, waitFailure? exchange = none) →
    (exchanges.filter isSend).map call = sends addressing requests
  /-- Where no wait fails, as many messages are taken, or at least tried, as requests were sent. -/
  answered : (∀ exchange ∈ exchanges, waitFailure? exchange = none) →
    exchanges.countP isTake = exchanges.countP isSent
  /-- Where no wait fails, the last failure decides, and without one each place has its answer. -/
  ended : (∀ exchange ∈ exchanges, waitFailure? exchange = none) →
    result = match (exchanges.filterMap deferred?).getLast? with
      | some error => .error error
      | none => .ok ((List.range requests.length).map (lastUnder (delivered exchanges)))

/-- The loop of a batch accounts for all that it exchanges. -/
theorem account_of_runs {addressing : Addressing} {requests : List Request}
    {exchanges : List (Exchange kernel)} {ended : Except IpmiError Progress}
    (runs : Runs addressing requests (.start requests.length) exchanges ended) :
    Account addressing requests exchanges (ended.bind Progress.outcome) := by
  have keeps := runs_keeps runs (balanced_start requests.length)
  -- The calls that were sent are as many of the first ones as the counts say.
  have sent : _ = [] ++ _ := keeps.sends_eq
  rw [List.nil_append] at sent
  have total : (sends addressing requests).length = requests.length := List.length_mapIdx
  have start : (Progress.start requests.length).ahead requests ≤ 2 * requests.length := by
    simp only [Progress.ahead, Progress.start]
    omega
  -- A loop that ends by itself has had no failing wait.
  have ends : EndsAtFailure waitFailure? exchanges (failureOf (ended.bind Progress.outcome)) := by
    cases ended with
    | error error => exact runs_endsAtFailure runs
    | ok final => exact endsAtFailure_of_passed (runs_endsAtFailure runs).passed _
  -- At an end without a failing wait, all is sent and nothing is on its way any more.
  have settled (patient : ∀ exchange ∈ exchanges, waitFailure? exchange = none) :
      ((Progress.start requests.length).replay exchanges).sent = requests.length ∧
        ((Progress.start requests.length).replay exchanges).inFlight = 0 := by
    have counted := keeps.balanced_replay.counted
    have within := keeps.balanced_replay.within
    rw [(runs_drained runs patient).2] at counted
    omega
  exact {
    keeps
    ordered := sent ▸ List.take_prefix _ _
    steps_le := Nat.le_trans (runs_steps_le runs) start
    succeeds_iff := by
      constructor
      · rintro ⟨answers, ended_ok⟩ exchange member
        refine Classical.byContradiction fun fails => ?_
        obtain ⟨error, ended_error⟩ := runs_failed runs (.inr ⟨exchange, member, fails⟩)
        cases ended_ok.symm.trans ended_error
      · intro succeed
        obtain ⟨final, rfl, clear, _⟩ := runs_succeeds runs succeed
        exact ⟨final.answers, by simp [Except.bind, Progress.outcome, clear, Progress.start]⟩
    impatient := ends
    drained := fun patient => (runs_drained runs patient).2
    complete := by
      intro patient
      rw [← sent, (settled patient).1, ← total, List.take_length]
    answered := by
      intro patient
      have taken := keeps.inFlight_replay
      rw [(settled patient).2] at taken
      simpa [Progress.start] using taken
    ended := by
      intro patient
      have last : ((Progress.start requests.length).replay exchanges).deferred
          = (exchanges.filterMap deferred?).getLast? :=
        (Progress.deferred_replay _ exchanges).trans Option.or_none
      have answers : ((Progress.start requests.length).replay exchanges).answers
          = (List.range requests.length).map (lastUnder (delivered exchanges)) := by
        rw [Progress.answers_replay, foldl_put_start]
      rw [(runs_drained runs patient).1]
      change Progress.outcome _ = _
      rw [Progress.outcome, last]
      -- An error that was put off comes before the answers.
      cases (exchanges.filterMap deferred?).getLast? with
      | some error => rfl
      | none => exact congrArg Except.ok answers }

/--
Every batch can be accounted for, whatever the driver answers.

A request that is too short to name a command is refused before any call, and so is a path that holds
a zero character. In every other case the device is opened, and once it is open the loop runs under
its account.
-/
theorem batch_accounted (device : String) (addressing : Addressing) (requests : List Request)
    {σ : Type} (handler : Dialogue.Handler kernel σ) (memory : σ) :
    let exchanges := (batch device addressing requests).outcome.transcript handler memory
    let result := ((batch device addressing requests).outcome.run handler memory).1
    ((∃ request ∈ requests, request.data.length < 2) ∧ exchanges = [] ∧
        result = .error invalidLength) ∨
      ((∀ request ∈ requests, 2 ≤ request.data.length) ∧ Text.holdsZero device = true ∧
        exchanges = [] ∧ result = .error (openFailed .zeroInPath)) ∨
      ((∀ request ∈ requests, 2 ≤ request.data.length) ∧ Text.holdsZero device = false ∧
        ∃ error, exchanges = [opening device (.error error)] ∧
          result = .error (openFailed error)) ∨
      ((∀ request ∈ requests, 2 ≤ request.data.length) ∧ Text.holdsZero device = false ∧
        ∃ rest, exchanges = opening device (.ok ()) :: rest ∧
          Account addressing requests rest result) := by
  intro exchanges result
  have course : Course (batch device addressing requests).outcome exchanges result :=
    Dialogue.course_run handler _ memory
  by_cases proper : ∀ request ∈ requests, 2 ≤ request.data.length
  · refine .inr ?_
    cases clean : Text.holdsZero device with
    | true =>
      -- The path cannot be handed to the driver, so the device is never opened.
      obtain ⟨none, refused⟩ := course_batch_refused clean proper course
      exact .inl ⟨proper, rfl, none, refused⟩
    | false =>
      refine .inr ?_
      -- Opening is the first exchange, and either the only one or the one in front of the loop.
      rcases course_batch clean proper course with ⟨error, opened, refused⟩ |
        ⟨rest, ended, opened, runs, same⟩
      · exact .inl ⟨proper, rfl, error, opened, refused⟩
      · exact .inr ⟨proper, rfl, rest, opened, same ▸ account_of_runs runs⟩
  -- Lengths are looked at first, so that nothing is exchanged when one of them is too short.
  · obtain ⟨request, short⟩ := Classical.not_forall.mp proper
    obtain ⟨member, short⟩ := Classical.not_imp.mp short
    have tooShort : ∃ request ∈ requests, request.data.length < 2 :=
      ⟨request, member, Nat.not_le.mp short⟩
    exact .inl ⟨tooShort, course_batch_short tooShort course⟩

end BmcTelemetry.Driver
