import BmcTelemetry.Driver.Basic
import BmcTelemetry.Response

/-! Batches: several requests in flight at once, their answers put in place by message id. -/

namespace BmcTelemetry.Driver

/-- How the requests of a batch are addressed. -/
inductive Addressing where
  /-- Each to its own channel and slave. -/
  | bus
  /-- All to the controller itself. -/
  | controller
deriving DecidableEq, Repr

/-- The address of a request. -/
def Addressing.address : Addressing → Request → Address
  | .bus, request => .bus request.channel request.slave
  | .controller, _ => .controller

/-- The most requests in flight at once. -/
def window : Nat := 3

/-- The most bytes of an answer that there is room for. -/
def receiveCapacity : Nat := 1024

/-- The failure of an operating-system call, under a code for the operation. -/
def systemError (code : Int) (error : OsError) : IpmiError :=
  .system code error.number error.message

/-- The failure of a request that is too short to name a command. -/
def invalidLength : IpmiError := .invalidCall (-2)

/-- The failure of opening the device. -/
def openFailed : OsError → IpmiError := systemError 100

/-- The failure of sending a message. -/
def sendFailed : OsError → IpmiError := systemError 200

/-- The failure of waiting for a message. -/
def waitFailed : OsError → IpmiError := systemError 300

/-- The failure of a message to come in time. -/
def waitTimedOut : IpmiError := .system 310 0 "Timeout on read select."

/-- The failure of taking a message. -/
def receiveFailed : OsError → IpmiError := systemError 320

/-- How far a batch has come. -/
structure Progress where
  /-- How many requests were sent, or at least tried. -/
  sent : Nat
  /-- How many messages are on their way. -/
  inFlight : Nat
  /-- How many messages are still to be taken. -/
  toReceive : Nat
  /-- The answers by place, missing where none has come. -/
  answers : List Response
  /-- The last failure that did not end the batch. -/
  deferred : Option IpmiError
deriving DecidableEq, Repr

namespace Progress

/-- A batch of so many requests before anything happened. -/
def start (count : Nat) : Progress :=
  { sent := 0, inFlight := 0, toReceive := count, answers := List.replicate count .missing,
    deferred := none }

/-- The batch after an attempt to send its next request. -/
def afterSend (progress : Progress) : Except OsError Unit → Progress
  | .ok () => { progress with sent := progress.sent + 1, inFlight := progress.inFlight + 1 }
  -- A request that was not sent is not waited for.
  | .error error =>
    { progress with
      sent := progress.sent + 1
      toReceive := progress.toReceive - 1
      deferred := some (sendFailed error) }

/-- The place that a message id is shown as; a negative one as the last that a word can name. -/
def slot (id : Int) : Nat :=
  if id < 0 then UInt64.size - 1 else id.toNat

/-- Puts the answer of a message in the place of its id, if there is such a place. -/
def put (answers : List Response) (message : Message) : List Response :=
  match message.id with
  | .ofNat place => answers.set place (.answered (message.data.take receiveCapacity))
  -- A negative id is the id of no request.
  | .negSucc _ => answers

/-- The batch after an attempt to take a message. -/
def afterReceive (progress : Progress) : Except OsError Message → Progress
  | .ok message =>
    { progress with
      inFlight := progress.inFlight - 1
      toReceive := progress.toReceive - 1
      answers := put progress.answers message }
  | .error error =>
    { progress with
      inFlight := progress.inFlight - 1
      toReceive := progress.toReceive - 1
      deferred := some (receiveFailed error) }

/-- The request to send next, while the window has room. -/
def next? (requests : List Request) (progress : Progress) : Option Request :=
  if progress.inFlight < window then requests[progress.sent]? else none

/-- The outcome of a batch that has taken all its messages. -/
def outcome (progress : Progress) : Except IpmiError (List Response) :=
  match progress.deferred with
  | some error => .error error
  | none => .ok progress.answers

end Progress

/-- Takes a message and reports it. -/
def receive (progress : Progress) : Dialogue kernel Progress := do
  let taken ← Dialogue.query (I := kernel) .receive
  match taken with
  | .ok message =>
    Dialogue.report (.driverAnswered (Progress.slot message.id)
      (min message.data.length receiveCapacity))
    return progress.afterReceive (.ok message)
  | .error error => return progress.afterReceive (.error error)

/-- One step of a batch: sends while the window has room, takes a message otherwise. -/
def step (addressing : Addressing) (requests : List Request) (progress : Progress) :
    Attempt kernel Progress := do
  match progress.next? requests with
  | some request =>
    let sent ← ExceptT.lift (Dialogue.query (I := kernel)
      (.send progress.sent (addressing.address request) request.data))
    return progress.afterSend sent
  | none =>
    let readiness ← ExceptT.lift (Dialogue.query (I := kernel) .wait)
    match readiness with
    | .ready => ExceptT.lift (receive progress)
    -- Waiting in vain ends the batch at once.
    | .timedOut => Attempt.fail waitTimedOut
    | .failed error => Attempt.fail (waitFailed error)

/-- Takes at most so many steps, until no message is left to take. -/
def steps (addressing : Addressing) (requests : List Request) :
    Nat → Progress → Attempt kernel Progress
  | 0, progress => return progress
  | budget + 1, progress =>
    if progress.toReceive = 0 then return progress
    else do steps addressing requests budget (← step addressing requests progress)

/-- The place of the first request that is too short to name a command. -/
def firstTooShort (requests : List Request) : Option Nat :=
  requests.findIdx? fun request => request.data.length < 2

/-- Opens a device. -/
def openDevice (path : String) : Dialogue kernel (Except OsError Unit) :=
  if Text.holdsZero path then return .error .zeroInPath
  else Dialogue.query (I := kernel) (.openDevice path)

/-- Sends a batch through a device and collects the answers, in the order of the requests. -/
def batch (device : String) (addressing : Addressing) (requests : List Request) :
    Attempt kernel (List Response) := do
  match firstTooShort requests with
  | some index =>
    Attempt.report (.requestTooShort index)
    Attempt.fail invalidLength
  | none =>
    let opened ← ExceptT.lift (openDevice device)
    match opened with
    | .error error => Attempt.fail (openFailed error)
    | .ok () =>
      -- Each request is sent once and taken at most once, which bounds the number of steps.
      let progress ← steps addressing requests (2 * requests.length) (.start requests.length)
      Attempt.lift progress.outcome

end BmcTelemetry.Driver
