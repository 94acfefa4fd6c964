import BmcTelemetry.Proofs.Dialogue.Eval
import BmcTelemetry.Proofs.Driver.Delivery
import BmcTelemetry.Proofs.Tool.Session
import BmcTelemetry.Transport.KernelDriver
import BmcTelemetry.Transport.LocalTool
import BmcTelemetry.Transport.RemoteTool

/-! What transports bring back when the driver, or the tool, is honest about one controller. -/

namespace BmcTelemetry.Transport

open Driver (Address)

section Conversations

variable {I : Interface} {α : Type} {Fair : List (Exchange I) → Prop}

/-- In fair surroundings a transport brings back these answers of each host. -/
def Brings (transport : Transport I) (Fair : List (Exchange I) → Prop)
    (answers : String → controller.Answers) : Prop :=
  ∀ host request, (transport.exec host request).Returns Fair (answers host request)

/-- Whoever is talked to is found with what the conversation ends with, at either pace. -/
theorem getElem?_eval_hold (pacing : Pacing) (answers : network.Answers)
    (dialogue : String → Dialogue network α) {hosts : List String} {host : String}
    (member : host ∈ hosts) :
    ((pacing.hold (hosts.map fun name => (name, dialogue name))).eval answers)[host]?
      = some ((dialogue host).eval answers) := by
  -- Whoever bears the name of the host holds the same conversation.
  have same : ∀ speaker ∈ hosts.map fun name => (name, dialogue name), speaker.1 = host →
      speaker.2.eval answers = (dialogue host).eval answers := by
    intro speaker listed own
    obtain ⟨name, _, rfl⟩ := List.mem_map.mp listed
    rw [show name = host from own]
  -- The host is among the names, since it is among the hosts.
  have named : host ∈ (hosts.map fun name => (name, dialogue name)).map (·.1) := by
    simpa using member
  -- At either pace each speaker's conversation is held to its end.
  cases pacing with
  | oneByOne => exact Dialogue.getElem?_eval_foldlM _ ∅ same (.inl named)
  | inTurns => exact Dialogue.getElem?_eval_takeTurns _ [] ∅ same (.inl named)

/-- The answers of the controllers of hosts, each to the requests that are addressed to it. -/
def answersOf (answers : String → controller.Answers) : network.Answers :=
  fun (asked : Addressed) => answers asked.host asked.request

/-- A conversation that is addressed to a host ends as the answers of that host let it. -/
theorem eval_addressed (answers : String → controller.Answers) (host : String)
    (dialogue : Dialogue controller α) :
    (addressed host dialogue).eval (answersOf answers) = dialogue.eval (answers host) :=
  Dialogue.eval_translate (I := controller) (J := network) (hand host) (answersOf answers) dialogue

/-- A conversation with several hosts finds of each host what its answers lead to. -/
theorem Brings.converseWithAll {transport : Transport I} {answers : String → controller.Answers}
    (splits : Splits Fair) (brings : transport.Brings Fair answers)
    (dialogue : String → Dialogue controller α) (hosts : List String) :
    ∃ found, (transport.converseWithAll dialogue hosts).Returns Fair found ∧
      ∀ host ∈ hosts, found[host]? = some ((dialogue host).eval (answers host)) := by
  -- The transport brings the answer to every request that is addressed to a host.
  have each : ∀ asked : Addressed, (transport.exec asked.host asked.request).Returns Fair
      (answersOf answers asked) := fun asked => brings asked.host asked.request
  refine ⟨_, Dialogue.returns_translate splits each _, fun host member => ?_⟩
  -- What is found under a host is what its conversation ends with by itself.
  rw [← eval_addressed answers host]
  exact getElem?_eval_hold _ _ (fun name => addressed name (dialogue name)) member

end Conversations

namespace KernelDriver

open Driver (HonestDriver)

variable {device : String} (clean : Text.holdsZero device = false)
  (bmc : Address → Bytes → Bytes)

/-- The driver's answer to a single request, which goes to the controller itself. -/
def answer (bmc : Address → Bytes → Bytes) (request : Request) : Except IpmiError Response :=
  if request.data.length < 2 then .error Driver.invalidLength
  else .ok (Driver.answerOf bmc .controller request)

include clean in
/-- An honest driver answers each single request, unless it is too short to be one. -/
theorem returns_exec (request : Request) :
    (exec device request).Returns (HonestDriver bmc) (answer bmc request) := by
  by_cases short : request.data.length < 2
  · -- A request that is too short ends the batch before the device is opened.
    have tooShort : Driver.firstTooShort [request] = some 0 := by
      rw [Driver.firstTooShort, List.findIdx?_cons, if_pos (decide_eq_true short)]
    have refused : (Driver.batch device .controller [request]).outcome.Returns (HonestDriver bmc)
        (.error Driver.invalidLength) := by
      rw [Driver.batch, tooShort]
      exact Attempt.returns_report_bind (.requestTooShort 0) (Dialogue.returns_pure _)
    rw [exec, answer, if_pos short]
    exact Attempt.returns_error_bind (Driver.splits_honestDriver bmc) refused _
  · -- A batch of one ends with one answer, which is also the last.
    have proper : ∀ other ∈ [request], 2 ≤ other.data.length := by
      intro other member
      rw [List.mem_singleton.mp member]
      exact Nat.not_lt.mp short
    rw [exec, answer, if_neg short]
    exact (Driver.succeeds_batch bmc clean .controller proper).bind
      (Driver.splits_honestDriver bmc) (Attempt.succeeds_pure _)

include clean in
/-- An honest driver answers several requests, each for the place that it is addressed to. -/
theorem returns_batch (protocol : Protocol) {requests : List Request}
    (proper : ∀ request ∈ requests, 2 ≤ request.data.length) :
    (batch device protocol requests).Returns (HonestDriver bmc)
      (.ok (requests.map (Driver.answerOf bmc (addressing protocol)))) := by
  -- The batch is the driver's, unless there is nothing to ask for.
  rw [batch]
  -- Without requests the device is not even opened.
  cases requests with
  | nil => exact Dialogue.returns_pure _
  | cons request rest => exact Driver.succeeds_batch bmc clean (addressing protocol) proper

end KernelDriver

section Tools

open Tool (Honest heard)

variable {tool : Tool} (unbridged : tool.bridge.isSet = false)
  {rule : Exchange processes → Prop} {bmc : Address → Bytes → Bytes}

include unbridged

/-- What a run of the tool brings back of a request, which names its target when it is bridged. -/
theorem succeeds_rawArguments {session : List String}
    (passable : (tool.program :: session).all (fun text => !Text.holdsZero text) = true)
    (honest : ∀ exchange, rule exchange → Honest tool.program session bmc exchange)
    (bridged : Bool) (request : Request) :
    (tool.run (session ++ tool.rawArguments bridged request)).Succeeds
      (fun exchanges => ∀ exchange ∈ exchanges, rule exchange)
      (.answered (heard (bmc (if bridged then request.target else .controller) request.data))) := by
  -- The arguments name the target that the message goes to.
  rw [Tool.rawArguments_eq unbridged]
  exact Tool.succeeds_run passable honest _ _

/-- An honest tool on the machine itself answers each request. -/
theorem LocalTool.returns_exec (clean : Text.holdsZero tool.program = false)
    (honest : ∀ exchange, rule exchange → Honest tool.program [] bmc exchange)
    (bridged : Bool) (request : Request) :
    (LocalTool.exec tool bridged request).Returns
      (fun exchanges => ∀ exchange ∈ exchanges, rule exchange)
      (.ok (.answered
        (heard (bmc (if bridged then request.target else .controller) request.data)))) := by
  -- No session is chosen here, so only the program has to be passed on.
  have passable : [tool.program].all (fun text => !Text.holdsZero text) = true := by
    simp [clean]
  exact Dialogue.returns_report_bind _
    (succeeds_rawArguments unbridged passable honest bridged request)

/-- An honest tool on the machine itself answers several requests one after another. -/
theorem LocalTool.returns_inOrder (clean : Text.holdsZero tool.program = false)
    (honest : ∀ exchange, rule exchange → Honest tool.program [] bmc exchange)
    (requests : List Request) :
    (inOrder (LocalTool.exec tool true) requests).Returns
      (fun exchanges => ∀ exchange ∈ exchanges, rule exchange)
      (.ok (requests.map fun request => .answered (heard (bmc request.target request.data)))) :=
  Attempt.succeeds_mapM (splits_forall rule) requests fun request _ =>
    LocalTool.returns_exec unbridged clean honest true request

/-- The answer of the tool to a request in a session, if the session can be had at all. -/
def RemoteTool.answer (tool : Tool) (credentials : Credentials) (host : String)
    (bmc : Address → Bytes → Bytes) (address : Address) (request : Request) :
    Except IpmiError Response :=
  if (tool.program :: sessionArguments credentials host).all fun text => !Text.holdsZero text then
    .ok (.answered (heard (bmc address request.data)))
  else .error (.io .zeroInArgument)

/-- An honest tool answers each request to a host that can be named to it. -/
theorem RemoteTool.returns_exec {credentials : Credentials} {host : String}
    (honest : ∀ exchange, rule exchange →
      Honest tool.program (sessionArguments credentials host) bmc exchange)
    (bridged : Bool) (request : Request) :
    (RemoteTool.exec tool credentials bridged host request).Returns
      (fun exchanges => ∀ exchange ∈ exchanges, rule exchange)
      (answer tool credentials host bmc (if bridged then request.target else .controller)
        request) := by
  refine Dialogue.returns_report_bind _ ?_
  -- A text with a zero in it keeps the tool from being started at all.
  rw [arguments, answer]
  split
  -- Everything can be passed on, so the request is sent and answered.
  next passable => exact succeeds_rawArguments unbridged passable honest bridged request
  next refused =>
    rw [Tool.rawArguments_eq unbridged]
    exact Tool.returns_run_refused (Bool.eq_false_iff.mpr refused) _ _ _

/-- An honest tool answers several requests to a host, if it can be named to it. -/
theorem RemoteTool.returns_batch {credentials : Credentials} {host : String}
    (passable : (tool.program :: sessionArguments credentials host).all
      (fun text => !Text.holdsZero text) = true)
    (honest : ∀ exchange, rule exchange →
      Honest tool.program (sessionArguments credentials host) bmc exchange)
    (requests : List Request) :
    (RemoteTool.batch tool credentials host requests).Returns
      (fun exchanges => ∀ exchange ∈ exchanges, rule exchange)
      (.ok (requests.map fun request => .answered (heard (bmc request.target request.data)))) := by
  -- The requests are run one after another, and each is answered by its own run.
  have splits := splits_forall rule
  have each : ∀ request ∈ requests, (RemoteTool.exec tool credentials true host request).Returns
      (fun exchanges => ∀ exchange ∈ exchanges, rule exchange)
      (.ok (.answered (heard (bmc request.target request.data)))) := by
    intro request _
    have answered := RemoteTool.returns_exec unbridged honest true request
    rw [answer, if_pos passable] at answered
    exact answered
  refine (Dialogue.returns_mapM splits requests each).bind splits ?_
  refine Dialogue.returns_report_bind _ ?_
  -- No answer is a failure, so the batch is not either.
  have collected : (requests.map fun request => (.ok (.answered
      (heard (bmc request.target request.data))) : Except IpmiError Response)).mapM id
        = .ok (requests.map fun request =>
            .answered (heard (bmc request.target request.data))) := by
    rw [List.mapM_map]
    exact List.mapM_pure
  rw [collected]
  exact Dialogue.returns_pure _

end Tools

end BmcTelemetry.Transport
