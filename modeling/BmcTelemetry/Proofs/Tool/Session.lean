import BmcTelemetry.Driver.Basic
import BmcTelemetry.Proofs.Dialogue.Returns
import BmcTelemetry.Proofs.Tool.Printing
import BmcTelemetry.Tool.Run
import Std.Data.String.ToInt

/-! Sessions with the tool: what it is told to send, what it shows and what is made of that. -/

namespace BmcTelemetry

open Driver (Address)

/-- Where a request goes that is forwarded when it names a slave. -/
def Request.target (request : Request) : Address :=
  if request.slave = 0 then .controller else .bus request.channel request.slave

namespace Tool

/-- The arguments that tell the tool where a message goes. -/
def targetArguments : Address → List String
  | .controller => []
  | .bus channel slave => ["-b", toString channel.toInt, "-t", Hex.markedByte slave]

/-- The arguments that tell the tool, within a session, to send a message. -/
def messageArguments (session : List String) (address : Address) (data : Bytes) : List String :=
  session ++ (targetArguments address ++ "raw" :: data.map Hex.markedByte)

/-- A run of the tool shows an answer: the payload of a success, and no more than failure else. -/
def Shows (answer : Bytes) (completion : Completion) : Prop :=
  if answer.head? = some 0 then
    ∃ output complaints, Prints answer.tail output ∧ completion = .ended true output complaints
  else ∃ complaints, completion = .ended false [] complaints

/-- The tool sends what it is told to in a session, and shows the answer. -/
def Honest (program : String) (session : List String) (reply : Address → Bytes → Bytes)
    (exchange : Exchange processes) : Prop :=
  ∀ address data,
    exchange.query = (⟨program, messageArguments session address data⟩ : Invocation) →
    Shows (reply address data) exchange.reply

/-- What is left of an answer that the tool shows. -/
def heard (answer : Bytes) : Bytes :=
  if answer.head? = some 0 then answer else []

/-- Without a bridge of its own, the tool sends each request where it goes. -/
theorem rawArguments_eq {tool : Tool} (unbridged : tool.bridge.isSet = false) (bridged : Bool)
    (request : Request) :
    tool.rawArguments bridged request
      = targetArguments (if bridged then request.target else .controller)
        ++ "raw" :: request.data.map Hex.markedByte := by
  -- Unbridged requests go to the controller in any case.
  cases bridged with
  | false => rfl
  | true =>
    -- Without a bridge of its own, the tool bridges to the slave of the request, if there is one.
    have unset : tool.bridgeFor request
        = if request.slave = 0 then none else some ⟨request.channel, request.slave⟩ := by
      rw [bridgeFor, if_neg (by rw [unbridged]; decide)]
      by_cases own : request.slave = 0
      · simp [Bridge.isSet, own]
      · simp [Bridge.isSet, own]
    simp only [rawArguments, if_true, unset, Request.target]
    -- A request without a slave has no target, and any other one goes to the slave.
    by_cases own : request.slave = 0
    · rw [if_pos own, if_pos own]
      rfl
    · rw [if_neg own, if_neg own]
      rfl

/-- A byte is written without a zero character. -/
theorem holdsZero_markedByte (byte : UInt8) : Text.holdsZero (Hex.markedByte byte) = false := by
  -- No digit is the zero character, and neither is the mark.
  have digits : ∀ value < 16, Hex.digit value ≠ '\x00' := by decide
  have bounded := byte.toNat_lt
  have high := digits (byte.toNat / 16) (by omega)
  have low := digits (byte.toNat % 16) (by omega)
  simp [Text.holdsZero, Hex.markedByte, Hex.byte, Hex.byteChars, Ne.symm high, Ne.symm low]

/-- A number is written without a zero character. -/
theorem holdsZero_repr (number : Int) : Text.holdsZero (toString number) = false := by
  -- All characters are digits, apart from a sign in front.
  have digits : ∀ value : Nat, '\x00' ∉ Nat.toDigits 10 value := fun value member =>
    absurd (Nat.isDigit_of_mem_toDigits (by decide) (by decide) member) (by decide)
  rw [Int.toString_eq_repr, Int.repr_eq_if]
  -- A sign in front is no zero character either.
  split
  · simp [Text.holdsZero, Nat.toList_repr, digits]
  · simp [Text.holdsZero, Nat.toList_repr, digits]

/-- Whatever is sent wherever, only the program and the session can keep it from being passed on. -/
theorem isPassable_message (program : String) (session : List String) (address : Address)
    (data : Bytes) :
    Invocation.isPassable ⟨program, messageArguments session address data⟩
      = (program :: session).all fun text => !Text.holdsZero text := by
  -- A target is written with a number and a byte, of which neither has a zero character.
  have target : (targetArguments address).all (fun text => !Text.holdsZero text) = true := by
    cases address with
    | controller => rfl
    | bus channel slave =>
      simp only [targetArguments, List.all_cons, List.all_nil, holdsZero_repr, holdsZero_markedByte]
      decide
  have bytes : (data.map Hex.markedByte).all (fun text => !Text.holdsZero text) = true := by
    rw [List.all_map, List.all_eq_true]
    intro byte _
    simp [holdsZero_markedByte]
  have raw : Text.holdsZero "raw" = false := by decide
  -- What is left to look at are the program and the session.
  simp [Invocation.isPassable, messageArguments, target, bytes, raw]

/-- What a run shows is read as the answer, or as none where the answer is a failure. -/
theorem succeeds_answer (tool : Tool) {Fair : List (Exchange processes) → Prop} {reply : Bytes}
    {completion : Completion} (shows_reply : Shows reply completion) :
    (tool.answer completion).Succeeds Fair (heard reply) := by
  rw [heard]
  unfold Shows at shows_reply
  -- Either the tool succeeded and printed the payload, or it failed and printed nothing.
  split at shows_reply
  next success =>
    obtain ⟨output, complaints, prints, rfl⟩ := shows_reply
    -- The tool leaves the completion code out, and reading puts it back.
    obtain ⟨payload, rfl⟩ := List.head?_eq_some_iff.mp success
    rw [if_pos success, answer, parseOutput_of_prints prints]
    exact Attempt.succeeds_pure _
  next failure =>
    obtain ⟨complaints, rfl⟩ := shows_reply
    -- A failure is reported and counts as an empty answer.
    rw [if_neg failure]
    intro exchanges result _ course
    exact (Attempt.course_report_bind_pure_iff.mp course).2

/-- An honest tool answers what it is told to send, as far as it shows the answer. -/
theorem succeeds_run {tool : Tool} {session : List String}
    (passable : (tool.program :: session).all (fun text => !Text.holdsZero text) = true)
    {rule : Exchange processes → Prop} {reply : Address → Bytes → Bytes}
    (honest : ∀ exchange, rule exchange → Honest tool.program session reply exchange)
    (address : Address) (data : Bytes) :
    (tool.run (messageArguments session address data)).Succeeds
      (fun exchanges => ∀ exchange ∈ exchanges, rule exchange)
      (.answered (heard (reply address data))) := by
  have splits := splits_forall rule
  -- Nothing keeps the run from being started.
  have started : tool.start (messageArguments session address data)
      = Dialogue.query (I := processes) ⟨tool.program, messageArguments session address data⟩ :=
    if_pos (by rw [isPassable_message, passable])
  rw [run, started]
  refine Attempt.returns_report_bind _ (Attempt.succeeds_query_bind fun completion allowed => ?_)
  -- The one exchange of the run keeps to the rule, so it shows the answer.
  have shown : Shows (reply address data) completion := honest _ allowed address data rfl
  exact (succeeds_answer tool shown).bind splits (Attempt.succeeds_pure _)

/-- What cannot be passed on is never started, and the request fails. -/
theorem returns_run_refused {tool : Tool} {session : List String}
    (refused : (tool.program :: session).all (fun text => !Text.holdsZero text) = false)
    (Fair : List (Exchange processes) → Prop) (address : Address) (data : Bytes) :
    (tool.run (messageArguments session address data)).outcome.Returns Fair
      (.error (.io .zeroInArgument)) := by
  -- Something holds a zero character, so the run is refused.
  have unstarted : tool.start (messageArguments session address data)
      = (return .notStarted .zeroInArgument) :=
    if_neg (by rw [isPassable_message, refused]; decide)
  -- The refusal stands in for the end of the run, and fails the request.
  rw [run, unstarted]
  exact Attempt.returns_report_bind _ (Dialogue.returns_pure _)

/-- What the tool is told by arguments: where to send a message, and which. -/
def told : List String → Option (Address × Bytes)
  | "raw" :: data => some (.controller, data.map fun text => tokenByte text.toList)
  | "-b" :: channel :: "-t" :: slave :: "raw" :: data =>
    some (.bus (Int16.ofInt (channel.toInt?.getD 0)) (tokenByte slave.toList),
      data.map fun text => tokenByte text.toList)
  | _ => none

/-- A byte that is written with its mark is spelled. -/
theorem spellsByte_markedByte (byte : UInt8) : SpellsByte byte (Hex.markedByte byte).toList := by
  have bounded := byte.toNat_lt
  -- The two digits are those of the halves of the byte.
  have marked : (Hex.markedByte byte).toList
      = ['0', 'x', Hex.digit (byte.toNat / 16), Hex.digit (byte.toNat % 16)] := by
    simp [Hex.markedByte, Hex.byte, Hex.byteChars]
  exact ⟨_, _, (digit_plain (by omega)).1, (digit_plain (by omega)).1, .inr marked⟩

/-- A byte that is written with its mark is read back. -/
theorem tokenByte_markedByte (byte : UInt8) : tokenByte (Hex.markedByte byte).toList = byte :=
  tokenByte_of_spells (spellsByte_markedByte byte)

/-- The tool is told what the arguments say. -/
theorem told_arguments (address : Address) (data : Bytes) :
    told (targetArguments address ++ "raw" :: data.map Hex.markedByte) = some (address, data) := by
  -- Every byte is read back from its own argument.
  have bytes : ((data.map Hex.markedByte).map fun text => tokenByte text.toList) = data := by
    rw [List.map_map]
    exact (List.map_congr_left fun byte _ => tokenByte_markedByte byte).trans (List.map_id data)
  -- The first argument tells whether a target is named.
  cases address with
  | controller => exact congrArg (fun data => some (Address.controller, data)) bytes
  | bus channel slave =>
    -- The channel is written as a number, which is read back as it was.
    have number : Int16.ofInt ((toString channel.toInt).toInt?.getD 0) = channel := by
      rw [Int.toString_eq_repr, Int.toInt?_repr, Option.getD_some, Int16.ofInt_toInt]
    simp only [targetArguments, List.cons_append, List.nil_append, told, bytes, number,
      tokenByte_markedByte]

/-- What a run of the tool shows that sends what it is told to. -/
def obey (reply : Address → Bytes → Bytes) (arguments : List String) : Completion :=
  match told arguments with
  | some (address, data) =>
    if (reply address data).head? = some 0 then
      .ended true (asciiBytes (printed (reply address data).tail)) []
    else .ended false [] []
  | none => .ended false [] []

/-- A tool that obeys shows the answers. -/
theorem shows_obey (reply : Address → Bytes → Bytes) (address : Address) (data : Bytes) :
    Shows (reply address data)
      (obey reply (targetArguments address ++ "raw" :: data.map Hex.markedByte)) := by
  rw [Shows, obey, told_arguments]
  dsimp only
  -- The tool prints the payload of a success, and nothing for a failure.
  split
  next => exact ⟨_, [], prints_printed _, rfl⟩
  next => exact ⟨[], rfl⟩

end Tool

end BmcTelemetry
