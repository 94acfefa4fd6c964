import BmcTelemetry.Proofs.Dialogue.Ensures
import BmcTelemetry.Proofs.Dialogue.Reach
import BmcTelemetry.Proofs.Sensor.Inlet
import BmcTelemetry.Proofs.Tool.Requests
import BmcTelemetry.Transport.LocalTool
import BmcTelemetry.Transport.RemoteTool

/-!
Discovering the inlet through a transport: which answers a description is made of.

An answer counts by its length alone. Whether only answers that succeed lead to a description is up
to the transport: the tool brings no others of that length.
-/

namespace BmcTelemetry

open Dialogue (Course Handler)

/-- An answer that the transport vouches for, with a completion code of zero. -/
def Response.Succeeds (response : Response) : Prop :=
  response.valid = true ∧ response.completionCode = some 0

/-- The request of an exchange gets an answer that succeeds. -/
def Exchange.Succeeds (exchange : Exchange controller) : Prop :=
  ∃ response, exchange.answer = .ok response ∧ response.Succeeds

/-- The request of an exchange gets an answer of at least so many bytes, whatever they say. -/
def Exchange.Delivers (exchange : Exchange controller) (least : Nat) : Prop :=
  ∃ response, exchange.answer = .ok response ∧ least ≤ response.data.length

namespace Exchange

variable {request : Request} {least : Nat}

@[simp] theorem delivers_of_ok_iff {response : Response} :
    (Exchange.of request (.ok response)).Delivers least ↔ least ≤ response.data.length := by
  simp [Delivers]

@[simp] theorem not_delivers_of_error {error : IpmiError} :
    ¬ (Exchange.of request (.error error)).Delivers least := by
  simp [Delivers]

end Exchange

namespace Sensor.Inlet

/-- Only success leads on: to the lookup of a record, and from there to a description. -/
structure OnSuccess (exchanges : List (Exchange controller)) (found : Option Description) :
    Prop where
  /-- A description takes two answers, and both of them succeed. -/
  made : found.isSome → exchanges.length = 2 ∧ ∀ exchange ∈ exchanges, exchange.Succeeds
  /-- After a first answer that does not succeed, nothing is looked up. -/
  ended : ∀ capability lookups, exchanges = capability :: lookups → ¬ capability.Succeeds →
    lookups = []

/-- The lengths of answers decide what is looked up and whether a description is found. -/
structure ByLength (capability : Exchange controller) (lookups : List (Exchange controller))
    (found : Option Description) : Prop where
  /-- The first request is for the sensors of the inlet. -/
  asked : capability.request = capabilityRequest
  /-- What is looked up is a single record. -/
  once : ∀ lookup ∈ lookups, lookups = [lookup]
  /-- A record is looked up where the first answer reaches the end of its id. -/
  sent : lookups ≠ [] ↔ capability.Delivers 6
  /-- The id of the record is read from the first answer. -/
  named : ∀ lookup ∈ lookups, ∃ response, capability.answer = .ok response ∧
    lookup.request = recordRequest (response.payload.slice 3 2)
  /-- A description is found where the record's answer reaches the number of the sensor. -/
  described : found.isSome ↔ ∃ lookup ∈ lookups, lookup.Delivers 11
  /-- The number of the sensor is read from the record's answer. -/
  numbered : ∀ description ∈ found, ∃ lookup ∈ lookups, ∃ record, lookup.answer = .ok record ∧
    description = Catalog.inletTemperature (record.payload.byteAt 9)

section Lengths

variable {exchanges lookups : List (Exchange controller)} {capability : Exchange controller}
  {found : Option Description}

/-- However discovering the inlet goes, it goes by the lengths of the answers. -/
theorem Discovers.byLength (discovers : Discovers exchanges found) :
    ∃ capability lookups, exchanges = capability :: lookups ∧
      ByLength capability lookups found := by
  -- Each case tells of both answers whether they come and how long they are.
  cases discovers with
  -- Nothing was delivered, so nothing was looked up and nothing found.
  | unanswered error => exact ⟨_, _, rfl, rfl, by simp, by simp, by simp, by simp, by simp⟩
  -- The first answer was too short to name a record.
  | unreported short =>
    exact ⟨_, _, rfl, rfl, by simp, by simpa using short, by simp, by simp, by simp⟩
  -- A record was looked up, and its answer did not come.
  | recordUnanswered reported error =>
    exact ⟨_, _, rfl, rfl, by simp, by simpa using reported, by simp [lookup], by simp [lookup],
      by simp⟩
  -- The record's answer was too short for a number.
  | recordShort reported short =>
    exact ⟨_, _, rfl, rfl, by simp, by simpa using reported, by simp [lookup],
      by simpa [lookup] using short, by simp⟩
  -- Both answers were long enough, and the description has the number of the second.
  | discovered reported reached =>
    exact ⟨_, _, rfl, rfl, by simp, by simpa using reported, by simp [lookup],
      by simpa [lookup] using reached, by simp [lookup]⟩

/-- Only success leads on exactly where every answer that is long enough succeeds. -/
theorem ByLength.onSuccess_iff (byLength : ByLength capability lookups found) :
    OnSuccess (capability :: lookups) found ↔
      (capability.Delivers 6 → capability.Succeeds) ∧
        ∀ lookup ∈ lookups, lookup.Delivers 11 → lookup.Succeeds := by
  constructor
  · intro onSuccess
    refine ⟨fun long => ?_, fun lookup member long => ?_⟩
    · -- A failed answer would not have been followed by a lookup.
      by_contra failed
      exact byLength.sent.mpr long (onSuccess.ended capability lookups rfl failed)
    -- The lookup led to a description, so its answer succeeded.
    · have made := onSuccess.made (byLength.described.mpr ⟨lookup, member, long⟩)
      exact made.2 lookup (List.mem_cons_of_mem _ member)
  · rintro ⟨first, second⟩
    -- Both answers of a description are long enough, and therefore successes.
    constructor
    · intro there
      obtain ⟨lookup, member, long⟩ := byLength.described.mp there
      obtain rfl := byLength.once lookup member
      -- The first answer was long enough for a lookup, and so was that of the lookup.
      exact ⟨rfl, List.forall_mem_cons.mpr ⟨first (byLength.sent.mp (List.cons_ne_nil _ _)),
        fun exchange listed => second exchange listed (by rwa [List.mem_singleton.mp listed])⟩⟩
    -- A lookup would show that the first answer was long enough.
    · rintro _ _ ⟨rfl, rfl⟩ failed
      by_contra lookedUp
      exact failed (first (byLength.sent.mp lookedUp))

end Lengths

end Sensor.Inlet

/-- An answer of the tool succeeds if there is anything in it. -/
def Tool.Plain (answer : Except IpmiError Response) : Prop :=
  ∀ response, answer = .ok response → response.data ≠ [] → response.Succeeds

/-- What is made of how a run of the tool ended succeeds if there is anything in it. -/
theorem Completion.plain_answer (completion : Completion) : Tool.Plain completion.answer := by
  intro response same nonempty
  match completion with
  | .notStarted error =>
    -- A tool that is not there gives an empty answer, and any other reason is an error.
    rw [answer, reading] at same
    split at same
    next =>
      obtain rfl := Except.ok.inj same
      exact absurd rfl nonempty
    next => cases same
  -- A run that failed counts as an empty answer.
  | .ended false _ _ =>
    obtain rfl := Except.ok.inj same
    exact absurd rfl nonempty
  | .ended true _ _ =>
    -- A completion code of zero is put in front of whatever was printed.
    obtain rfl := Except.ok.inj same
    exact ⟨rfl, rfl⟩

/-- Whatever becomes of a run of the tool, its answer succeeds if there is anything in it. -/
theorem Tool.ensures_run (tool : Tool) (session : List String) (bridged : Bool)
    (request : Request) :
    (tool.run (session ++ tool.rawArguments bridged request)).outcome.Ensures Plain := by
  refine Dialogue.ensures_iff_course.mpr fun exchanges answer course => ?_
  -- The tool is run once, or not at all where program or session cannot be passed on.
  have run := Tool.course_run course
  split at run
  -- The run was made, and its end is the answer.
  next =>
    obtain ⟨completion, _, rfl⟩ := run
    exact completion.plain_answer
  -- The run was refused, and there is no answer at all.
  next =>
    obtain ⟨_, rfl⟩ := run
    exact fun _ same => nomatch same

namespace Transport

variable {I : Interface} {host : String}

/-- What a transport makes the surroundings answer to requests for a host. -/
def relay {σ : Type} (transport : Transport I) (host : String) (surroundings : Handler I σ) :
    Handler controller σ :=
  fun request => (transport.exec host request).reach surroundings

/-- Through a transport, only success leads to the description of an inlet. -/
def DiscoversOnSuccess (transport : Transport I) (host : String) : Prop :=
  ∀ {σ : Type} (surroundings : Handler I σ) (memory : σ),
    Sensor.Inlet.OnSuccess
      ((Sensor.Inlet.discover host).transcript (transport.relay host surroundings) memory)
      ((transport.converse host (Sensor.Inlet.discover host)).run surroundings memory).1

/-- A transport whose answers succeed if there is anything in them discovers on success alone. -/
theorem discoversOnSuccess_of_plain {transport : Transport I}
    (plain : ∀ request, (transport.exec host request).Ensures Tool.Plain) :
    transport.DiscoversOnSuccess host := by
  intro σ surroundings memory
  -- The conversation ends as it does with what the transport makes of each request.
  have same : ((transport.converse host (Sensor.Inlet.discover host)).run surroundings memory).1
      = ((Sensor.Inlet.discover host).run (transport.relay host surroundings) memory).1 := by
    have ended := congrArg Prod.fst (Dialogue.reach_translate surroundings memory
      (transport.exec host) (Sensor.Inlet.discover host))
    exact ended
  -- Whatever the transport makes of the requests, discovering goes by the lengths.
  obtain ⟨capability, lookups, split, byLength⟩ := (Sensor.Inlet.course_discover
    (Dialogue.course_run (transport.relay host surroundings) _ memory)).byLength
  have succeeds : ∀ exchange ∈ capability :: lookups, ∀ least,
      exchange.Delivers (least + 1) → exchange.Succeeds := by
    intro exchange member least ⟨response, answered, long⟩
    rw [← split] at member
    obtain ⟨remembered, given⟩ := Dialogue.transcript_answered _ _ memory exchange member
    -- The answer is what the transport brought back at that moment, and it is not empty.
    refine ⟨response, answered, (plain exchange.request).run surroundings remembered response
      (given.symm.trans answered) ?_⟩
    intro empty
    rw [empty] at long
    cases long
  -- Six bytes or eleven are more than none, so long answers succeed.
  rw [same, split, byLength.onSuccess_iff]
  exact ⟨succeeds capability List.mem_cons_self 5,
    fun lookup member => succeeds lookup (List.mem_cons_of_mem _ member) 10⟩

end Transport

namespace Sensor.Inlet

/--
Discovering the inlet goes by the lengths of the answers. So only success leads on exactly where
every answer that is long enough succeeds, whatever is answered.

This is so for every conversation through the tool, whose answers are empty or succeed.
-/
theorem discover_onSuccess_iff (host : String) :
    (∀ {σ : Type} (handler : Handler controller σ) (memory : σ),
      ∃ capability lookups, (discover host).transcript handler memory = capability :: lookups ∧
        ByLength capability lookups ((discover host).run handler memory).1 ∧
        (OnSuccess (capability :: lookups) ((discover host).run handler memory).1 ↔
          (capability.Delivers 6 → capability.Succeeds) ∧
            ∀ lookup ∈ lookups, lookup.Delivers 11 → lookup.Succeeds)) ∧
    ∀ (tool : Tool) (credentials : Transport.Credentials) (protocol : Protocol)
      (machine : String),
      (Transport.localTool tool protocol machine).DiscoversOnSuccess host ∧
      (Transport.remoteTool tool credentials protocol).DiscoversOnSuccess host := by
  refine ⟨fun handler memory => ?_, fun tool credentials protocol machine => ⟨?_, ?_⟩⟩
  -- Every run of the discovery is one of its courses.
  · obtain ⟨capability, lookups, split, byLength⟩ :=
      (course_discover (Dialogue.course_run handler (discover host) memory)).byLength
    exact ⟨capability, lookups, split, byLength, byLength.onSuccess_iff⟩
  -- Both tools give answers that succeed or are empty.
  · exact Transport.discoversOnSuccess_of_plain (tool.ensures_run [] false)
  · exact Transport.discoversOnSuccess_of_plain
      (tool.ensures_run (Transport.RemoteTool.sessionArguments credentials host) false)

/-- A controller that refuses both requests of a discovery, with answers as long as good ones. -/
def refusing : controller.Answers :=
  fun request : Request => .ok <|
    if request = capabilityRequest then .answered [0xc1, 0x00, 0x00, 0x00, 0x20, 0x00]
    else .answered [0xc9, 0x00, 0x00, 0x00, 0x00, 0x00, 0x00, 0x00, 0x00, 0x00, 0x30]

/-- A record is looked up and a description is found although both requests are refused. -/
theorem discover_despite_refusal :
    (discover "node").transcript (Dialogue.constantly refusing) ()
      = [.of capabilityRequest (.ok (.answered [0xc1, 0x00, 0x00, 0x00, 0x20, 0x00])),
        .of (Repository.storage.partRequest 0 0x0020 0 8) (.ok (.answered
          [0xc9, 0x00, 0x00, 0x00, 0x00, 0x00, 0x00, 0x00, 0x00, 0x00, 0x30]))] ∧
    ((discover "node").run (Dialogue.constantly refusing) ()).1
      = some (Catalog.inletTemperature 0x30) ∧
    ¬ OnSuccess ((discover "node").transcript (Dialogue.constantly refusing) ())
      ((discover "node").run (Dialogue.constantly refusing) ()).1 := by
  refine ⟨rfl, by decide, fun onSuccess => ?_⟩
  -- The first answer has another completion code than zero.
  obtain ⟨_, succeed⟩ := onSuccess.made (by decide)
  obtain ⟨response, answered, _, code⟩ := succeed _ List.mem_cons_self
  obtain rfl := Except.ok.inj answered
  exact absurd code (by decide)

end Sensor.Inlet

end BmcTelemetry
