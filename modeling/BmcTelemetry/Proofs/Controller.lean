import BmcTelemetry.Controller
import BmcTelemetry.Proofs.Dialogue.Course

/-! Conversations with a controller: which requests they send and what they make of the answers. -/

namespace BmcTelemetry

namespace Response

/-- A payload is handed over exactly when the answer succeeds and the payload is long enough. -/
theorem requirePayload_ok_iff {response : Response} {least : Nat} {step : Step} {payload : Bytes} :
    response.requirePayload least step = .ok payload ↔
      response.data = 0x00 :: payload ∧ least ≤ payload.length := by
  -- The three guards are tried in their order: is there a code, is it zero, is there enough behind
  -- it.
  obtain ⟨data, valid⟩ := response
  cases data with
  -- Without a code there is no payload either, so that both sides are false.
  | nil => simp [requirePayload, completionCode]
  | cons code rest =>
    by_cases zero : code = 0
    · subst zero
      by_cases short : rest.length < least
      -- A payload that is too short is refused, and no long enough payload is the same one.
      · simp only [requirePayload, completionCode, List.head?_cons, Response.payload,
          List.drop_succ_cons, List.drop_zero, if_pos short, reduceCtorEq, List.cons.injEq,
          true_and, false_iff, not_and]
        rintro rfl
        omega
      -- A payload that is long enough is handed over as it is.
      · simp only [requirePayload, completionCode, List.head?_cons, Response.payload,
          List.drop_succ_cons, List.drop_zero, if_neg short, Except.ok.injEq, List.cons.injEq,
          true_and]
        constructor
        · rintro rfl
          exact ⟨rfl, by omega⟩
        · exact fun same => same.1
    -- Any other code is refused, and data that begins with it does not begin with zero.
    · simp [requirePayload, completionCode, zero]

end Response

/-- The request of an exchange. -/
def Exchange.request (exchange : Exchange controller) : Request :=
  exchange.query

/-- What became of the request of an exchange. -/
def Exchange.answer (exchange : Exchange controller) : Except IpmiError Response :=
  exchange.reply

/-- An exchange whose answer succeeds with a payload of at least so many bytes. -/
def Exchange.Carries (exchange : Exchange controller) (least : Nat) (payload : Bytes) : Prop :=
  ∃ valid, exchange.answer = .ok ⟨0x00 :: payload, valid⟩ ∧ least ≤ payload.length

/-- A payload is as long as it has to be. -/
theorem Exchange.Carries.le_length {exchange : Exchange controller} {least : Nat} {payload : Bytes}
    (carries : exchange.Carries least payload) : least ≤ payload.length := by
  obtain ⟨_, _, enough⟩ := carries
  exact enough

/-- An answer that comes carries the payload behind a completion code of zero. -/
theorem Exchange.carries_answered_iff {exchange : Exchange controller} {response : Response}
    {least : Nat} {payload : Bytes} (answered : exchange.answer = .ok response) :
    exchange.Carries least payload ↔ response.data = 0x00 :: payload ∧ least ≤ payload.length := by
  obtain ⟨data, valid⟩ := response
  -- The answer is known, so that carrying compares its data with the code and the payload.
  constructor
  · rintro ⟨_, succeeded, enough⟩
    obtain ⟨rfl, _⟩ := Response.mk.inj (Except.ok.inj (answered.symm.trans succeeded))
    exact ⟨rfl, enough⟩
  · rintro ⟨rfl, enough⟩
    exact ⟨valid, answered, enough⟩

/-- What an exchange carries is what its answer yields to a step that needs so many bytes. -/
theorem Exchange.carries_iff {exchange : Exchange controller} {least : Nat} {payload : Bytes}
    (step : Step) : exchange.Carries least payload ↔
      (exchange.answer.bind fun response => response.requirePayload least step) = .ok payload := by
  -- Without an answer there is nothing to carry, and the error is passed on.
  cases answered : exchange.answer with
  | error error => simp [Carries, answered, Except.bind]
  | ok response =>
    rw [carries_answered_iff answered, ← Response.requirePayload_ok_iff]
    rfl

/-- An exchange that gives a step nothing to go on from, and the error that comes of it. -/
inductive Exchange.Denies (exchange : Exchange controller) (least : Nat) (step : Step) :
    IpmiError → Prop
  /-- The transport delivers no answer. -/
  | lost {error : IpmiError} (answered : exchange.answer = .error error) :
    Denies exchange least step error
  /-- The answer does not even have a completion code. -/
  | empty {valid : Bool} (answered : exchange.answer = .ok ⟨[], valid⟩) :
    Denies exchange least step (.protocol (.emptyResponse step))
  /-- The completion code is not zero. -/
  | refused {code : UInt8} {payload : Bytes} {valid : Bool}
    (answered : exchange.answer = .ok ⟨code :: payload, valid⟩) (nonzero : code ≠ 0x00) :
    Denies exchange least step (.completionCode code)
  /-- The payload is too short. -/
  | short {payload : Bytes} {valid : Bool}
    (answered : exchange.answer = .ok ⟨0x00 :: payload, valid⟩) (few : payload.length < least) :
    Denies exchange least step (.protocol (.shortPayload step least payload.length))

/-- An exchange denies a step whatever does not yield a payload to it. -/
theorem Exchange.denies_iff {exchange : Exchange controller} {least : Nat} {step : Step}
    {error : IpmiError} : exchange.Denies least step error ↔
      (exchange.answer.bind fun response => response.requirePayload least step)
        = .error error := by
  constructor
  -- Each way of denying makes one of the guards fail, and its error is the one of that guard.
  · rintro (answered | answered | ⟨answered, nonzero⟩ | ⟨answered, few⟩)
    · rw [answered]
      rfl
    · rw [answered]
      rfl
    · rw [answered]
      simp [Except.bind, Response.requirePayload, Response.completionCode]
    · rw [answered]
      simp [Except.bind, Response.requirePayload, Response.completionCode, Response.payload, few]
  · intro failed
    -- The answer is missing, empty, refused, or one that succeeds and must then be too short.
    cases answered : exchange.answer with
    | error lost =>
      rw [answered] at failed
      cases failed
      exact .lost answered
    | ok response =>
      obtain ⟨data, valid⟩ := response
      rw [answered] at failed
      cases data with
      | nil =>
        cases failed
        exact .empty answered
      | cons code payload =>
        by_cases zero : code = 0x00
        · subst zero
          by_cases few : payload.length < least
          · simp only [Except.bind, Response.requirePayload, Response.completionCode,
              List.head?_cons, Response.payload, List.drop_succ_cons, List.drop_zero, if_pos few,
              Except.error.injEq] at failed
            subst failed
            -- A payload that is long enough would be carried, against what became of the answer.
            exact .short answered few
          · have carries : exchange.Carries least payload := ⟨valid, answered, by omega⟩
            rw [Exchange.carries_iff step, answered, failed] at carries
            cases carries
        · simp only [Except.bind, Response.requirePayload, Response.completionCode,
            List.head?_cons, Except.error.injEq] at failed
          subst failed
          exact .refused answered zero

/-- An answer carries no two payloads. -/
theorem Exchange.Carries.unique {exchange : Exchange controller} {least more : Nat}
    {payload other : Bytes} (carries : exchange.Carries least payload)
    (again : exchange.Carries more other) : payload = other := by
  -- Both payloads stand behind the same code in the same answer.
  obtain ⟨_, answered, _⟩ := carries
  obtain ⟨_, repeated, _⟩ := again
  rw [answered] at repeated
  cases repeated
  rfl

/-- What is found is what is read from the payload of an exchange, if it carries one. -/
def Exchange.Tells {α : Type} (exchange : Exchange controller) (least : Nat)
    (read : Bytes → Option α) (found : Option α) : Prop :=
  ∀ value, found = some value ↔
    ∃ payload, exchange.Carries least payload ∧ read payload = some value

/-- Nothing but the answer matters for what an exchange tells. -/
theorem Exchange.Tells.unique {α : Type} {exchange other : Exchange controller} {least : Nat}
    {read : Bytes → Option α} {found again : Option α} (tells : exchange.Tells least read found)
    (repeated : other.Tells least read again) (same : exchange.answer = other.answer) :
    found = again := by
  -- The values found are the ones the answer tells, and there is only one answer.
  apply Option.ext
  intro value
  rw [tells value, repeated value]
  simp only [Carries, same]

namespace Controller

open Dialogue (Course)

variable {request : Request} {exchanges : List (Exchange controller)}

@[simp] theorem course_exec_iff {result : Except IpmiError Response} :
    Course (exec request).outcome exchanges result ↔ exchanges = [⟨request, result⟩] :=
  Dialogue.course_query_iff

/-- Fetching is one question, and what it ends with is read from the answer. -/
theorem fetch_outcome (request : Request) (least : Nat) (step : Step) :
    (fetch request least step).outcome = .ask (I := controller) request fun reply =>
      .done (Except.bind reply fun response => response.requirePayload least step) := by
  -- The question is asked in both forms, and what follows is compared for each reply.
  change Dialogue.ask (I := controller) request _ = _
  refine congrArg (Dialogue.ask (I := controller) request) (funext fun reply => ?_)
  cases reply <;> rfl

/-- Fetching is one exchange, whose answer is read as a payload. -/
theorem course_fetch_iff {least : Nat} {step : Step} {result : Except IpmiError Bytes} :
    Course (fetch request least step).outcome exchanges result ↔
      ∃ reply : Except IpmiError Response, exchanges = [⟨request, reply⟩] ∧
        result = reply.bind fun response => response.requirePayload least step := by
  -- Fetching is asking followed by a step that puts no question of its own.
  rw [fetch, Attempt.course_bind_iff]
  constructor
  -- The transport fails, or its answer is read without a further exchange.
  · rintro (⟨error, sent, rfl⟩ | ⟨first, response, rest, sent, read, rfl⟩)
    · exact ⟨.error error, course_exec_iff.mp sent, rfl⟩
    · obtain rfl := course_exec_iff.mp sent
      obtain ⟨rfl, rfl⟩ := Attempt.course_lift_iff.mp read
      exact ⟨.ok response, rfl, rfl⟩
  -- In the other direction, what becomes of the answer decides which of the two ways is taken.
  · rintro ⟨reply, rfl, rfl⟩
    cases reply with
    | error error => exact .inl ⟨error, course_exec_iff.mpr rfl, rfl⟩
    | ok response =>
      exact .inr ⟨_, response, [], course_exec_iff.mpr rfl, Attempt.course_lift_iff.mpr ⟨rfl, rfl⟩,
        rfl⟩

/-- Fetching succeeds exactly when the answer carries enough bytes. -/
theorem course_fetch {least : Nat} {step : Step} {result : Except IpmiError Bytes}
    (course : Course (fetch request least step).outcome exchanges result) :
    ∃ exchange : Exchange controller, exchanges = [exchange] ∧ exchange.request = request ∧
      ∀ payload, result = .ok payload ↔ exchange.Carries least payload := by
  obtain ⟨reply, rfl, rfl⟩ := course_fetch_iff.mp course
  -- The one exchange is the question with its reply, and carrying is what reading amounts to.
  refine ⟨_, rfl, rfl, fun payload => ?_⟩
  rw [Exchange.carries_iff step]
  rfl

section Fetching

variable {exchange : Exchange controller} {rest : List (Exchange controller)} {α : Type}
  {least : Nat} {step : Step} {next : Bytes → Attempt controller α} {result : Except IpmiError α}

/-- An attempt that starts by fetching ends with an exchange that denies it the payload. -/
theorem course_denied {error : IpmiError} (asked : exchange.request = request)
    (denied : exchange.Denies least step error) :
    -- The first step gives up, so that nothing is done with a payload.
    Course (fetch request least step >>= next).outcome [exchange] (.error error) := by
  subst asked
  refine Attempt.course_bind_iff.mpr (.inl ⟨error, ?_, rfl⟩)
  exact course_fetch_iff.mpr ⟨exchange.answer, rfl, (Exchange.denies_iff.mp denied).symm⟩

/-- An attempt that starts by fetching goes on from the payload that an exchange carries. -/
theorem course_carried {payload : Bytes} (asked : exchange.request = request)
    (carries : exchange.Carries least payload)
    (onward : Course (next payload).outcome rest result) :
    Course (fetch request least step >>= next).outcome (exchange :: rest) result := by
  -- The first step ends with the payload, and the rest follows on its exchange.
  subst asked
  refine Attempt.course_bind_iff.mpr (.inr ⟨[exchange], payload, rest, ?_, onward, rfl⟩)
  exact course_fetch_iff.mpr ⟨exchange.answer, rfl, ((Exchange.carries_iff step).mp carries).symm⟩

/-- An attempt that starts by fetching ends there or goes on from the payload. -/
theorem course_fetch_bind
    (course : Course (fetch request least step >>= next).outcome exchanges result) :
    (∃ exchange error, exchanges = [exchange] ∧ exchange.request = request ∧
        exchange.Denies least step error ∧ result = .error error) ∨
      ∃ exchange payload rest, exchanges = exchange :: rest ∧ exchange.request = request ∧
        exchange.Carries least payload ∧ Course (next payload).outcome rest result := by
  -- The fetch gave up and ended the attempt, or it ended well and the attempt went on.
  rcases Attempt.course_bind_iff.mp course with ⟨error, failed, rfl⟩ |
    ⟨first, payload, rest, fetched, onward, rfl⟩
  · obtain ⟨reply, rfl, denied⟩ := course_fetch_iff.mp failed
    exact .inl ⟨_, error, rfl, rfl, Exchange.denies_iff.mpr denied.symm, rfl⟩
  · obtain ⟨reply, rfl, carried⟩ := course_fetch_iff.mp fetched
    exact .inr ⟨_, payload, rest, rfl, rfl, (Exchange.carries_iff step).mpr carried.symm, onward⟩

end Fetching

/-- A dialogue that gets the same answers puts the same questions and comes to the same end. -/
theorem course_unique {α : Type} {dialogue : Dialogue controller α}
    {first second : List (Exchange controller)} {value other : α}
    (course : Course dialogue first value) (again : Course dialogue second other)
    (same : first.map (·.answer) <+: second.map (·.answer)) : first = second ∧ value = other := by
  -- As long as the answers are the same, both courses go down the tree along the same branch.
  induction course generalizing second with
  -- A course that is over has no exchange that the other one could have beyond it.
  | done value =>
    obtain ⟨rfl, rfl⟩ := Dialogue.course_done_iff.mp again
    exact ⟨rfl, rfl⟩
  | ask question reply onward ih =>
    -- Both put the same question and get the same answer to it, so that they go on the same way.
    cases again with
    | ask _ reply' onward' =>
      obtain ⟨answer, rest⟩ := List.cons_prefix_cons.mp same
      change reply = reply' at answer
      subst answer
      obtain ⟨rfl, rfl⟩ := ih onward' rest
      exact ⟨rfl, rfl⟩
  | note event onward ih =>
    -- An event is no exchange, and both report it.
    cases again with
    | note _ onward' => exact ih onward' same

end Controller

end BmcTelemetry
