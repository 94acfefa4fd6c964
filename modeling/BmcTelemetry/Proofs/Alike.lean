import BmcTelemetry.Collector.Basic
import BmcTelemetry.Proofs.Bytes
import BmcTelemetry.Proofs.Controller
import BmcTelemetry.Proofs.Dialogue.Agrees

/-!
Alike answers: two answers are the same or both tell of a failure, whatever each says about it.

What is read from a controller depends on no more than that.
-/

namespace BmcTelemetry

/-- Two outcomes with the same value both have it, or both are errors. -/
theorem toOption_eq_cases {ε α : Type} {first second : Except ε α}
    (same : first.toOption = second.toOption) :
    (∃ value, first = .ok value ∧ second = .ok value) ∨
      ∃ error other, first = .error error ∧ second = .error other := by
  -- Two results are values or errors on the same side, since only a value leaves something behind.
  cases first with
  | ok value =>
    cases second with
    | ok other => exact .inl ⟨value, rfl, congrArg _ (Option.some.inj same).symm⟩
    | error error => cases same
  | error error =>
    cases second with
    | ok value => cases same
    | error other => exact .inr ⟨error, other, rfl, rfl⟩

namespace Response

/-- Two answers are the same, or both tell of a failure. -/
def Alike (first second : Response) : Prop :=
  first = second ∨ (first.completionCode ≠ some 0 ∧ second.completionCode ≠ some 0)

/-- An answer that tells of a failure is never good enough. -/
theorem requirePayload_failed {response : Response} (failed : response.completionCode ≠ some 0)
    (least : Nat) (step : Step) : ∃ error, response.requirePayload least step = .error error := by
  -- A payload is only handed over behind a completion code of zero.
  cases required : response.requirePayload least step with
  | error error => exact ⟨error, rfl⟩
  | ok payload =>
    have whole := (requirePayload_ok_iff.mp required).1
    exact absurd (by rw [completionCode, whole, List.head?_cons]) failed

/-- Alike answers are both good enough and carry the same payload, or neither is. -/
theorem Alike.requirePayload {first second : Response} (alike : Alike first second) (least : Nat)
    (step : Step) :
    (∃ payload, first.requirePayload least step = .ok payload ∧
      second.requirePayload least step = .ok payload) ∨
    ∃ error other, first.requirePayload least step = .error error ∧
      second.requirePayload least step = .error other := by
  -- Answers are alike by being the same or by failing both.
  rcases alike with rfl | ⟨failed, alsoFailed⟩
  · exact toOption_eq_cases rfl
  · -- Neither answer is good enough, though the two may fail for different reasons.
    obtain ⟨error, here⟩ := requirePayload_failed failed least step
    obtain ⟨other, there⟩ := requirePayload_failed alsoFailed least step
    exact .inr ⟨error, other, here, there⟩

end Response

namespace Controller

/-- Two ways of answering requests that never fail to answer, and answer alike. -/
def Alike (left right : controller.Answers) : Prop :=
  ∀ request : Request, 2 ≤ request.data.length →
    ∃ first second : Bytes, left request = (.ok (.answered first) : Except IpmiError Response) ∧
      right request = (.ok (.answered second) : Except IpmiError Response) ∧
      (Response.answered first).Alike (.answered second)

namespace Alike

variable {left right : controller.Answers} {α : Type} {request : Request}

/-- A dialogue agrees if it goes on the same from alike answers to its first request. -/
theorem send_bind (alike : Alike left right) (proper : 2 ≤ request.data.length)
    {next : Except IpmiError Response → Dialogue controller α}
    (onward : ∀ first second : Response, first.Alike second →
      (next (.ok first)).eval left = (next (.ok second)).eval right) :
    (send request >>= next).Agrees left right := by
  -- Both sides get an answer, and the two answers are alike.
  obtain ⟨first, second, leftward, rightward, same⟩ := alike request proper
  rw [Dialogue.Agrees, Dialogue.eval_bind, Dialogue.eval_bind]
  -- Asking the one question leaves how to go on from what either side answers.
  change (next (left request)).eval left = (next (right request)).eval right
  rw [leftward, rightward]
  exact onward _ _ same

/-- An attempt agrees if it goes on the same from alike answers to its first request. -/
theorem exec_bind (alike : Alike left right) (proper : 2 ≤ request.data.length)
    {next : Response → Attempt controller α}
    (onward : ∀ first second : Response, first.Alike second →
      (next first).value? left = (next second).value? right) :
    (exec request >>= next).Agrees left right := by
  -- Neither side loses the answer, so both attempts go on.
  obtain ⟨first, second, leftward, rightward, same⟩ := alike request proper
  rw [Attempt.Agrees, Attempt.value?_bind, Attempt.value?_bind]
  change (Except.toOption (left request)).bind (fun value => (next value).value? left)
    = (Except.toOption (right request)).bind (fun value => (next value).value? right)
  rw [leftward, rightward]
  exact onward _ _ same

/-- Fetching agrees on the payload or on there being none. -/
theorem fetch (alike : Alike left right) (proper : 2 ≤ request.data.length) (least : Nat)
    (step : Step) : (Controller.fetch request least step).Agrees left right := by
  -- What is left after the exchange is to read the answer, which asks for nothing more.
  refine alike.exec_bind proper fun first second same => ?_
  rw [Attempt.value?_lift, Attempt.value?_lift]
  rcases same.requirePayload least step with ⟨payload, here, there⟩ | ⟨error, other, here, there⟩
  · rw [here, there]
  -- Errors have no value, so two different ones count as the same.
  · rw [here, there]
    rfl

/-- Trying to fetch agrees on what is read. -/
theorem tryFetch (alike : Alike left right) (proper : 2 ≤ request.data.length) (least : Nat)
    (step : Step) (unavailable : IpmiError → Event) (read : Bytes → Option α) :
    (Controller.tryFetch request least step unavailable read).Agrees left right := by
  -- Trying never gives up, so only what is read from the payload has to be the same.
  refine alike.send_bind proper fun first second same => ?_
  rcases same.requirePayload least step with ⟨payload, here, there⟩ | ⟨error, other, here, there⟩
  · -- The same payload is read on both sides.
    simp only [here, there, Dialogue.eval_pure]
  -- A failure on both sides reads as nothing, whatever it is reported as.
  · simp only [here, there, Dialogue.eval_pure]

end Alike

end Controller

namespace Inventory

open Controller (Alike)

variable {left right : controller.Answers}

/-- A request for inventory bytes names a command. -/
theorem ProductArea.two_le_readRequest (address count : Nat) :
    2 ≤ (readRequest address count).data.length := by
  -- Writing bytes over a request makes it no shorter than it was before.
  simp only [readRequest, Request.patched, Request.direct, Bytes.length_patch, List.length_cons]
  omega

/-- Alike answers lead to the same product area. -/
theorem ProductArea.agrees_locate (alike : Alike left right) :
    locate.Agrees left right := by
  -- What each step finds is the same, so the request of the next step is too.
  refine (alike.fetch (by decide) 3 .inventoryArea).bind fun info => ?_
  -- The size of the area comes from the payload, so that both sides find it too small or neither
  -- does.
  dsimp only
  split
  next => exact Attempt.agrees_fail _
  refine (alike.fetch (two_le_readRequest 0 8) 9 .commonHeader).bind fun header => ?_
  refine (alike.fetch (two_le_readRequest _ 2) 3 .productHeader).bind fun area => ?_
  -- The header of the product area decides whether there is one, and it is the same on both sides.
  split
  next => exact Attempt.agrees_fail _
  next => exact Attempt.agrees_pure _

/-- Alike answers fill the pages of a product area the same. -/
theorem ProductArea.agrees_readPages (alike : Alike left right) (area : ProductArea)
    (host : String) (places : List Nat) (buffer : Bytes) :
    (area.readPages host places buffer).Agrees left right := by
  -- The pages are followed in order, with whatever the buffer holds when a page is asked for.
  induction places generalizing buffer with
  | nil => exact Dialogue.agrees_pure buffer
  | cons index rest ih =>
    rw [readPages]
    -- A page is asked for by its place alone, so that both sides ask the same.
    refine alike.send_bind (two_le_readRequest _ _) fun first second same => ?_
    rcases same.requirePayload 1 .productPage with ⟨page, here, there⟩ | ⟨error, other, here, there⟩
    · -- The same page is written over the same bytes.
      simp only [here, there]
      exact ih _
    · -- Reading stops at a failure and keeps what came before it.
      simp only [here, there]
      rfl

/-- Alike answers make the same inventory. -/
theorem agrees_read (alike : Alike left right) (host : String) :
    (read host).Agrees left right := by
  -- Every part of the reading agrees, and so does what is put together from them.
  refine (ProductArea.agrees_locate alike).bind fun area => ?_
  -- Where the area was found is reported, which changes no value.
  refine Attempt.agrees_report_bind _ ?_
  refine (Attempt.agrees_liftDialogue (ProductArea.agrees_readPages alike area host _ _)).bind
    fun bytes => ?_
  -- The device id and the network address are only tried, so that neither can end the reading.
  refine (Attempt.agrees_liftDialogue (alike.tryFetch (by decide) _ _ _ _)).bind
    fun firmwareVersion => ?_
  refine (Attempt.agrees_liftDialogue (alike.tryFetch (by decide) _ _ _ _)).bind
    fun lanAddress => ?_
  exact Attempt.agrees_pure _

end Inventory

end BmcTelemetry
