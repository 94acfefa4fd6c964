import BmcTelemetry.Proofs.Controller

/-! Heeding failures: an attempt ends with the first exchange that fails, and asks nothing more. -/

namespace BmcTelemetry

variable {I : Interface} {α β γ : Type} {failure? : Exchange I → Option IpmiError}

/-- An exchange that fails is the last one, and its error is what everything ended with. -/
def EndsAtFailure (failure? : Exchange I → Option IpmiError) (exchanges : List (Exchange I))
    (ended : Option IpmiError) : Prop :=
  ∀ before exchange after error, exchanges = before ++ exchange :: after →
    failure? exchange = some error → after = [] ∧ ended = some error

/-- Where no exchange fails, nothing has to be heeded. -/
theorem endsAtFailure_of_passed {exchanges : List (Exchange I)}
    (passed : ∀ exchange ∈ exchanges, failure? exchange = none) (ended : Option IpmiError) :
    EndsAtFailure failure? exchanges ended := by
  -- The exchange that failed is one of those that did not.
  rintro before exchange after error rfl failed
  rw [passed exchange (by simp)] at failed
  cases failed

/-- One exchange is the last in any case. -/
theorem endsAtFailure_singleton {exchange : Exchange I} {ended : Option IpmiError}
    (heeded : ∀ error, failure? exchange = some error → ended = some error) :
    EndsAtFailure failure? [exchange] ended := by
  -- One exchange is split in one way only, with nothing before it and nothing after it.
  intro before other after error split failed
  obtain ⟨rfl, same⟩ | ⟨_, missing⟩ := List.singleton_eq_append_iff.mp split
  · cases same
    exact ⟨rfl, heeded error failed⟩
  · cases missing

/-- Without an error at the end, no exchange failed. -/
theorem EndsAtFailure.passed {exchanges : List (Exchange I)}
    (ends : EndsAtFailure failure? exchanges none) :
    ∀ exchange ∈ exchanges, failure? exchange = none := by
  intro exchange member
  -- An exchange that failed would have to be what everything ended with.
  obtain ⟨before, after, split⟩ := List.append_of_mem member
  cases failed : failure? exchange with
  | none => rfl
  | some error => cases (ends before exchange after error split failed).2

/-- Exchanges that do not fail may come before. -/
theorem EndsAtFailure.after {first rest : List (Exchange I)} {ended : Option IpmiError}
    (passed : ∀ exchange ∈ first, failure? exchange = none)
    (ends : EndsAtFailure failure? rest ended) :
    EndsAtFailure failure? (first ++ rest) ended := by
  intro before exchange after error split failed
  -- The failing exchange is none of the first ones.
  rcases List.append_eq_append_iff.mp split with ⟨others, _, same⟩ | ⟨others, same, remains⟩
  -- The failing exchange stands in the rest, where it is heeded.
  · exact ends others exchange after error same failed
  -- Otherwise the split is made inside the first exchanges, or right behind them.
  · cases others with
    | nil => exact ends [] exchange after error remains.symm failed
    | cons other others =>
      obtain ⟨rfl, _⟩ := List.cons.inj remains
      rw [passed exchange (by simp [same])] at failed
      cases failed

namespace Attempt

open Dialogue (Course)

/-- The error that an attempt ended with. -/
def failureOf : Except IpmiError α → Option IpmiError
  | .ok _ => none
  | .error error => some error

@[simp] theorem failureOf_ok (value : α) : failureOf (.ok value) = none := rfl

@[simp] theorem failureOf_error (error : IpmiError) :
    failureOf (.error error : Except IpmiError α) = some error := rfl

/-- An attempt ends with the first exchange that fails, and with its error. -/
def Heeds (failure? : Exchange I → Option IpmiError) (attempt : Attempt I α) : Prop :=
  ∀ exchanges result, Course attempt.outcome exchanges result →
    EndsAtFailure failure? exchanges (failureOf result)

/-- An end heeds all failures. -/
theorem heeds_lift (value : Except IpmiError α) : (lift value : Attempt I α).Heeds failure? := by
  -- An end has no exchange that could fail.
  intro exchanges result course
  obtain ⟨rfl, _⟩ := course_lift_iff.mp course
  exact endsAtFailure_of_passed (by simp) _

/-- Two attempts in a row heed failures when each of them does. -/
theorem Heeds.bind {attempt : Attempt I α} (first : attempt.Heeds failure?)
    {next : α → Attempt I β} (onward : ∀ value, (next value).Heeds failure?) :
    (attempt >>= next).Heeds failure? := by
  intro exchanges result course
  -- The second attempt is only reached when no exchange of the first one failed.
  rcases course_bind_iff.mp course with ⟨error, failed, rfl⟩ | ⟨front, value, rest, asked, onwards,
    rfl⟩
  -- The first attempt gave up, so that its exchanges are all there are.
  · exact first _ _ failed
  · exact (onward value _ _ onwards).after (first _ _ asked).passed

/-- A report is heeded by whatever follows. -/
theorem heeds_report_bind (event : Event) {next : Unit → Attempt I α}
    (onward : (next ()).Heeds failure?) : (report event >>= next).Heeds failure? :=
  fun exchanges result course => onward exchanges result (course_report_bind_iff.mp course)

/-- Attempts one after another heed failures when each of them does. -/
theorem heeds_mapM {program : γ → Attempt I α} (items : List γ)
    (each : ∀ item ∈ items, (program item).Heeds failure?) :
    Heeds failure? (items.mapM program) := by
  -- The attempts come one after another, and an end comes after them.
  induction items with
  | nil => exact heeds_lift (.ok [])
  | cons item rest ih =>
    rw [List.mapM_cons]
    refine (each item (by simp)).bind fun value => ?_
    refine (ih fun other member => each other (List.mem_cons_of_mem _ member)).bind fun values => ?_
    exact heeds_lift (.ok _)

/-- An attempt takes at most so many exchanges. -/
def AsksAtMost (attempt : Attempt I α) (most : Nat) : Prop :=
  ∀ exchanges result, Course attempt.outcome exchanges result → exchanges.length ≤ most

/-- An end takes no exchange. -/
theorem asksAtMost_lift (value : Except IpmiError α) : (lift value : Attempt I α).AsksAtMost 0 := by
  -- There is nothing to ask at an end.
  intro exchanges result course
  obtain ⟨rfl, _⟩ := course_lift_iff.mp course
  exact Nat.le_refl 0

/-- What takes few exchanges does not take more. -/
theorem AsksAtMost.mono {attempt : Attempt I α} {most more : Nat} (asks : attempt.AsksAtMost most)
    (le : most ≤ more) : attempt.AsksAtMost more :=
  fun exchanges result course => Nat.le_trans (asks exchanges result course) le

/-- Two attempts in a row take the exchanges of both. -/
theorem AsksAtMost.bind {attempt : Attempt I α} {most more : Nat} (first : attempt.AsksAtMost most)
    {next : α → Attempt I β} (onward : ∀ value, (next value).AsksAtMost more) :
    (attempt >>= next).AsksAtMost (most + more) := by
  intro exchanges result course
  -- The first attempt may have been the end, and then its exchanges are all.
  rcases course_bind_iff.mp course with ⟨error, failed, rfl⟩ | ⟨front, value, rest, asked, onwards,
    rfl⟩
  · exact Nat.le_add_right_of_le (first _ _ failed)
  · rw [List.length_append]
    exact Nat.add_le_add (first _ _ asked) (onward value _ _ onwards)

/-- A report takes no exchange. -/
theorem asksAtMost_report_bind (event : Event) {next : Unit → Attempt I α} {most : Nat}
    (onward : (next ()).AsksAtMost most) : (report event >>= next).AsksAtMost most :=
  fun exchanges result course => onward exchanges result (course_report_bind_iff.mp course)

/-- Attempts of one exchange at most take no more than there are attempts. -/
theorem asksAtMost_mapM {program : γ → Attempt I α} (items : List γ)
    (each : ∀ item, (program item).AsksAtMost 1) :
    AsksAtMost (items.mapM program) items.length := by
  -- Each item costs one exchange, and putting the values together costs none.
  induction items with
  | nil => exact asksAtMost_lift (.ok [])
  | cons item rest ih =>
    rw [List.mapM_cons, List.length_cons, Nat.add_comm]
    exact (each item).bind fun _ => ih.bind fun _ => asksAtMost_lift (.ok _)

end Attempt

namespace Controller

open Attempt (AsksAtMost Heeds failureOf)

variable {request : Request} {failure? : Exchange controller → Option IpmiError}

/-- A request that only has to be delivered ends an attempt when it is not. -/
theorem heeds_exec
    (delivery : ∀ reply : Except IpmiError Response, failure? ⟨request, reply⟩ = failureOf reply) :
    (exec request).Heeds failure? := by
  intro exchanges result course
  obtain rfl := course_exec_iff.mp course
  -- The attempt ends with whatever became of its only exchange.
  exact endsAtFailure_singleton fun error failed => (delivery result).symm.trans failed

/-- A request whose answer has to carry enough bytes ends an attempt when it does not. -/
theorem heeds_fetch {least : Nat} {step : Step}
    (delivery : ∀ reply : Except IpmiError Response, failure? ⟨request, reply⟩
      = failureOf (reply.bind fun response => response.requirePayload least step)) :
    (fetch request least step).Heeds failure? := by
  -- The attempt ends with what the one reply is worth to it.
  intro exchanges result course
  obtain ⟨reply, rfl, rfl⟩ := course_fetch_iff.mp course
  exact endsAtFailure_singleton fun error failed => (delivery reply).symm.trans failed

/-- Sending a request is one exchange. -/
theorem asksAtMost_exec (request : Request) : (exec request).AsksAtMost 1 := by
  -- Its course is a single exchange, whatever the answer is.
  intro exchanges result course
  obtain rfl := course_exec_iff.mp course
  exact Nat.le_refl 1

/-- Fetching is one exchange. -/
theorem asksAtMost_fetch (request : Request) (least : Nat) (step : Step) :
    (fetch request least step).AsksAtMost 1 := by
  -- The answer is looked at without a further exchange.
  intro exchanges result course
  obtain ⟨reply, rfl, rfl⟩ := course_fetch_iff.mp course
  exact Nat.le_refl 1

end Controller

end BmcTelemetry
