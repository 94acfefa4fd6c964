import BmcTelemetry.Proofs.Dialogue.Eval
import BmcTelemetry.Proofs.Dialogue.Reach

/-!
Faltering: what becomes of dialogues when surroundings with fixed answers fail some questions.

A dialogue that puts none of these questions keeps its end, and an attempt may also give up.
-/

namespace BmcTelemetry

variable {I : Interface} {α β γ σ : Type} {answers : I.Answers} {handler : Dialogue.Handler I σ}

namespace Dialogue

/-- A dialogue ends as under the fixed answers, whatever the surroundings remember. -/
def Keeps (answers : I.Answers) (handler : Handler I σ) (dialogue : Dialogue I α) : Prop :=
  ∀ memory, (dialogue.reach handler memory).1 = dialogue.eval answers

end Dialogue

namespace Attempt

open Dialogue (Keeps)

/-- An attempt ends as under the fixed answers, or else it gives up. -/
def Falters (answers : I.Answers) (handler : Dialogue.Handler I σ) (attempt : Attempt I α) :
    Prop :=
  ∀ memory, (attempt.outcome.reach handler memory).1 = attempt.outcome.eval answers ∨
    ∃ error, (attempt.outcome.reach handler memory).1 = .error error

section Keeping

theorem keeps_pure (value : α) :
    (pure value : Attempt I α).outcome.Keeps answers handler := fun _ => rfl

theorem keeps_lift (value : Except IpmiError α) :
    (lift value : Attempt I α).outcome.Keeps answers handler := fun _ => rfl

/-- Two attempts in a row keep their end when each of them does. -/
theorem keeps_bind {attempt : Attempt I α} (first : attempt.outcome.Keeps answers handler)
    {next : α → Attempt I β} (onward : ∀ value, (next value).outcome.Keeps answers handler) :
    (attempt >>= next).outcome.Keeps answers handler := by
  -- Both are compared step by step: the run in its surroundings, and the end under fixed answers.
  intro memory
  change ((attempt.outcome >>= ExceptT.bindCont next).reach handler memory).1
    = (attempt.outcome >>= ExceptT.bindCont next).eval answers
  rw [Dialogue.reach_bind, Dialogue.eval_bind, first]
  -- An error ends both, and a value leads both on.
  cases attempt.outcome.eval answers with
  | ok value => exact onward value _
  | error error => rfl

/-- Attempts one after another keep their ends when each of them does. -/
theorem keeps_mapM {program : γ → Attempt I α} (items : List γ)
    (each : ∀ item, (program item).outcome.Keeps answers handler) :
    Keeps answers handler (outcome (items.mapM program)) := by
  -- The list is gone through item by item, each of which keeps its end.
  induction items with
  | nil => exact keeps_pure []
  | cons item rest ih =>
    rw [List.mapM_cons]
    exact keeps_bind (each item) fun value => keeps_bind ih fun values => keeps_pure _

end Keeping

section Faltering

/-- Giving up is one of the ways to falter. -/
theorem falters_of_keeps {attempt : Attempt I α} (keeps : attempt.outcome.Keeps answers handler) :
    attempt.Falters answers handler :=
  fun memory => .inl (keeps memory)

/-- Two attempts in a row falter no worse than each of them. -/
theorem Falters.bind {attempt : Attempt I α} (first : attempt.Falters answers handler)
    {next : α → Attempt I β} (onward : ∀ value, (next value).Falters answers handler) :
    (attempt >>= next).Falters answers handler := by
  -- The first attempt has come to its end as it should, or it has given up.
  intro memory
  change ((attempt.outcome >>= ExceptT.bindCont next).reach handler memory).1
    = (attempt.outcome >>= ExceptT.bindCont next).eval answers ∨
    ∃ error, ((attempt.outcome >>= ExceptT.bindCont next).reach handler memory).1 = .error error
  rw [Dialogue.reach_bind, Dialogue.eval_bind]
  rcases first memory with same | ⟨error, failed⟩
  · rw [same]
    -- From an end as it should be, the second attempt goes on, unless that end is an error already.
    cases attempt.outcome.eval answers with
    | ok value => exact onward value _
    | error error => exact .inl rfl
  · -- What would follow is never reached.
    rw [failed]
    exact .inr ⟨error, rfl⟩

/-- Attempts one after another falter no worse than each of them. -/
theorem falters_mapM {program : γ → Attempt I α} (items : List γ)
    (each : ∀ item, (program item).Falters answers handler) :
    Falters answers handler (items.mapM program) := by
  -- The list is gone through item by item, and what falters at one of them gives up as a whole.
  induction items with
  | nil => exact falters_of_keeps (keeps_pure [])
  | cons item rest ih =>
    rw [List.mapM_cons]
    exact (each item).bind fun value => ih.bind fun values => falters_of_keeps (keeps_pure _)

end Faltering

end Attempt

end BmcTelemetry
