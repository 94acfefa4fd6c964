import BmcTelemetry.Proofs.Dialogue.Reach

/-! Logs: the events that a run of a dialogue reports, in order. -/

namespace BmcTelemetry

variable {I : Interface} {α β σ : Type}

namespace Dialogue

/-- The events of a run. -/
def log (handler : Handler I σ) (dialogue : Dialogue I α) (memory : σ) : List Event :=
  (dialogue.run handler memory).2.1

section Laws

variable (handler : Handler I σ) (memory : σ)

@[simp] theorem log_pure (value : α) : (pure value : Dialogue I α).log handler memory = [] := rfl

/-- The second of two dialogues reports behind the first, from what that one comes to. -/
@[simp] theorem log_bind (dialogue : Dialogue I α) (next : α → Dialogue I β) :
    (dialogue >>= next).log handler memory
      = dialogue.log handler memory
        ++ (next (dialogue.reach handler memory).1).log handler
          (dialogue.reach handler memory).2 := by
  -- What the first dialogue reports comes while its tree is gone down, before the second begins.
  induction dialogue generalizing memory with
  | done value => rfl
  | ask question branch ih => exact ih _ _
  | note event branch ih => exact congrArg (List.cons event) (ih memory)

end Laws

end Dialogue

namespace Attempt

variable (handler : Dialogue.Handler I σ) (memory : σ)

/-- An attempt after a report has that event in front of its log. -/
@[simp] theorem log_report_bind (event : Event) (next : Unit → Attempt I α) :
    (report event >>= next).outcome.log handler memory
      = event :: (next ()).outcome.log handler memory := rfl

/-- An attempt reports behind a dialogue that never gives up. -/
@[simp] theorem log_liftDialogue_bind (dialogue : Dialogue I α) (next : α → Attempt I β) :
    (outcome (ExceptT.lift dialogue >>= next)).log handler memory
      = dialogue.log handler memory
        ++ (next (dialogue.reach handler memory).1).outcome.log handler
          (dialogue.reach handler memory).2 := by
  change ((dialogue >>= fun value => (pure (Except.ok value) : Dialogue I _))
    >>= ExceptT.bindCont next).log handler memory = _
  -- The dialogue's value is marked as one, which reports nothing.
  rw [LawfulMonad.bind_assoc, Dialogue.log_bind]
  rfl

end Attempt

end BmcTelemetry
