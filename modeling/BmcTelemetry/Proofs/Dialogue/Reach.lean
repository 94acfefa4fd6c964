import BmcTelemetry.Dialogue.Turns

/-! What a run comes to: its result and what the surroundings remember by then, without events. -/

namespace BmcTelemetry

variable {I J : Interface} {α β σ : Type}

namespace Dialogue

/-- The result of a run, and what the surroundings remember when it ends. -/
def reach (handler : Handler I σ) (dialogue : Dialogue I α) (memory : σ) : α × σ :=
  ((dialogue.run handler memory).1, (dialogue.run handler memory).2.2)

section Laws

variable (handler : Handler I σ) (memory : σ)

@[simp] theorem reach_pure (value : α) :
    (pure value : Dialogue I α).reach handler memory = (value, memory) := rfl

/-- A question is answered, and the rest goes on with what is remembered then. -/
theorem reach_ask (question : I.Query) (next : I.Reply question → Dialogue I α) :
    (ask question next).reach handler memory
      = (next (handler question memory).1).reach handler (handler question memory).2 := rfl

/-- An event changes neither the result nor what is remembered. -/
theorem reach_note (event : Event) (next : Dialogue I α) :
    (note event next).reach handler memory = next.reach handler memory := rfl

/-- The second of two dialogues starts from what the first one comes to. -/
@[simp] theorem reach_bind (dialogue : Dialogue I α) (next : α → Dialogue I β) :
    (dialogue >>= next).reach handler memory
      = (next (dialogue.reach handler memory).1).reach handler
          (dialogue.reach handler memory).2 := by
  -- The run of the first dialogue ends where that of the second one starts, with its memory.
  induction dialogue generalizing memory with
  | done value => rfl
  | ask question branch ih => exact ih _ _
  | note event branch ih => exact ih memory

@[simp] theorem reach_report (event : Event) :
    (report event : Dialogue I Unit).reach handler memory = ((), memory) := rfl

/-- A translated dialogue comes to what the dialogue does when its translation answers. -/
theorem reach_translate (program : (question : J.Query) → Dialogue I (J.Reply question))
    (dialogue : Dialogue J α) :
    (dialogue.translate program).reach handler memory
      = dialogue.reach (fun question => (program question).reach handler) memory := by
  -- The program for a question leaves behind what the rest goes on with.
  induction dialogue generalizing memory with
  | done value => rfl
  | ask question next ih =>
    change (program question >>= fun reply => (next reply).translate program).reach handler _ = _
    rw [reach_bind]
    exact ih _ _
  | note event next ih => exact ih memory

/-- What is announced before a dialogue changes nothing about what it comes to. -/
theorem reach_announce (events : List Event) (dialogue : Dialogue I α) :
    (announce events dialogue).reach handler memory = dialogue.reach handler memory := by
  -- Events are passed over one by one.
  induction events with
  | nil => rfl
  | cons event rest ih => exact ih

/-- What is remarked before a question changes nothing about what a dialogue comes to. -/
theorem reach_afterRemarks (dialogue : Dialogue I α) :
    dialogue.afterRemarks.reach handler memory = dialogue.reach handler memory := by
  -- Remarks stand in front of the first question, so that no question is skipped.
  induction dialogue with
  | done value => rfl
  | ask question next _ => rfl
  | note event next ih => exact ih

end Laws

end Dialogue

namespace Attempt

variable {handler : Dialogue.Handler I σ} {memory : σ}

/-- A dialogue that never gives up comes to a value. -/
theorem reach_liftDialogue (dialogue : Dialogue I α) :
    (outcome (ExceptT.lift dialogue)).reach handler memory
      = (.ok (dialogue.reach handler memory).1, (dialogue.reach handler memory).2) := by
  -- The end of the dialogue is marked as a value, which costs nothing.
  change (dialogue >>= fun value =>
    (pure (Except.ok value) : Dialogue I (Except IpmiError α))).reach handler memory = _
  rw [Dialogue.reach_bind, Dialogue.reach_pure]

/-- An attempt in two steps that comes to a value went through both. -/
theorem reach_bind_ok {attempt : Attempt I α} {next : α → Attempt I β} {result : β}
    (reached : ((attempt >>= next).outcome.reach handler memory).1 = .ok result) :
    ∃ value, (attempt.outcome.reach handler memory).1 = .ok value ∧
      ((next value).outcome.reach handler (attempt.outcome.reach handler memory).2).1
        = .ok result := by
  -- An attempt goes on from what the first step has come to, be it a value or an error.
  change ((attempt.outcome >>= ExceptT.bindCont next).reach handler memory).1 = _ at reached
  rw [Dialogue.reach_bind] at reached
  -- An error in the first step would have been the end.
  cases first : (attempt.outcome.reach handler memory).1 with
  | ok value =>
    rw [first] at reached
    exact ⟨value, rfl, reached⟩
  | error error =>
    rw [first] at reached
    cases reached

end Attempt

end BmcTelemetry
