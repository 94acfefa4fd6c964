import BmcTelemetry.Proofs.Dialogue.Course
import BmcTelemetry.Proofs.Dialogue.Reach

/-!
Silence: what is left of a dialogue when nothing is reported.

Two dialogues that are the same in silence ask the same and come to the same.
-/

namespace BmcTelemetry.Dialogue

variable {I : Interface} {α β σ : Type}

/-- A dialogue without its reports. -/
def silenced : Dialogue I α → Dialogue I α
  | .done value => .done value
  | .ask question next => .ask question fun reply => (next reply).silenced
  | .note _ next => next.silenced

section Laws

@[simp] theorem silenced_pure (value : α) : (pure value : Dialogue I α).silenced = pure value := rfl

@[simp] theorem silenced_report (event : Event) :
    (report event : Dialogue I Unit).silenced = pure () := rfl

@[simp] theorem silenced_bind (dialogue : Dialogue I α) (next : α → Dialogue I β) :
    (dialogue >>= next).silenced = dialogue.silenced >>= fun value => (next value).silenced := by
  -- Questions stay where they are, so what goes on from the end goes on from the same end.
  induction dialogue with
  | done value => rfl
  | ask question branch ih => exact congrArg (ask question) (funext fun reply => ih reply)
  | note event branch ih => exact ih

/-- A list of dialogues is silenced one by one. -/
theorem silenced_mapM {γ : Type} (program : γ → Dialogue I α) (items : List γ) :
    (items.mapM program).silenced = items.mapM fun item => (program item).silenced := by
  -- The list is gone through by one step after another, each of which is silenced by itself.
  induction items with
  | nil => rfl
  | cons item rest ih => simp only [List.mapM_cons, silenced_bind, silenced_pure, ih]

end Laws

section Runs

variable (handler : Handler I σ) (dialogue : Dialogue I α) (memory : σ)

/-- A silenced dialogue puts the same questions. -/
theorem transcript_silenced :
    dialogue.silenced.transcript handler memory = dialogue.transcript handler memory := by
  -- Only questions leave a trace in a transcript, and each of them is still put.
  induction dialogue generalizing memory with
  | done value => rfl
  | ask question next ih => exact congrArg (List.cons _) (ih _ _)
  | note event next ih => exact ih memory

/-- A silenced dialogue comes to the same. -/
theorem reach_silenced :
    dialogue.silenced.reach handler memory = dialogue.reach handler memory := by
  -- A report passes on what the surroundings remember, so leaving it out changes nothing.
  induction dialogue generalizing memory with
  | done value => rfl
  | ask question next ih => exact ih _ _
  | note event next ih => exact ih memory

/-- What is made of the result puts no question. -/
theorem transcript_map (apply : α → β) :
    (apply <$> dialogue).transcript handler memory = dialogue.transcript handler memory := by
  -- What is made of the result comes after the last question.
  rw [map_eq_pure_bind, transcript_bind]
  exact List.append_nil _

end Runs

end BmcTelemetry.Dialogue
