import BmcTelemetry.Proofs.Dialogue.Eval

/-! Agreement: dialogues that end the same under two ways of answering. -/

namespace BmcTelemetry

variable {I : Interface} {α β γ : Type} {left right : I.Answers}

namespace Dialogue

/-- A dialogue ends the same under two ways of answering. -/
def Agrees (left right : I.Answers) (dialogue : Dialogue I α) : Prop :=
  dialogue.eval left = dialogue.eval right

/-- An end is the same under all answers. -/
theorem agrees_pure (value : α) : (pure value : Dialogue I α).Agrees left right := rfl

/-- Two dialogues in a row agree when each of them does. -/
theorem Agrees.bind {dialogue : Dialogue I α} (first : dialogue.Agrees left right)
    {next : α → Dialogue I β} (onward : ∀ value, (next value).Agrees left right) :
    (dialogue >>= next).Agrees left right := by
  -- The first dialogue has the same end on both sides, so that the second goes on from one value.
  rw [Agrees, eval_bind, eval_bind, first]
  exact onward _

/-- A report changes no agreement. -/
theorem agrees_report_bind (event : Event) {next : Unit → Dialogue I α}
    (onward : (next ()).Agrees left right) : (report event >>= next).Agrees left right := onward

end Dialogue

namespace Attempt

/-- An attempt ends with the same value under two ways of answering, or gives up under both. -/
def Agrees (left right : I.Answers) (attempt : Attempt I α) : Prop :=
  attempt.value? left = attempt.value? right

/-- An end is the same under all answers. -/
theorem agrees_pure (value : α) : (pure value : Attempt I α).Agrees left right := rfl

/-- Giving up is the same under all answers. -/
theorem agrees_fail (error : IpmiError) : (fail error : Attempt I α).Agrees left right := rfl

/-- A value that is already known is the same under all answers. -/
theorem agrees_lift (value : Except IpmiError α) :
    (lift value : Attempt I α).Agrees left right := rfl

/-- A dialogue that never gives up agrees within an attempt as it does by itself. -/
theorem agrees_liftDialogue {dialogue : Dialogue I α} (agrees : dialogue.Agrees left right) :
    Agrees left right (ExceptT.lift dialogue) := by
  -- Within an attempt, the end of the dialogue is a value, which is the same on both sides.
  rw [Agrees, value?_liftDialogue, value?_liftDialogue, agrees]

/-- Two attempts in a row agree when each of them does. -/
theorem Agrees.bind {attempt : Attempt I α} (first : attempt.Agrees left right)
    {next : α → Attempt I β} (onward : ∀ value, (next value).Agrees left right) :
    (attempt >>= next).Agrees left right := by
  rw [Agrees, value?_bind, value?_bind, first]
  -- Where the first attempt gives up, nothing follows.
  cases attempt.value? right with
  | none => rfl
  | some value => exact onward value

/-- A report changes no agreement. -/
theorem agrees_report_bind (event : Event) {next : Unit → Attempt I α}
    (onward : (next ()).Agrees left right) : (report event >>= next).Agrees left right := by
  -- The value of the attempt is that of what follows the report.
  rw [Agrees, value?_report_bind, value?_report_bind]
  exact onward

/-- Attempts one after another agree when each of them does. -/
theorem agrees_mapM {program : γ → Attempt I α} (items : List γ)
    (each : ∀ item ∈ items, (program item).Agrees left right) :
    Agrees left right (items.mapM program) := by
  -- The list is gone through item by item, and each step agrees by itself.
  induction items with
  | nil => exact agrees_pure []
  | cons item rest ih =>
    rw [List.mapM_cons]
    refine (each item List.mem_cons_self).bind fun value => ?_
    refine (ih fun other member => each other (List.mem_cons_of_mem _ member)).bind fun values => ?_
    exact agrees_pure _

end Attempt

end BmcTelemetry
