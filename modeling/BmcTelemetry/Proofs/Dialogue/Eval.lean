import BmcTelemetry.Dialogue.Turns
import BmcTelemetry.Proofs.Dialogue.Returns

/-! Fixed answers: what dialogues end with when a question gets the same answer whenever asked. -/

namespace BmcTelemetry

/-- An answer to each question, the same whenever it is asked. -/
abbrev Interface.Answers (I : Interface) : Type :=
  (question : I.Query) → I.Reply question

namespace Dialogue

variable {I J : Interface} {α β : Type}

/-- What a dialogue ends with under fixed answers. -/
def eval (answers : I.Answers) : Dialogue I α → α
  | .done value => value
  | .ask question next => (next (answers question)).eval answers
  | .note _ next => next.eval answers

section Laws

variable (answers : I.Answers)

@[simp] theorem eval_pure (value : α) : (pure value : Dialogue I α).eval answers = value := rfl

/-- Two dialogues in a row end as the second does after what the first ends with. -/
@[simp] theorem eval_bind (dialogue : Dialogue I α) (next : α → Dialogue I β) :
    (dialogue >>= next).eval answers = (next (dialogue.eval answers)).eval answers := by
  -- The answers do not change in between, so that both dialogues are followed under the same ones.
  induction dialogue with
  | done value => rfl
  | ask question branch ih => exact ih (answers question)
  | note event branch ih => exact ih

/-- A translated dialogue ends as the dialogue does under the answers of its translation. -/
theorem eval_translate (program : (question : I.Query) → Dialogue J (I.Reply question))
    (given : J.Answers) (dialogue : Dialogue I α) :
    (dialogue.translate program).eval given
      = dialogue.eval fun question => (program question).eval given := by
  -- The program for a question ends with the answer, from which the rest goes on.
  induction dialogue with
  | done value => rfl
  | ask question next ih =>
    change (program question >>= fun reply => (next reply).translate program).eval given = _
    rw [eval_bind]
    exact ih _
  | note event next ih => exact ih

/-- What is announced before a dialogue changes nothing. -/
theorem eval_announce (events : List Event) (dialogue : Dialogue I α) :
    (announce events dialogue).eval answers = dialogue.eval answers := by
  -- Events are passed over one by one.
  induction events with
  | nil => rfl
  | cons event rest ih => exact ih

/-- What is remarked before a question changes nothing. -/
theorem eval_afterRemarks (dialogue : Dialogue I α) :
    dialogue.afterRemarks.eval answers = dialogue.eval answers := by
  -- Only what stands in front of the first question is left out, and that has no answer.
  induction dialogue with
  | done value => rfl
  | ask question next _ => rfl
  | note event next ih => exact ih

end Laws

/-- Surroundings that give fixed answers and remember nothing. -/
def constantly (answers : I.Answers) : Handler I Unit :=
  fun question _ => (answers question, ())

/-- A run in surroundings with fixed answers ends as the dialogue does under these. -/
theorem run_constantly (dialogue : Dialogue I α) :
    (dialogue.run (constantly answers) ()).1 = dialogue.eval answers := by
  -- Each question gets the answer that is fixed for it, and nothing is remembered meanwhile.
  induction dialogue with
  | done value => rfl
  | ask question next ih => exact ih (answers question)
  | note event next ih => exact ih

/-- A translated dialogue returns what it ends with under the answers of its translation. -/
theorem returns_translate {Fair : List (Exchange J) → Prop} (splits : Splits Fair)
    {program : (question : I.Query) → Dialogue J (I.Reply question)} {answers : I.Answers}
    (each : ∀ question, (program question).Returns Fair (answers question))
    (dialogue : Dialogue I α) :
    (dialogue.translate program).Returns Fair (dialogue.eval answers) := by
  -- Each question is a dialogue of its own, whose exchanges are fair as part of all.
  induction dialogue with
  | done result => exact returns_pure result
  | ask question next ih => exact (each question).bind splits (ih _)
  | note event next ih =>
    intro exchanges value fair course
    cases course with
    | note _ course => exact ih _ value fair course

section Gathering

variable {answers : I.Answers} {name : String} {value : α}

/-- Whoever takes turns is found with what the dialogue of that name ends with. -/
theorem getElem?_eval_takeTurns (waiting served : List (String × Dialogue I α))
    (found : Std.TreeMap String α) :
    (∀ speaker ∈ served ++ waiting, speaker.1 = name → speaker.2.eval answers = value) →
    (name ∈ (served ++ waiting).map (·.1) ∨ found[name]? = some value) →
    ((takeTurns waiting served found).eval answers)[name]? = some value := by
  -- Whoever rises is found from then on, and whoever speaks still ends the same.
  induction waiting, served, found using takeTurns.induct with
  | case1 found =>
    intro _ known
    rw [takeTurns]
    -- Nobody waits any more, so that the value must have been found by now.
    rcases known with member | held
    · simp at member
    · exact held
  | case2 found first others ih =>
    intro same known
    rw [takeTurns]
    -- Whoever had a turn already waits again, and the same dialogues go on.
    exact ih (by simpa using same) (by simpa using known)
  | case3 found other result rest served ih =>
    intro same known
    rw [takeTurns]
    -- The others at the table are still there.
    refine ih (fun speaker member => same speaker ?_) ?_
    · rcases List.mem_append.mp member with had | waits
      · exact List.mem_append_left _ had
      · exact List.mem_append_right _ (List.mem_cons_of_mem _ waits)
    · by_cases own : other = name
      · -- The speaker who rises ends with the value.
        have ended : result = value := same (other, .done result) (by simp) own
        exact .inr (by rw [own, ended, Std.TreeMap.getElem?_insert_self])
      -- Somebody else rises, which neither removes the name nor changes what is found under it.
      · rcases known with member | held
        · left
          simpa [Ne.symm own] using member
        · right
          rw [Std.TreeMap.getElem?_insert, if_neg (by simpa using own)]
          exact held
  | case4 found other event dialogue rest served ih =>
    intro same known
    rw [takeTurns]
    refine ih (fun speaker member own => ?_) (by simpa using known)
    -- The others at the table have not spoken, and the event is no part of what the speaker ends
    -- with.
    rcases List.mem_append.mp member with had | waits
    · exact same speaker (List.mem_append_left _ had) own
    · rcases List.mem_cons.mp waits with rfl | waits
      · exact same (other, .note event dialogue) (by simp) own
      · exact same speaker (List.mem_append_right _ (List.mem_cons_of_mem _ waits)) own
  | case5 found other question next rest served ih =>
    intro same known
    rw [takeTurns]
    simp only [eval, eval_announce]
    refine ih _ (fun speaker member own => ?_) (by simpa [or_assoc, or_comm] using known)
    -- The speaker who has spoken still ends as before.
    rw [List.append_assoc] at member
    rcases List.mem_append.mp member with had | waits
    · exact same speaker (List.mem_append_left _ had) own
    · rcases List.mem_cons.mp waits with rfl | waits
      · rw [eval_afterRemarks]
        exact same (other, .ask question next) (by simp) own
      · exact same speaker (List.mem_append_right _ (List.mem_cons_of_mem _ waits)) own

/-- Whoever has a dialogue held is found with what the dialogue of that name ends with. -/
theorem getElem?_eval_foldlM (conversations : List (String × Dialogue I α)) :
    ∀ found : Std.TreeMap String α,
    (∀ speaker ∈ conversations, speaker.1 = name → speaker.2.eval answers = value) →
    (name ∈ conversations.map (·.1) ∨ found[name]? = some value) →
    (eval answers (conversations.foldlM (fun (found : Std.TreeMap String α) (host, dialogue) =>
      return found.insert host (← dialogue)) found))[name]? = some value := by
  -- What is found under the name is what the last conversation of that name ends with.
  induction conversations with
  | nil =>
    intro found _ known
    -- Nobody is left to speak, so that the value must have been found by now.
    rcases known with member | held
    · simp at member
    · exact held
  | cons speaker rest ih =>
    obtain ⟨other, dialogue⟩ := speaker
    intro found same known
    rw [List.foldlM_cons, eval_bind]
    refine ih _ (fun speaker member => same speaker (List.mem_cons_of_mem _ member)) ?_
    simp only [eval_bind, eval_pure]
    by_cases own : other = name
    -- The one who speaks now decides what is found, until another one of the name speaks.
    · have ended : dialogue.eval answers = value := same (other, dialogue) (by simp) own
      exact .inr (by rw [own, ended, Std.TreeMap.getElem?_insert_self])
    -- Another name is entered, which leaves what is found under this one.
    · rcases known with member | held
      · left
        simpa [Ne.symm own] using member
      · right
        rw [Std.TreeMap.getElem?_insert, if_neg (by simpa using own)]
        exact held

end Gathering

end Dialogue

namespace Attempt

variable {I : Interface} {α β : Type} (answers : I.Answers)

/-- What an attempt ends with under fixed answers, if it does not give up. -/
def value? (attempt : Attempt I α) : Option α :=
  (attempt.outcome.eval answers).toOption

@[simp] theorem value?_lift (value : Except IpmiError α) :
    (lift value : Attempt I α).value? answers = value.toOption := rfl

/-- A dialogue that never gives up ends with a value. -/
@[simp] theorem value?_liftDialogue (dialogue : Dialogue I α) :
    value? answers (ExceptT.lift dialogue) = some (dialogue.eval answers) := by
  -- The value of the dialogue is only marked as one.
  change ((dialogue >>= fun value =>
    pure (Except.ok value : Except IpmiError α)).eval answers).toOption = _
  rw [Dialogue.eval_bind]
  rfl

@[simp] theorem value?_report (event : Event) :
    (report event : Attempt I Unit).value? answers = some () :=
  value?_liftDialogue answers (Dialogue.report event)

/-- The second of two attempts starts from the value of the first. -/
@[simp] theorem value?_bind (attempt : Attempt I α) (next : α → Attempt I β) :
    (attempt >>= next).value? answers
      = (attempt.value? answers).bind fun value => (next value).value? answers := by
  -- An attempt goes on from a value and stops at an error, as its optional value does.
  change ((attempt.outcome >>= ExceptT.bindCont next).eval answers).toOption = _
  rw [Dialogue.eval_bind, value?]
  cases attempt.outcome.eval answers with
  | error error => rfl
  | ok value => rfl

/-- A report changes no value. -/
theorem value?_report_bind (event : Event) (next : Unit → Attempt I α) :
    (report event >>= next).value? answers = (next ()).value? answers := by
  rw [value?_bind, value?_report, Option.bind_some]

end Attempt

end BmcTelemetry
