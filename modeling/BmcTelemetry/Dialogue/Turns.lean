import BmcTelemetry.Dialogue
import Std.Data.TreeMap

/-! Turns: several dialogues that share what answers them and ask one question each in turn. -/

namespace BmcTelemetry.Dialogue

variable {I : Interface} {α : Type}

/-- Reports events and goes on. -/
def announce : List Event → Dialogue I α → Dialogue I α
  | [], dialogue => dialogue
  | event :: rest, dialogue => .note event (announce rest dialogue)

/-- The events that come before the next question, or before the end. -/
def remarks : Dialogue I α → List Event
  | .note event rest => event :: rest.remarks
  | .ask _ _ | .done _ => []

/-- A dialogue from its next question on, or from its end on. -/
def afterRemarks : Dialogue I α → Dialogue I α
  | .note _ rest => rest.afterRemarks
  | .ask question next => .ask question next
  | .done value => .done value

/-- A dialogue is what is left of another after an answer or a report. -/
inductive Follows : Dialogue I α → Dialogue I α → Prop
  /-- After an answer, and whatever is reported about it, the next question is due. -/
  | answered (question : I.Query) (next : I.Reply question → Dialogue I α)
      (reply : I.Reply question) : Follows (next reply).afterRemarks (.ask question next)
  /-- After a report, the dialogue goes on. -/
  | reported (event : Event) (rest : Dialogue I α) : Follows rest (.note event rest)

/-- Every dialogue ends, whatever the answers. -/
theorem Follows.accessible (dialogue : Dialogue I α) :
    Acc Follows dialogue ∧ Acc Follows dialogue.afterRemarks := by
  -- Answers and reports lead to smaller trees, and so does passing over all reports at once.
  induction dialogue with
  | done value =>
    have ended : Acc Follows (.done value : Dialogue I α) := ⟨_, fun _ follows => nomatch follows⟩
    exact ⟨ended, ended⟩
  | ask question next ih =>
    have due : Acc Follows (.ask question next) := by
      refine ⟨_, fun after follows => ?_⟩
      cases follows with
      | answered _ _ reply => exact (ih reply).2
    exact ⟨due, due⟩
  | note event rest ih =>
    refine ⟨⟨_, fun after follows => ?_⟩, ih.2⟩
    cases follows with
    | reported => exact ih.1

/-- Dialogues around a table, each under the name of its speaker. -/
structure Table (I : Interface) (α : Type) where
  /-- The speakers and what they have left to say. -/
  speakers : List (String × Dialogue I α)

namespace Table

/-- A table is what is left of another after one of its speakers went on or rose. -/
inductive Follows : Table I α → Table I α → Prop
  /-- The first speaker rose. -/
  | rose (speaker : String × Dialogue I α) (rest : List (String × Dialogue I α)) :
      Follows ⟨rest⟩ ⟨speaker :: rest⟩
  /-- The first speaker went on. -/
  | spoke (name : String) (rest : List (String × Dialogue I α)) {after before : Dialogue I α}
      (follows : after.Follows before) : Follows ⟨(name, after) :: rest⟩ ⟨(name, before) :: rest⟩
  /-- A later speaker rose or went on. -/
  | later (speaker : String × Dialogue I α) {after before : List (String × Dialogue I α)}
      (follows : Follows ⟨after⟩ ⟨before⟩) : Follows ⟨speaker :: after⟩ ⟨speaker :: before⟩

/-- One more speaker, whose dialogue ends, does not keep a table from coming to an end. -/
theorem Follows.accessible_cons {dialogue : Dialogue I α} (ends : Acc Dialogue.Follows dialogue) :
    ∀ {name : String} {rest : List (String × Dialogue I α)}, Acc Follows ⟨rest⟩ →
      Acc Follows ⟨(name, dialogue) :: rest⟩ := by
  -- Either the new speaker has less left to say, or the others have with the speaker as before.
  induction ends with
  | intro dialogue _ speaks =>
    intro name rest others
    generalize same : (⟨rest⟩ : Table I α) = table at others
    induction others generalizing rest with
    | intro table below waits =>
      subst same
      refine ⟨_, fun after follows => ?_⟩
      cases follows with
      | rose => exact ⟨_, below⟩
      | spoke _ _ follows => exact speaks _ follows ⟨_, below⟩
      | later _ follows => exact waits _ follows rfl

/-- Every table comes to an end. -/
theorem Follows.accessible (table : Table I α) : Acc Follows table := by
  -- The empty table is at its end, and speakers join one by one.
  obtain ⟨speakers⟩ := table
  induction speakers with
  | nil => exact ⟨_, fun _ follows => nomatch follows⟩
  | cons speaker rest ih => exact accessible_cons (Dialogue.Follows.accessible speaker.2).1 ih

instance : WellFoundedRelation (Table I α) where
  rel := Follows
  wf := ⟨Follows.accessible⟩

/-- What happens among the later speakers happens at the table. -/
theorem Follows.append_left {after before : List (String × Dialogue I α)}
    (follows : Follows ⟨after⟩ ⟨before⟩) (served : List (String × Dialogue I α)) :
    Follows ⟨served ++ after⟩ ⟨served ++ before⟩ := by
  -- Every speaker in front stays as before.
  induction served with
  | nil => exact follows
  | cons speaker rest ih => exact .later speaker ih

end Table

/--
Lets speakers ask one question each in turn, and gathers what they end with by name.

The speakers still waiting for their turn come before those that had it in this round.
-/
def takeTurns (waiting served : List (String × Dialogue I α)) (found : Std.TreeMap String α) :
    Dialogue I (Std.TreeMap String α) :=
  match waiting, served with
  | [], [] => .done found
  -- With nobody left to wait for, the next round begins.
  | [], first :: others => takeTurns (first :: others) [] found
  | (name, .done value) :: rest, served => takeTurns rest served (found.insert name value)
  | (name, .note event dialogue) :: rest, served =>
    .note event (takeTurns ((name, dialogue) :: rest) served found)
  | (name, .ask question next) :: rest, served =>
    .ask question fun reply =>
      -- What an answer gives rise to belongs to the turn of its question.
      announce (next reply).remarks
        (takeTurns rest (served ++ [(name, (next reply).afterRemarks)]) found)
termination_by ((⟨served ++ waiting⟩ : Table I α), if waiting.isEmpty then 1 else 0)
decreasing_by
  · simp only [List.nil_append, List.append_nil]
    exact .right _ Nat.zero_lt_one
  · exact .left _ _ (.append_left (.rose _ _) _)
  · exact .left _ _ (.append_left (.spoke _ _ (.reported _ _)) _)
  · simp only [List.append_assoc, List.singleton_append]
    exact .left _ _ (.append_left (.spoke _ _ (.answered _ _ _)) _)

end BmcTelemetry.Dialogue
