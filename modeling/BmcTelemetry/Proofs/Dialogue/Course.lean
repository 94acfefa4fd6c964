import BmcTelemetry.Dialogue

/-! Courses: what a dialogue and its surroundings say to each other, whatever the surroundings. -/

namespace BmcTelemetry

/-- A question and the answer that it got. -/
structure Exchange (I : Interface) where
  /-- The question. -/
  query : I.Query
  /-- The answer. -/
  reply : I.Reply query

namespace Dialogue

variable {I J : Interface} {α β σ : Type}

/-- Every question of a run with the answer that it got, in order. -/
def transcript (handler : Handler I σ) : Dialogue I α → σ → List (Exchange I)
  | .done _, _ => []
  | .ask question next, memory =>
    let (reply, memory) := handler question memory
    ⟨question, reply⟩ :: (next reply).transcript handler memory
  | .note _ next, memory => next.transcript handler memory

/-- A dialogue may take certain exchanges, in this order, and end with a value. -/
inductive Course : Dialogue I α → List (Exchange I) → α → Prop
  /-- The end takes no further exchange. -/
  | done (value : α) : Course (.done value) [] value
  /-- A question may get any answer. -/
  | ask (question : I.Query) {next : I.Reply question → Dialogue I α} (reply : I.Reply question)
      {rest : List (Exchange I)} {value : α} (course : Course (next reply) rest value) :
      Course (.ask question next) (⟨question, reply⟩ :: rest) value
  /-- An event is no exchange. -/
  | note (event : Event) {next : Dialogue I α} {exchanges : List (Exchange I)} {value : α}
      (course : Course next exchanges value) : Course (.note event next) exchanges value

/-- Every run is a course, whatever the surroundings answer and remember. -/
theorem course_run (handler : Handler I σ) (dialogue : Dialogue I α) (memory : σ) :
    Course dialogue (dialogue.transcript handler memory) (dialogue.run handler memory).1 := by
  -- The run goes down the tree along the answers that the transcript lists.
  induction dialogue generalizing memory with
  | done value => exact .done value
  | ask question next ih => exact .ask question _ (ih _ _)
  | note event next ih => exact .note event (ih memory)

/-- Every answer in a transcript was given by the surroundings. -/
theorem transcript_answered (handler : Handler I σ) (dialogue : Dialogue I α) (memory : σ) :
    ∀ exchange ∈ dialogue.transcript handler memory,
      ∃ remembered, exchange.reply = (handler exchange.query remembered).1 := by
  -- The transcript grows by one exchange a question, with the answer of that moment.
  induction dialogue generalizing memory with
  | done value => simp [transcript]
  | ask question next ih =>
    intro exchange member
    -- The exchange is the one of this moment or one of the rest of the run.
    rcases List.mem_cons.mp member with same | member
    · subst same
      exact ⟨memory, rfl⟩
    · exact ih _ _ exchange member
  | note event next ih => exact ih memory

/-- The second of two dialogues puts its questions from where the first one ends. -/
theorem transcript_bind (handler : Handler I σ) (dialogue : Dialogue I α)
    (next : α → Dialogue I β) (memory : σ) :
    (dialogue >>= next).transcript handler memory
      = dialogue.transcript handler memory
        ++ (next (dialogue.run handler memory).1).transcript handler
          (dialogue.run handler memory).2.2 := by
  -- Both transcripts list the questions of the first dialogue until its end is reached.
  induction dialogue generalizing memory with
  | done value => rfl
  | ask question branch ih => exact congrArg (List.cons _) (ih _ _)
  | note event branch ih => exact ih memory

@[simp] theorem course_done_iff {value reached : α} {exchanges : List (Exchange I)} :
    Course (.done value) exchanges reached ↔ exchanges = [] ∧ reached = value := by
  -- A tree that is only an end leaves a course no choice.
  constructor
  · intro course
    cases course
    exact ⟨rfl, rfl⟩
  · rintro ⟨rfl, rfl⟩
    exact .done _

@[simp] theorem course_pure_iff {value reached : α} {exchanges : List (Exchange I)} :
    Course (pure value) exchanges reached ↔ exchanges = [] ∧ reached = value :=
  course_done_iff

@[simp] theorem course_query_iff {question : I.Query} {exchanges : List (Exchange I)}
    {reply : I.Reply question} :
    Course (query question) exchanges reply ↔ exchanges = [⟨question, reply⟩] := by
  constructor
  -- After its one question the program is at an end.
  · intro course
    cases course with
    | ask _ _ course =>
      cases course
      rfl
  · rintro rfl
    exact .ask question reply (.done reply)

@[simp] theorem course_report_iff {event : Event} {exchanges : List (Exchange I)} {value : Unit} :
    Course (report event) exchanges value ↔ exchanges = [] := by
  constructor
  · intro course
    -- The report is passed over, and behind it there is nothing to ask.
    cases course with
    | note _ course =>
      cases course
      rfl
  · rintro rfl
    exact .note event (.done ())

/-- Going on from the result of a dialogue appends the exchanges of the rest. -/
theorem Course.bind {dialogue : Dialogue I α} {first : List (Exchange I)} {value : α}
    (course : Course dialogue first value) {next : α → Dialogue I β} {rest : List (Exchange I)}
    {result : β} (onward : Course (next value) rest result) :
    Course (dialogue >>= next) (first ++ rest) result := by
  -- The first course is gone through again, and the rest follows at its end.
  induction course with
  | done value => exact onward
  | ask question reply _ ih => exact .ask question reply (ih onward)
  | note event _ ih => exact .note event (ih onward)

/-- The course of two dialogues in a row falls into a course of each. -/
theorem course_bind_iff {dialogue : Dialogue I α} {next : α → Dialogue I β}
    {exchanges : List (Exchange I)} {result : β} :
    Course (dialogue >>= next) exchanges result ↔
      ∃ first value rest, Course dialogue first value ∧ Course (next value) rest result ∧
        exchanges = first ++ rest := by
  constructor
  · intro course
    -- The first dialogue's tree is walked until its end, where the second one begins.
    induction dialogue generalizing exchanges with
    | done value => exact ⟨[], value, exchanges, .done value, course, rfl⟩
    | ask question branch ih =>
      cases course with
      | ask _ reply course =>
        obtain ⟨first, value, rest, left, right, rfl⟩ := ih reply course
        exact ⟨_, value, rest, .ask question reply left, right, rfl⟩
    | note event branch ih =>
      cases course with
      | note _ course =>
        obtain ⟨first, value, rest, left, right, rfl⟩ := ih course
        exact ⟨first, value, rest, .note event left, right, rfl⟩
  -- A course of each is put together in the same order.
  · rintro ⟨first, value, rest, left, right, rfl⟩
    exact left.bind right

/-- A report in front of a dialogue is no exchange. -/
theorem course_report_bind_iff {event : Event} {next : Unit → Dialogue I α}
    {exchanges : List (Exchange I)} {value : α} :
    Course (report event >>= next) exchanges value ↔ Course (next ()) exchanges value := by
  constructor
  -- Only the report itself can be the first step of such a course.
  · intro course
    cases course with
    | note _ course => exact course
  · exact .note event

/-- Ending with a value after a report takes no exchange. -/
theorem course_report_bind_pure_iff {event : Event} {value reached : α}
    {exchanges : List (Exchange I)} :
    Course (report event >>= fun _ => pure value) exchanges reached ↔
      exchanges = [] ∧ reached = value :=
  course_report_bind_iff.trans course_pure_iff

end Dialogue

namespace Attempt

open Dialogue (Course)

variable {I : Interface} {α β : Type}

@[simp] theorem course_pure_iff {value : α} {exchanges : List (Exchange I)}
    {result : Except IpmiError α} :
    Course (pure value : Attempt I α).outcome exchanges result ↔
      exchanges = [] ∧ result = .ok value :=
  Dialogue.course_done_iff

@[simp] theorem course_lift_iff {value : Except IpmiError α} {exchanges : List (Exchange I)}
    {result : Except IpmiError α} :
    Course (lift value : Attempt I α).outcome exchanges result ↔
      exchanges = [] ∧ result = value :=
  Dialogue.course_done_iff

@[simp] theorem course_fail_iff {error : IpmiError} {exchanges : List (Exchange I)}
    {result : Except IpmiError α} :
    Course (fail error : Attempt I α).outcome exchanges result ↔
      exchanges = [] ∧ result = .error error :=
  Dialogue.course_done_iff

/-- A dialogue that never gives up ends with a value. -/
@[simp] theorem course_liftDialogue_iff {dialogue : Dialogue I α} {exchanges : List (Exchange I)}
    {result : Except IpmiError α} :
    Course (outcome (ExceptT.lift dialogue)) exchanges result ↔
      ∃ value, Course dialogue exchanges value ∧ result = .ok value := by
  change Course (dialogue >>= fun value => .done (.ok value)) exchanges result ↔ _
  -- What follows the dialogue only marks its value as one, without an exchange.
  rw [Dialogue.course_bind_iff]
  constructor
  · rintro ⟨first, value, rest, course, ended, rfl⟩
    obtain ⟨rfl, rfl⟩ := Dialogue.course_done_iff.mp ended
    exact ⟨value, by simpa using course, rfl⟩
  · rintro ⟨value, course, rfl⟩
    exact ⟨exchanges, value, [], course, .done _, by simp⟩

@[simp] theorem course_report_iff {event : Event} {exchanges : List (Exchange I)}
    {result : Except IpmiError Unit} :
    Course (report event : Attempt I Unit).outcome exchanges result ↔
      exchanges = [] ∧ result = .ok () := by
  -- A report is a dialogue that never gives up, with nothing to exchange.
  rw [report, course_liftDialogue_iff]
  constructor
  · rintro ⟨_, course, same⟩
    exact ⟨Dialogue.course_report_iff.mp course, same⟩
  · rintro ⟨rfl, rfl⟩
    exact ⟨(), Dialogue.course_report_iff.mpr rfl, rfl⟩

/-- An attempt in two steps gives up in the first step or goes on from its value. -/
theorem course_bind_iff {attempt : Attempt I α} {next : α → Attempt I β}
    {exchanges : List (Exchange I)} {result : Except IpmiError β} :
    Course (attempt >>= next).outcome exchanges result ↔
      (∃ error, Course attempt.outcome exchanges (.error error) ∧ result = .error error) ∨
      ∃ first value rest, Course attempt.outcome first (.ok value) ∧
        Course (next value).outcome rest result ∧ exchanges = first ++ rest := by
  change Course (attempt.outcome >>= ExceptT.bindCont next) exchanges result ↔ _
  -- An attempt goes on as a dialogue does from the value or the error that it has come to.
  rw [Dialogue.course_bind_iff]
  constructor
  · rintro ⟨first, reached, rest, course, onward, rfl⟩
    -- A value leads on to the second step, and an error ends the attempt.
    cases reached with
    | ok value => exact .inr ⟨first, value, rest, course, onward, rfl⟩
    | error error =>
      obtain ⟨rfl, rfl⟩ := Dialogue.course_done_iff.mp onward
      exact .inl ⟨error, by simpa using course, rfl⟩
  -- Both ways are courses of the dialogue behind the attempt, the first one with nothing left to
  -- do.
  · rintro (⟨error, course, rfl⟩ | ⟨first, value, rest, course, onward, rfl⟩)
    · exact ⟨exchanges, .error error, [], course, .done _, by simp⟩
    · exact ⟨first, .ok value, rest, course, onward, rfl⟩

/-- An attempt in two steps that ends with a value went through both. -/
theorem course_bind_ok_iff {attempt : Attempt I α} {next : α → Attempt I β}
    {exchanges : List (Exchange I)} {result : β} :
    Course (attempt >>= next).outcome exchanges (.ok result) ↔
      ∃ first value rest, Course attempt.outcome first (.ok value) ∧
        Course (next value).outcome rest (.ok result) ∧ exchanges = first ++ rest := by
  -- With a value at the end, the way that ends with an error is ruled out.
  rw [course_bind_iff]
  constructor
  · rintro (⟨error, _, same⟩ | both)
    · cases same
    · exact both
  · exact .inr

/-- Attempts one after another end with the first error, or with the values of all of them. -/
theorem course_mapM_cons_iff {γ : Type} {program : γ → Attempt I α} {item : γ} {rest : List γ}
    {exchanges : List (Exchange I)} {result : Except IpmiError (List α)} :
    Course (outcome ((item :: rest).mapM program)) exchanges result ↔
      (∃ error, Course (program item).outcome exchanges (.error error) ∧ result = .error error) ∨
      ∃ first value others remaining, Course (program item).outcome first (.ok value) ∧
        Course (outcome (rest.mapM program)) others remaining ∧ exchanges = first ++ others ∧
        result = remaining.map (value :: ·) := by
  -- The first attempt decides whether the others are made at all.
  rw [List.mapM_cons, course_bind_iff]
  refine or_congr Iff.rfl ⟨?_, ?_⟩
  · rintro ⟨first, value, others, course, onward, rfl⟩
    -- Putting the first value in front of the others takes no further exchange.
    rcases course_bind_iff.mp onward with ⟨error, failed, rfl⟩ | ⟨second, values, last, asked, ended,
      rfl⟩
    · exact ⟨first, value, others, .error error, course, failed, rfl, rfl⟩
    · obtain ⟨rfl, rfl⟩ := course_pure_iff.mp ended
      exact ⟨first, value, second, .ok values, course, asked, by simp, rfl⟩
  · rintro ⟨first, value, others, remaining, course, asked, rfl, rfl⟩
    refine ⟨first, value, others, course, course_bind_iff.mpr ?_, rfl⟩
    -- What the others come to decides whether there is a list to put the first value in front of.
    cases remaining with
    | error error => exact .inl ⟨error, asked, rfl⟩
    | ok values => exact .inr ⟨others, values, [], asked, course_pure_iff.mpr ⟨rfl, rfl⟩, by simp⟩

/-- Attempts one after another that end with values went through all of them. -/
theorem course_mapM_cons_ok_iff {γ : Type} {program : γ → Attempt I α} {item : γ} {rest : List γ}
    {exchanges : List (Exchange I)} {values : List α} :
    Course (outcome ((item :: rest).mapM program)) exchanges (.ok values) ↔
      ∃ first value others remaining, Course (program item).outcome first (.ok value) ∧
        Course (outcome (rest.mapM program)) others (.ok remaining) ∧
        exchanges = first ++ others ∧ values = value :: remaining := by
  -- The values of the others are there as well, since an error among them would be the end.
  rw [course_mapM_cons_iff]
  constructor
  · rintro (⟨error, _, same⟩ | ⟨first, value, others, remaining, course, asked, rfl, same⟩)
    · cases same
    · cases remaining with
      | error error => cases same
      | ok remaining => exact ⟨first, value, others, remaining, course, asked, rfl, by cases same; rfl⟩
  · rintro ⟨first, value, others, remaining, course, asked, rfl, rfl⟩
    exact .inr ⟨first, value, others, .ok remaining, course, asked, rfl, rfl⟩

/-- An attempt goes on from the end of a dialogue that never gives up. -/
theorem course_liftDialogue_bind_iff {dialogue : Dialogue I α} {next : α → Attempt I β}
    {exchanges : List (Exchange I)} {result : Except IpmiError β} :
    Course (outcome (ExceptT.lift dialogue >>= next)) exchanges result ↔
      ∃ first value rest, Course dialogue first value ∧
        Course (next value).outcome rest result ∧ exchanges = first ++ rest := by
  -- The dialogue is an attempt that always has a value.
  rw [course_bind_iff]
  constructor
  · rintro (⟨error, course, _⟩ | ⟨first, value, rest, course, onward, rfl⟩)
    · -- The dialogue has no error to end with.
      obtain ⟨_, _, same⟩ := course_liftDialogue_iff.mp course
      cases same
    · obtain ⟨_, course, same⟩ := course_liftDialogue_iff.mp course
      obtain rfl := Except.ok.inj same
      exact ⟨first, value, rest, course, onward, rfl⟩
  · rintro ⟨first, value, rest, course, onward, rfl⟩
    exact .inr ⟨first, value, rest, course_liftDialogue_iff.mpr ⟨value, course, rfl⟩, onward, rfl⟩

/-- An event before an attempt is no exchange. -/
theorem course_report_bind_iff {event : Event} {next : Unit → Attempt I α}
    {exchanges : List (Exchange I)} {result : Except IpmiError α} :
    Course (report event >>= next).outcome exchanges result ↔
      Course (next ()).outcome exchanges result := by
  -- The report is a dialogue of its own, which takes no exchange.
  rw [report, course_liftDialogue_bind_iff]
  constructor
  · rintro ⟨first, _, rest, noted, onward, rfl⟩
    obtain rfl := Dialogue.course_report_iff.mp noted
    exact onward
  · intro onward
    exact ⟨[], (), exchanges, Dialogue.course_report_iff.mpr rfl, onward, rfl⟩

/-- Ending with a value after an event takes no exchange. -/
theorem course_report_bind_pure_iff {event : Event} {value : α} {exchanges : List (Exchange I)}
    {result : Except IpmiError α} :
    Course (report event >>= fun _ => pure value : Attempt I α).outcome exchanges result ↔
      exchanges = [] ∧ result = .ok value :=
  course_report_bind_iff.trans course_pure_iff

end Attempt

end BmcTelemetry
