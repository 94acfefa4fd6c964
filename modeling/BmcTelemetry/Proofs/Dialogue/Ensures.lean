import BmcTelemetry.Dialogue.Turns
import BmcTelemetry.Proofs.Dialogue.Course

/-!
What a dialogue ensures: a property of its result, whatever the surroundings answer.

The rules go along the constructs of dialogues, so a program is gone through once.
-/

namespace BmcTelemetry.Dialogue

variable {I J : Interface} {α β γ σ : Type}

/-- Whatever the answers, a dialogue ends with a value that has a property. -/
def Ensures (dialogue : Dialogue I α) (Holds : α → Prop) : Prop :=
  match dialogue with
  | .done value => Holds value
  | .ask _ next => ∀ reply, (next reply).Ensures Holds
  | .note _ next => next.Ensures Holds

section Rules

variable {Holds : α → Prop}

/-- What a dialogue ensures holds at the end of each of its runs. -/
theorem Ensures.run {dialogue : Dialogue I α} (ensures : dialogue.Ensures Holds)
    (handler : Handler I σ) (memory : σ) : Holds (dialogue.run handler memory).1 := by
  -- The run takes one of the branches at each question.
  induction dialogue generalizing memory with
  | done value => exact ensures
  | ask question next ih => exact ih _ (ensures _) _
  | note event next ih => exact ih ensures memory

/-- A dialogue ensures exactly what holds at the end of each of its courses. -/
theorem ensures_iff_course {dialogue : Dialogue I α} :
    dialogue.Ensures Holds ↔ ∀ exchanges value, Course dialogue exchanges value → Holds value := by
  -- A course is a way down the tree, and every way down is a course.
  constructor
  · intro ensures exchanges value course
    induction course with
    | done value => exact ensures
    | ask question reply _ ih => exact ih (ensures reply)
    | note event _ ih => exact ih ensures
  · intro courses
    induction dialogue with
    | done value => exact courses [] value (.done value)
    | ask question next ih =>
      exact fun reply => ih reply fun _ value course => courses _ value (.ask question reply course)
    | note event next ih => exact ih fun _ value course => courses _ value (.note event course)

theorem ensures_pure {value : α} (holds : Holds value) :
    (pure value : Dialogue I α).Ensures Holds := holds

/-- A dialogue ensures what follows from what it ensures. -/
theorem Ensures.imp {dialogue : Dialogue I α} (ensures : dialogue.Ensures Holds)
    {Weaker : α → Prop} (follows : ∀ value, Holds value → Weaker value) :
    dialogue.Ensures Weaker := by
  -- Only the ends of the tree say anything, and each of them says enough.
  induction dialogue with
  | done value => exact follows value ensures
  | ask question next ih => exact fun reply => ih reply (ensures reply)
  | note event next ih => exact ih ensures

/-- Any dialogue ends with some value. -/
theorem ensures_trivial (dialogue : Dialogue I α) : dialogue.Ensures fun _ => True := by
  -- Nothing is asked of the ends, so that the tree is gone down to them for its shape alone.
  induction dialogue with
  | done value => trivial
  | ask question next ih => exact ih
  | note event next ih => exact ih

/-- What is ensured of a dialogue may be used by what goes on from its result. -/
theorem Ensures.bind {dialogue : Dialogue I α} (ensures : dialogue.Ensures Holds)
    {next : α → Dialogue I β} {Finally : β → Prop}
    (onward : ∀ value, Holds value → (next value).Ensures Finally) :
    (dialogue >>= next).Ensures Finally := by
  -- The first dialogue's tree is gone down to its ends, where the second one begins.
  induction dialogue with
  | done value => exact onward value ensures
  | ask question branch ih => exact fun reply => ih reply (ensures reply)
  | note event branch ih => exact ih ensures

/-- What goes on from any result ensures what it does from each. -/
theorem ensures_bind (dialogue : Dialogue I α) {next : α → Dialogue I β} {Finally : β → Prop}
    (onward : ∀ value, (next value).Ensures Finally) : (dialogue >>= next).Ensures Finally :=
  (ensures_trivial dialogue).bind fun value _ => onward value

/-- A program over other surroundings that answers each question ensures the same. -/
theorem Ensures.translate {dialogue : Dialogue J α} (ensures : dialogue.Ensures Holds)
    (program : (question : J.Query) → Dialogue I (J.Reply question)) :
    (dialogue.translate program).Ensures Holds := by
  -- Whatever the program answers to a question, the dialogue goes on along one of its branches.
  induction dialogue with
  | done value => exact ensures
  | ask question next ih => exact ensures_bind (program question) fun reply => ih reply (ensures reply)
  | note event next ih => exact ih ensures

/-- What is announced in front of a dialogue changes nothing about what it ensures. -/
theorem ensures_announce (events : List Event) {dialogue : Dialogue I α}
    (ensures : dialogue.Ensures Holds) : (announce events dialogue).Ensures Holds := by
  -- Each event in front is passed over on the way to the dialogue.
  induction events with
  | nil => exact ensures
  | cons event rest ih => exact ih

/-- Steps over a list ensure what each of them keeps. -/
theorem ensures_foldlM {step : α → γ → Dialogue I α} {items : List γ}
    (kept : ∀ value, ∀ item ∈ items, Holds value → (step value item).Ensures Holds) {start : α}
    (holds : Holds start) : (items.foldlM step start).Ensures Holds := by
  -- What holds before a step holds after it, so it holds after the last one.
  induction items generalizing start with
  | nil => exact holds
  | cons item rest ih =>
    -- The first step starts from what holds, and the rest from what it keeps.
    rw [List.foldlM_cons]
    refine (kept start item List.mem_cons_self holds).bind fun _ held => ?_
    exact ih (fun value other member => kept value other (List.mem_cons_of_mem _ member)) held

end Rules

section Gathering

variable {speakers waiting served : List (String × Dialogue I α)} {found : Std.TreeMap String α}

/-- What dialogues end with, one after another, is found under their names and no others. -/
theorem ensures_gathered :
    Ensures
      (speakers.foldlM (fun found (name, dialogue) => return found.insert name (← dialogue)) found)
      fun gathered => ∀ name, name ∈ gathered ↔ name ∈ found ∨ name ∈ speakers.map Prod.fst := by
  -- Each dialogue puts what it ends with under its own name, and leaves the others in place.
  induction speakers generalizing found with
  | nil => exact fun name => by simp
  | cons speaker rest ih =>
    obtain ⟨speaking, dialogue⟩ := speaker
    simp only [List.foldlM_cons, LawfulMonad.bind_assoc, pure_bind]
    refine ensures_bind dialogue fun value => ih.imp fun gathered names name => ?_
    rw [names, Std.TreeMap.mem_insert, List.map_cons, List.mem_cons]
    grind

/-- Of dialogues held one after another, each spends a part of its own, and the last one counts. -/
theorem course_gathered {program : String → Dialogue I α} {names : List String}
    {gathered : Std.TreeMap String α} {exchanges : List (Exchange I)}
    (course : Course ((names.map fun name => (name, program name)).foldlM
      (fun found (name, dialogue) => return found.insert name (← dialogue)) found)
      exchanges gathered) :
    (∀ name ∈ names, ∃ spent value, spent <:+: exchanges ∧ Course (program name) spent value ∧
      gathered[name]? = some value) ∧
    ∀ name, name ∉ names → gathered[name]? = found[name]? := by
  -- What the first dialogue ends with stays until another one under the same name ends.
  induction names generalizing found exchanges with
  | nil =>
    -- Without names, nothing is held, and what was found stays.
    obtain ⟨rfl, rfl⟩ := course_pure_iff.mp course
    exact ⟨fun name listed => (List.not_mem_nil listed).elim, fun _ _ => rfl⟩
  | cons first rest ih =>
    simp only [List.map_cons, List.foldlM_cons, LawfulMonad.bind_assoc, pure_bind] at course
    obtain ⟨spent, value, later, held, onward, rfl⟩ := course_bind_iff.mp course
    obtain ⟨listed, others⟩ := ih onward
    constructor
    -- A name that comes again is decided by the later dialogue, and otherwise by this one.
    · intro name member
      by_cases again : name ∈ rest
      · obtain ⟨own, last, within, course, known⟩ := listed name again
        exact ⟨own, last, within.trans (List.suffix_append spent later).isInfix, course, known⟩
      · obtain rfl := (List.mem_cons.mp member).resolve_right again
        refine ⟨spent, value, (List.prefix_append spent later).isInfix, held, ?_⟩
        rw [others name again, Std.TreeMap.getElem?_insert_self]
    -- A name that is not listed is never entered.
    · intro name absent
      rw [List.mem_cons, not_or] at absent
      rw [others name absent.2, Std.TreeMap.getElem?_insert, if_neg]
      simpa using Ne.symm absent.1

/-- What dialogues end with that take turns is found under their names and no others. -/
theorem ensures_takeTurns :
    (takeTurns waiting served found).Ensures fun gathered =>
      ∀ name, name ∈ gathered ↔ name ∈ found ∨ name ∈ (served ++ waiting).map Prod.fst := by
  -- A speaker stays at the table until what it ends with is found.
  induction waiting, served, found using takeTurns.induct with
  -- Nobody is at the table, so that the names are those that were found.
  | case1 found =>
    rw [takeTurns]
    exact fun name => by simp
  | case2 found first others ih =>
    rw [takeTurns]
    simpa using ih
  | case3 found speaking result rest served ih =>
    rw [takeTurns]
    -- Whoever rises takes the own name from the table and puts it among those found.
    refine ih.imp fun gathered names name => ?_
    rw [names, Std.TreeMap.mem_insert]
    simp only [List.map_append, List.map_cons, List.mem_append, List.mem_cons]
    grind
  | case4 found speaking event dialogue rest served ih =>
    -- A remark and a question leave everybody at the table.
    rw [takeTurns]
    exact ih.imp fun gathered names name => by simpa using names name
  | case5 found speaking question next rest served ih =>
    -- Whatever the answer, the speaker waits again, and only events come in between.
    rw [takeTurns]
    exact fun reply => ensures_announce _ <|
      (ih reply).imp fun gathered names name => by simpa using names name

end Gathering

end BmcTelemetry.Dialogue
