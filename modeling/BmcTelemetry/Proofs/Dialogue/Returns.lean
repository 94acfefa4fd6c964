import BmcTelemetry.Proofs.Dialogue.Course

/-! Fair surroundings: what a dialogue must end with when every exchange keeps to some rule. -/

namespace BmcTelemetry

variable {I J : Interface} {α β : Type}

/-- What is fair as a whole is fair in each of its parts. -/
def Splits (Fair : List (Exchange I) → Prop) : Prop :=
  ∀ first rest, Fair (first ++ rest) → Fair first ∧ Fair rest

/-- A rule for each exchange on its own splits. -/
theorem splits_forall (rule : Exchange I → Prop) :
    Splits fun exchanges => ∀ exchange ∈ exchanges, rule exchange := by
  -- Each part of a list holds some of its exchanges.
  intro first rest fair
  exact ⟨fun exchange member => fair exchange (List.mem_append_left _ member),
    fun exchange member => fair exchange (List.mem_append_right _ member)⟩

namespace Dialogue

/-- In fair surroundings a dialogue ends with this value and no other. -/
def Returns (Fair : List (Exchange I) → Prop) (dialogue : Dialogue I α) (value : α) : Prop :=
  ∀ exchanges result, Fair exchanges → Course dialogue exchanges result → result = value

/-- Every run in fair surroundings ends with the value. -/
theorem Returns.run {Fair : List (Exchange I) → Prop} {dialogue : Dialogue I α} {value : α}
    (returns : dialogue.Returns Fair value) {σ : Type} {handler : Handler I σ} {memory : σ}
    (fair : Fair (dialogue.transcript handler memory)) :
    (dialogue.run handler memory).1 = value :=
  returns _ _ fair (course_run handler dialogue memory)

variable {Fair : List (Exchange I) → Prop}

/-- A dialogue at its end returns its value. -/
theorem returns_pure (value : α) : (pure value : Dialogue I α).Returns Fair value := by
  -- An end takes no exchange and leaves no choice of value.
  intro exchanges result _ course
  exact (course_pure_iff.mp course).2

/-- What a dialogue does after another one returned. -/
theorem Returns.bind (splits : Splits Fair) {dialogue : Dialogue I α} {value : α}
    (first : dialogue.Returns Fair value) {next : α → Dialogue I β} {result : β}
    (second : (next value).Returns Fair result) : (dialogue >>= next).Returns Fair result := by
  intro exchanges ended fair course
  -- The first dialogue has one value to end with, and the second goes on from there.
  obtain ⟨front, reached, back, asked, onward, rfl⟩ := course_bind_iff.mp course
  obtain ⟨frontFair, backFair⟩ := splits _ _ fair
  obtain rfl := first _ _ frontFair asked
  exact second _ _ backFair onward

/-- A report before a dialogue changes nothing. -/
theorem returns_report_bind (event : Event) {next : Unit → Dialogue I α} {value : α}
    (returns : (next ()).Returns Fair value) :
    (report event >>= next).Returns Fair value := by
  -- The report is passed over without an exchange, so that all of them belong to the rest.
  intro exchanges result fair course
  obtain ⟨front, _, back, noted, onward, rfl⟩ := course_bind_iff.mp course
  obtain rfl := course_report_iff.mp noted
  exact returns _ _ fair onward

/-- After a question a dialogue returns what it does after each answer that the rule allows. -/
theorem returns_query_bind {rule : Exchange I → Prop} {question : I.Query}
    {next : I.Reply question → Dialogue I α} {value : α}
    (each : ∀ reply, rule ⟨question, reply⟩ →
      (next reply).Returns (fun exchanges => ∀ exchange ∈ exchanges, rule exchange) value) :
    (query question >>= next).Returns
      (fun exchanges => ∀ exchange ∈ exchanges, rule exchange) value := by
  -- The answer is one that the rule allows, and the rest keeps to the rule as well.
  intro exchanges result fair course
  obtain ⟨front, reply, back, asked, onward, rfl⟩ := course_bind_iff.mp course
  obtain rfl := course_query_iff.mp asked
  obtain ⟨questioned, further⟩ := List.forall_mem_append.mp fair
  exact each reply (questioned _ (List.mem_singleton_self _)) back result further onward

/-- Dialogues one after another return what each of them does. -/
theorem returns_mapM (splits : Splits Fair) {γ : Type} {program : γ → Dialogue I α}
    {ended : γ → α} (items : List γ)
    (each : ∀ item ∈ items, (program item).Returns Fair (ended item)) :
    (items.mapM program).Returns Fair (items.map ended) := by
  -- Each dialogue is followed by those of the rest, and then by the list of all values.
  induction items with
  | nil => exact returns_pure []
  | cons item rest ih =>
    rw [List.mapM_cons, List.map_cons]
    refine (each item (by simp)).bind splits ?_
    refine (ih fun other member => each other (List.mem_cons_of_mem _ member)).bind splits ?_
    exact returns_pure _

end Dialogue

namespace Attempt

variable {Fair : List (Exchange I) → Prop}

/-- In fair surroundings an attempt ends with this value, and does not give up. -/
def Succeeds (Fair : List (Exchange I) → Prop) (attempt : Attempt I α) (value : α) : Prop :=
  attempt.outcome.Returns Fair (.ok value)

/-- An attempt at its end succeeds. -/
theorem succeeds_pure (value : α) : (pure value : Attempt I α).Succeeds Fair value :=
  Dialogue.returns_pure _

/-- What an attempt does after another one succeeded. -/
theorem Succeeds.bind (splits : Splits Fair) {attempt : Attempt I α} {value : α}
    (first : attempt.Succeeds Fair value) {next : α → Attempt I β} {result : β}
    (second : (next value).Succeeds Fair result) : (attempt >>= next).Succeeds Fair result := by
  intro exchanges ended fair course
  -- The first attempt has no error to end with, so the second one is reached.
  rcases course_bind_iff.mp course with ⟨error, failed, _⟩ | ⟨front, reached, back, asked, onward,
    rfl⟩
  · cases first _ _ fair failed
  · obtain ⟨frontFair, backFair⟩ := splits _ _ fair
    obtain rfl := Except.ok.inj (first _ _ frontFair asked)
    exact second _ _ backFair onward

/-- What follows an attempt that gives up is never reached. -/
theorem returns_error_bind (splits : Splits Fair) {attempt : Attempt I α} {error : IpmiError}
    (gives_up : attempt.outcome.Returns Fair (.error error)) (next : α → Attempt I β) :
    (attempt >>= next).outcome.Returns Fair (.error error) := by
  intro exchanges result fair course
  -- The first attempt ends with its error, and has no value for the second to start from.
  rcases course_bind_iff.mp course with ⟨other, failed, rfl⟩ | ⟨front, value, back, asked, _, rfl⟩
  · cases gives_up _ _ fair failed
    rfl
  · cases gives_up _ _ (splits _ _ fair).1 asked

/-- An attempt ends after a report as it does without. -/
theorem returns_report_bind (event : Event) {next : Unit → Attempt I α}
    {ended : Except IpmiError α} (returns : (next ()).outcome.Returns Fair ended) :
    (report event >>= next).outcome.Returns Fair ended :=
  fun exchanges result fair course =>
    returns exchanges result fair (course_report_bind_iff.mp course)

/-- An attempt succeeds after a question when it does so after each answer that the rule allows. -/
theorem succeeds_query_bind {rule : Exchange I → Prop} {question : I.Query}
    {next : I.Reply question → Attempt I α} {value : α}
    (each : ∀ reply, rule ⟨question, reply⟩ →
      (next reply).Succeeds (fun exchanges => ∀ exchange ∈ exchanges, rule exchange) value) :
    Succeeds (fun exchanges => ∀ exchange ∈ exchanges, rule exchange)
      (ExceptT.lift (Dialogue.query question) >>= next) value := by
  intro exchanges result fair course
  obtain ⟨front, reply, back, asked, onward, rfl⟩ := course_liftDialogue_bind_iff.mp course
  -- The question is an exchange like any other, so the rule holds of its answer.
  obtain rfl := Dialogue.course_query_iff.mp asked
  obtain ⟨questioned, further⟩ := List.forall_mem_append.mp fair
  exact each reply (questioned _ (List.mem_singleton_self _)) back result further onward

/-- Attempts one after another succeed where each of them does. -/
theorem succeeds_mapM (splits : Splits Fair) {γ : Type} {program : γ → Attempt I α}
    {ended : γ → α} (items : List γ)
    (each : ∀ item ∈ items, (program item).Succeeds Fair (ended item)) :
    Succeeds Fair (items.mapM program) (items.map ended) := by
  -- Each attempt is followed by those of the rest, and then by the list of all values.
  induction items with
  | nil => exact succeeds_pure []
  | cons item rest ih =>
    rw [List.mapM_cons, List.map_cons]
    refine (each item (by simp)).bind splits ?_
    exact (ih fun other member => each other (List.mem_cons_of_mem _ member)).bind splits
      (succeeds_pure _)

end Attempt

end BmcTelemetry
