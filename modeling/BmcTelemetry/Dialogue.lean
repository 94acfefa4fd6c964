import BmcTelemetry.Event

/-! Dialogues: programs that put questions to their surroundings and report events on the way. -/

namespace BmcTelemetry

/-- What may be asked of some surroundings, and what kind of answer each question gets. -/
structure Interface where
  /-- The questions. -/
  Query : Type
  /-- The answers to a question. -/
  Reply : Query → Type

/-- A finite program over an interface, its behaviour laid open as a tree. -/
inductive Dialogue (I : Interface) (α : Type) where
  /-- The end, with a result. -/
  | done (value : α)
  /-- A question, and how to go on from each answer. -/
  | ask (query : I.Query) (next : I.Reply query → Dialogue I α)
  /-- An event, and how to go on. -/
  | note (event : Event) (next : Dialogue I α)

namespace Dialogue

variable {I J : Interface} {α β γ σ : Type}

/-- Goes on with another program from the result of the first. -/
def bind : Dialogue I α → (α → Dialogue I β) → Dialogue I β
  | .done value, next => next value
  | .ask query rest, next => .ask query fun reply => (rest reply).bind next
  | .note event rest, next => .note event (rest.bind next)

instance : Monad (Dialogue I) where
  pure := .done
  bind := bind

/-- Going on with the bare result changes nothing. -/
theorem bind_done (dialogue : Dialogue I α) : dialogue.bind .done = dialogue := by
  -- The tree is rebuilt from its ends, which are left as they are.
  induction dialogue with
  | done value => rfl
  | ask query rest ih => simp only [bind, ih]
  | note event rest ih => simp only [bind, ih]

/-- Going on twice is going on once with both steps. -/
theorem bind_assoc (dialogue : Dialogue I α) (first : α → Dialogue I β)
    (second : β → Dialogue I γ) :
    (dialogue.bind first).bind second = dialogue.bind fun value => (first value).bind second := by
  -- The steps are hung in at the ends of the tree, in whichever order that is done.
  induction dialogue with
  | done value => rfl
  | ask query rest ih => simp only [bind, ih]
  | note event rest ih => simp only [bind, ih]

instance : LawfulMonad (Dialogue I) :=
  LawfulMonad.mk' (Dialogue I)
    (fun dialogue => bind_done dialogue)
    (fun _ _ => rfl)
    (fun dialogue first second => bind_assoc dialogue first second)

/-- The program that asks one question and ends with its answer. -/
def query (question : I.Query) : Dialogue I (I.Reply question) :=
  .ask question .done

/-- The program that reports one event. -/
def report (event : Event) : Dialogue I Unit :=
  .note event (.done ())

/-- The same program with every question answered by a program over another interface. -/
def translate (answer : (question : I.Query) → Dialogue J (I.Reply question)) :
    Dialogue I α → Dialogue J α
  | .done value => .done value
  | .ask question next => (answer question).bind fun reply => (next reply).translate answer
  | .note event next => .note event (next.translate answer)

/-- Surroundings that answer each question from what they remember, and remember anew. -/
abbrev Handler (I : Interface) (σ : Type) :=
  (question : I.Query) → σ → I.Reply question × σ

/-- Runs a program: its result, the events in order, and what the surroundings remember. -/
def run (handler : Handler I σ) : Dialogue I α → σ → α × List Event × σ
  | .done value, memory => (value, [], memory)
  | .ask question next, memory =>
    let (reply, memory) := handler question memory
    (next reply).run handler memory
  | .note event next, memory =>
    let (value, events, memory) := next.run handler memory
    (value, event :: events, memory)

end Dialogue

/-- A program over an interface that may give up with an error. -/
abbrev Attempt (I : Interface) (α : Type) := ExceptT IpmiError (Dialogue I) α

namespace Attempt

variable {I : Interface} {α : Type}

/-- Runs the program to its result or its error. -/
def outcome (attempt : Attempt I α) : Dialogue I (Except IpmiError α) :=
  ExceptT.run attempt

/-- A program whose result may be an error, as one that gives up. -/
def of (dialogue : Dialogue I (Except IpmiError α)) : Attempt I α :=
  ExceptT.mk dialogue

/-- Goes on with a value that is already known, or gives up with its error. -/
def lift (value : Except IpmiError α) : Attempt I α :=
  ExceptT.mk (.done value)

/-- Gives up. -/
def fail (error : IpmiError) : Attempt I α :=
  ExceptT.mk (.done (.error error))

/-- Reports an event and goes on. -/
def report (event : Event) : Attempt I Unit :=
  ExceptT.lift (Dialogue.report event)

end Attempt

end BmcTelemetry
