import BmcTelemetry.Proofs.Tool.Session
import BmcTelemetry.Transport.Basic
import Mathlib.Data.List.Forall2

/-!
Requests to the tool: which run it takes to ask for something, and what is made of how it ended.

Several requests take one run each, in order, and each answer depends on its own run alone.
-/

namespace BmcTelemetry

open Dialogue (Course)
open Driver (Address)

/-- What is made of how a run of the tool ended: the bytes of an answer, or a failure. -/
def Completion.reading : Completion → Except IpmiError Bytes
  | .notStarted error => if error = .notFound then .ok [] else .error (.io error)
  | .ended false _ _ => .ok []
  | .ended true output _ => .ok (Tool.parseOutput (Utf8.decodeLossy output))

/-- The answer in how a run ended. -/
def Completion.answer (completion : Completion) : Except IpmiError Response :=
  completion.reading.map .answered

namespace Tool

/-- Whether an answer shows that a request is supported; a failure does not. -/
def shownBy : Except IpmiError Response → Bool
  | .ok response => Transport.showsSupport response.data
  | .error _ => false

/-- Whether a run of the tool shows that its request is supported. -/
def shows (run : Exchange processes) : Bool :=
  shownBy (Completion.answer run.reply)

/-- Where the tool sends a request: to a bridging target if there is one, or to the controller. -/
def destination (tool : Tool) (bridged : Bool) (request : Request) : Address :=
  match if bridged then tool.bridgeFor request else none with
  | some bridge => .bus bridge.channel bridge.slave
  | none => .controller

/-- What the tool is told for a request, within a session. -/
def invocation (tool : Tool) (session : List String) (bridged : Bool) (request : Request) :
    Invocation :=
  { program := tool.program, arguments := session ++ tool.rawArguments bridged request }

/-- Whether the program and a session can be passed on at all. -/
def passes (tool : Tool) (session : List String) : Bool :=
  (tool.program :: session).all fun text => !Text.holdsZero text

variable {tool : Tool} {session : List String} {bridged : Bool} {request : Request}
  {requests : List Request}

/-- The tool is told where a request goes and what its bytes are. -/
theorem rawArguments_destination :
    tool.rawArguments bridged request
      = targetArguments (tool.destination bridged request)
        ++ "raw" :: request.data.map Hex.markedByte := by
  -- The destination is what the bridge comes to, if there is one to use.
  rw [rawArguments, destination]
  -- Without a target nothing stands in front of the bytes.
  cases (if bridged then tool.bridgeFor request else none) <;> rfl

/-- Requests have the same arguments exactly when their bytes and where they go are the same. -/
theorem rawArguments_eq_iff {other : Request} {otherBridged : Bool} :
    tool.rawArguments bridged request = tool.rawArguments otherBridged other ↔
      tool.destination bridged request = tool.destination otherBridged other ∧
        request.data = other.data := by
  rw [rawArguments_destination, rawArguments_destination]
  constructor
  · intro same
    -- What the tool is told can be read back from its arguments.
    have told_same := congrArg told same
    rw [told_arguments, told_arguments] at told_same
    exact Prod.mk.inj (Option.some.inj told_same)
  · rintro ⟨target, data⟩
    rw [target, data]

/-- Only the program and the session can keep a request from being passed on. -/
theorem isPassable_invocation (tool : Tool) (session : List String) (bridged : Bool)
    (request : Request) :
    (tool.invocation session bridged request).isPassable = tool.passes session := by
  -- The bytes and the target are written without zero characters.
  rw [invocation, rawArguments_destination]
  exact isPassable_message tool.program session _ request.data

/-- Reading an answer is no exchange. -/
theorem course_answer {completion : Completion} {exchanges : List (Exchange processes)}
    {result : Except IpmiError Bytes}
    (course : Course (tool.answer completion).outcome exchanges result) :
    exchanges = [] ∧ result = completion.reading := by
  -- What stands for no answer is reported, and nobody is asked about it.
  match completion with
  | .notStarted error =>
    rw [answer] at course
    rw [Completion.reading]
    -- A tool that is missing counts as an empty answer, and any other failure as itself.
    split at course
    next missing =>
      rw [if_pos missing]
      exact Attempt.course_report_bind_pure_iff.mp course
    next other =>
      rw [if_neg other]
      exact Attempt.course_fail_iff.mp course
  | .ended false _ _ => exact Attempt.course_report_bind_pure_iff.mp course
  | .ended true _ _ => exact Attempt.course_pure_iff.mp course

/-- A request takes one run of the tool, unless nothing can be passed on to it. -/
theorem course_run {exchanges : List (Exchange processes)} {result : Except IpmiError Response}
    (course : Course (tool.run (session ++ tool.rawArguments bridged request)).outcome
      exchanges result) :
    if tool.passes session then ∃ completion : Completion,
      exchanges = [⟨tool.invocation session bridged request, completion⟩] ∧
        result = completion.answer
    else exchanges = [] ∧ result = .error (.io .zeroInArgument) := by
  -- A run was started or refused, and something is made of how it ended.
  obtain ⟨first, completion, rest, started, onward, rfl⟩ :=
    Attempt.course_liftDialogue_bind_iff.mp (Attempt.course_report_bind_iff.mp course)
  -- What is made of the end of the run takes no exchange.
  have read : rest = [] ∧ result = completion.answer := by
    rw [Completion.answer]
    -- Reading the end may fail, and otherwise the bytes make the answer.
    rcases Attempt.course_bind_iff.mp onward with ⟨error, answered, rfl⟩ |
      ⟨_, bytes, _, answered, ended, rfl⟩
    · obtain ⟨rfl, failed⟩ := course_answer answered
      rw [← failed]
      exact ⟨rfl, rfl⟩
    · obtain ⟨rfl, same⟩ := course_answer answered
      obtain ⟨rfl, rfl⟩ := Attempt.course_pure_iff.mp ended
      rw [← same]
      exact ⟨rfl, rfl⟩
  obtain ⟨rfl, rfl⟩ := read
  rw [List.append_nil]
  have passable := isPassable_invocation tool session bridged request
  cases passes : tool.passes session with
  -- Nothing keeps the run from being started, so it is the one exchange.
  | true =>
    have begun : tool.start (session ++ tool.rawArguments bridged request)
        = Dialogue.query (I := processes) (tool.invocation session bridged request) :=
      if_pos (passable.trans passes)
    rw [begun] at started
    exact ⟨completion, Dialogue.course_query_iff.mp started, rfl⟩
  | false =>
    -- The run that is refused counts as one that could not be started.
    have refused : tool.start (session ++ tool.rawArguments bridged request)
        = (return .notStarted .zeroInArgument) :=
      if_neg (by rw [← invocation, passable, passes]; decide)
    rw [refused] at started
    obtain ⟨rfl, rfl⟩ := Dialogue.course_pure_iff.mp started
    exact ⟨rfl, rfl⟩

/-- Requests are asked for by one run each, in order, or by none if nothing can be passed on. -/
def Asked (tool : Tool) (session : List String) (bridged : Bool) (requests : List Request)
    (runs : List (Exchange processes)) : Prop :=
  if tool.passes session then
    List.Forall₂ (fun request run => run.query = tool.invocation session bridged request)
      requests runs
  else runs = []

/-- What becomes of requests, each by its own run, or as refused if nothing can be passed on. -/
def answers (tool : Tool) (session : List String) (requests : List Request)
    (runs : List (Exchange processes)) : List (Except IpmiError Response) :=
  if tool.passes session then runs.map fun run => Completion.answer run.reply
  else requests.map fun _ => .error (.io .zeroInArgument)

/-- Without requests there is no run. -/
theorem asked_nil : tool.Asked session bridged [] [] := by
  rw [Asked]
  -- Whether or not anything passes, there is nothing to ask for.
  split
  · exact .nil
  · rfl

/-- One more request is asked for by its run in front of the others. -/
theorem Asked.cons {first rest : List (Exchange processes)} {answer : Except IpmiError Response}
    (asked : tool.Asked session bridged requests rest)
    (course : Course (tool.run (session ++ tool.rawArguments bridged request)).outcome
      first answer) :
    tool.Asked session bridged (request :: requests) (first ++ rest) ∧
      tool.answers session (request :: requests) (first ++ rest)
        = answer :: tool.answers session requests rest := by
  -- Whether a run can be started depends on the session alone, so it is so for all or for none.
  have run := course_run course
  rw [Asked] at asked ⊢
  rw [answers, answers]
  -- Each request takes its own run, so the first run belongs to the first request.
  cases passes : tool.passes session with
  | true =>
    simp only [passes, if_true] at run asked ⊢
    obtain ⟨completion, rfl, rfl⟩ := run
    exact ⟨.cons rfl asked, rfl⟩
  -- Nothing can be passed on, so there is no run for any request.
  | false =>
    simp only [passes, Bool.false_eq_true, if_false] at run asked ⊢
    obtain ⟨rfl, rfl⟩ := run
    exact ⟨by rw [asked, List.nil_append], rfl⟩

end Tool

/-- Candidates that are chosen by one decision each. -/
def chosen (candidates : List Description) (decisions : List Bool) : List Description :=
  ((candidates.zip decisions).filter (·.2)).map (·.1)

@[simp] theorem chosen_nil (candidates : List Description) : chosen candidates [] = [] := by
  rw [chosen, List.zip_nil_right]
  rfl

@[simp] theorem chosen_cons (candidate : Description) (candidates : List Description)
    (decision : Bool) (decisions : List Bool) :
    chosen (candidate :: candidates) (decision :: decisions)
      = if decision then candidate :: chosen candidates decisions
        else chosen candidates decisions := by
  -- The decision says whether the candidate is in the filtered list.
  cases decision <;> rfl

/-- Chosen candidates keep their order. -/
theorem chosen_sublist (candidates : List Description) (decisions : List Bool) :
    (chosen candidates decisions).Sublist candidates := by
  -- Each decision leaves its candidate in place or out.
  induction candidates generalizing decisions with
  | nil => exact List.Sublist.slnil
  | cons candidate rest ih =>
    -- Without a decision the candidate is left out, as are all behind it.
    cases decisions with
    | nil => simp
    | cons decision others =>
      rw [chosen_cons]
      split
      · exact (ih others).cons_cons candidate
      · exact (ih others).cons candidate

/-- Nobody is chosen where every decision is against it. -/
theorem chosen_eq_nil {candidates : List Description} {decisions : List Bool}
    (against : ∀ decision ∈ decisions, decision = false) : chosen candidates decisions = [] := by
  -- Each decision leaves its candidate out, until there are none of either.
  induction candidates generalizing decisions with
  | nil => rfl
  | cons candidate rest ih =>
    cases decisions with
    | nil => rfl
    | cons decision others =>
      rw [chosen_cons, against decision List.mem_cons_self]
      exact ih fun other member => against other (List.mem_cons_of_mem _ member)

/-- Choosing by answers is choosing by the runs that they are made of. -/
theorem Tool.chosen_answers (tool : Tool) (session : List String) (candidates : List Description)
    {requests : List Request} {bridged : Bool} {runs : List (Exchange processes)}
    (asked : tool.Asked session bridged requests runs) :
    chosen candidates ((tool.answers session requests runs).map shownBy)
      = chosen candidates (runs.map shows) := by
  rw [answers]
  rw [Asked] at asked
  split at asked
  -- Each answer is the one of its run, so that both decide alike.
  next passes =>
    rw [if_pos passes, List.map_map]
    rfl
  next refused =>
    -- Where nothing can be passed on, every answer is a failure.
    rw [if_neg refused, asked, List.map_nil, chosen_nil]
    exact chosen_eq_nil (by simp [shownBy])

end BmcTelemetry
