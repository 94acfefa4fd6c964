import BmcTelemetry.Proofs.Dialogue.Log
import BmcTelemetry.Transport.RemoteTool

/-!
Passwords: which of the arguments that choose a session are shown in the log.

The masking goes by what an argument looks like, and whoever is asked for a user may name one that
looks like the flag of the password.
-/

namespace BmcTelemetry

open Dialogue (Handler)

namespace Tool

/-- Whether arguments end with a flag that has the next argument hidden. -/
def pending : List String → Bool
  | [] => false
  | [last] => last = "-P"
  | flag :: value :: rest => if flag = "-P" then pending rest else pending (value :: rest)

/-- The first argument is always shown. -/
theorem head?_masked (first : String) (rest : List String) :
    (masked (first :: rest)).head? = some first := by
  -- With one argument or more, the first of them is never touched.
  cases rest with
  | nil => rfl
  | cons second others =>
    rw [masked]
    split <;> rfl

/-- The argument behind the flag is hidden, and those behind it are masked by themselves. -/
theorem masked_flag (value : String) (rest : List String) :
    masked ("-P" :: value :: rest) = "-P" :: "****" :: masked rest := by
  rw [masked, if_pos rfl]

/-- An argument other than the flag is shown, and those behind it are masked by themselves. -/
theorem masked_other {argument : String} (other : argument ≠ "-P") (rest : List String) :
    masked (argument :: rest) = argument :: masked rest := by
  -- Without a second argument there is nothing that could be hidden.
  cases rest with
  | nil => rfl
  | cons value others => rw [masked, if_neg other]

/-- Behind arguments that leave nothing to hide, arguments are masked by themselves. -/
theorem masked_append {front : List String} (settled : pending front = false)
    (rest : List String) : masked (front ++ rest) = masked front ++ masked rest := by
  -- The scan goes on by two arguments at the flag, and by one at any other.
  induction front using masked.induct with
  | case1 => rfl
  | case2 last =>
    -- One argument left nothing pending, so it is not the flag.
    have other : last ≠ "-P" := by simpa [pending] using settled
    exact masked_other other rest
  | case3 hidden others ih =>
    -- The flag hides its value, and what follows the two goes on as before.
    rw [pending, if_pos rfl] at settled
    rw [List.cons_append, List.cons_append, masked_flag, masked_flag, ih settled]
    rfl
  | case4 argument second others other ih =>
    -- The argument is shown and left behind.
    rw [pending, if_neg other] at settled
    rw [List.cons_append, masked_other other, masked_other other, ih settled]
    rfl

/-- Behind a flag that is left pending, one argument is hidden, whatever it looks like. -/
theorem masked_append_pending {front : List String} (open_flag : pending front = true)
    (value : String) (rest : List String) :
    masked (front ++ value :: rest) = masked front ++ "****" :: masked rest := by
  -- The scan of what stands in front ends with the flag, which hides whatever comes next.
  induction front using masked.induct with
  | case1 => cases open_flag
  | case2 last =>
    -- The only argument is the pending flag itself.
    obtain rfl : last = "-P" := by simpa [pending] using open_flag
    exact masked_flag value rest
  | case3 hidden others ih =>
    -- Behind the flag and its value the rest is what leaves a flag pending.
    rw [pending, if_pos rfl] at open_flag
    rw [List.cons_append, List.cons_append, masked_flag, masked_flag, ih open_flag]
    rfl
  | case4 argument second others other ih =>
    rw [pending, if_neg other] at open_flag
    rw [List.cons_append, masked_other other, masked_other other, ih open_flag]
    rfl

/-- The value of a flag is hidden, unless the flag itself is taken for what another one hides. -/
theorem masked_value_eq_iff (front : List String) (value other : String) (rest : List String) :
    masked (front ++ "-P" :: value :: rest) = masked (front ++ "-P" :: other :: rest) ↔
      pending front = false ∨ value = other := by
  -- Either the front leaves a flag pending, which then hides the flag in question, or it does not.
  cases hides : pending front with
  | false =>
    -- The flag is read as one, and one and the same mark stands for either value.
    simp [masked_append hides, masked_flag]
  | true =>
    -- The flag itself is hidden, and the value is the first argument of what is left.
    rw [masked_append_pending hides, masked_append_pending hides, List.append_cancel_left_eq,
      List.cons.injEq]
    constructor
    · rintro ⟨-, same⟩
      -- Equal lists have equal first arguments, and the value is one of them.
      have first := congrArg List.head? same
      rw [head?_masked, head?_masked] at first
      exact .inr (Option.some.inj first)
    · rintro (settled | rfl)
      · cases settled
      · exact ⟨rfl, rfl⟩

/-- The argument lists that a log shows, one for each run of the tool. -/
def shownArguments (log : List Event) : List (List String) :=
  log.filterMap fun
    | .toolStarted _ shown => some shown
    | _ => none

section Runs

variable (tool : Tool) {σ : Type} (handler : Handler processes σ) (memory : σ)

/-- Starting the tool reports nothing by itself. -/
theorem log_start (arguments : List String) :
    (tool.start arguments).log handler memory = [] := by
  -- The tool is started, or refused what it cannot be passed.
  by_cases passes : (Invocation.mk tool.program arguments).isPassable = true
  · have asks : tool.start arguments = Dialogue.query (I := processes) ⟨tool.program, arguments⟩ :=
      if_pos passes
    rw [asks]
    rfl
  · have refused : tool.start arguments = (return .notStarted .zeroInArgument) := if_neg passes
    rw [refused]
    exact Dialogue.log_pure handler memory _

/-- What is made of the end of a run shows no arguments. -/
theorem shownArguments_answer (completion : Completion) :
    shownArguments ((do return Response.answered (← tool.answer completion) :
      Attempt processes Response).outcome.log handler memory) = [] := by
  -- There is a report about a tool that is missing or failed, and none about another start.
  match completion with
  | .notStarted error =>
    rw [answer]
    split <;> rfl
  | .ended false _ _ => rfl
  | .ended true _ _ => rfl

/-- A run of the tool shows its masked arguments, whatever becomes of it. -/
theorem shownArguments_run (arguments : List String) :
    shownArguments ((tool.run arguments).outcome.log handler memory) = [masked arguments] := by
  -- Of the reports about a run only the first shows arguments.
  rw [run, Attempt.log_report_bind, Attempt.log_liftDialogue_bind, log_start, List.nil_append]
  change masked arguments :: shownArguments _ = _
  rw [shownArguments_answer]

end Runs

end Tool

namespace Transport.RemoteTool

variable (tool : Tool) (user host : String) (bridged : Bool) (request : Request)

/-- A request to a host shows the arguments of its one run. -/
theorem shownArguments_exec (credentials : Credentials) {σ : Type}
    (handler : Handler processes σ) (memory : σ) :
    Tool.shownArguments ((exec tool credentials bridged host request).log handler memory)
      = [Tool.masked (arguments tool credentials bridged host request)] :=
  Tool.shownArguments_run tool handler memory _

/-- Up to the flag of the password, nothing but the user can leave anything to hide. -/
theorem pending_session :
    Tool.pending ["-I", "lanplus", "-H", host, "-U", user] = decide (user = "-P") := by
  -- A host that looks like the flag has the flag of the user hidden, and nothing after it.
  by_cases flag : host = "-P"
  · simp [Tool.pending, flag]
  · simp [Tool.pending, flag]

/--
The shown arguments are the same for any two passwords exactly when the user does not look like the
flag of the password.

Host, request and bridging make no difference, nor does whatever becomes of either run.
-/
theorem password_hidden_iff (password other : String) {σ τ : Type} (handler : Handler processes σ)
    (memory : σ) (elsewhere : Handler processes τ) (remembered : τ) :
    Tool.shownArguments
        ((exec tool ⟨user, password⟩ bridged host request).log handler memory)
      = Tool.shownArguments
        ((exec tool ⟨user, other⟩ bridged host request).log elsewhere remembered) ↔
      user ≠ "-P" ∨ password = other := by
  -- Each side shows the arguments of one run, so the two lists have one element each.
  rw [shownArguments_exec, shownArguments_exec, List.cons.injEq, and_iff_left rfl]
  -- The flag of the password stands behind the user, and the request behind the password.
  have masking := Tool.masked_value_eq_iff ["-I", "lanplus", "-H", host, "-U", user] password other
    (tool.rawArguments bridged request)
  rwa [pending_session, decide_eq_false_iff_not] at masking

/-- The password of a user named `-P` is shown. -/
theorem password_shown :
    Tool.shownArguments ((exec ⟨"ipmitool", ⟨0, 0⟩⟩ ⟨"-P", "secret"⟩ false "a"
        Controller.deviceIdRequest).log (fun _ _ => (Completion.ended true [] [], ())) ())
      = [["-I", "lanplus", "-H", "a", "-U", "-P", "****", "secret", "raw", "0x06", "0x01"]] ∧
    Tool.shownArguments ((exec ⟨"ipmitool", ⟨0, 0⟩⟩ ⟨"-P", "other"⟩ false "a"
        Controller.deviceIdRequest).log (fun _ _ => (Completion.ended true [] [], ())) ())
      = [["-I", "lanplus", "-H", "a", "-U", "-P", "****", "other", "raw", "0x06", "0x01"]] := by
  -- The arguments of both runs are known, so that masking them is computed.
  rw [shownArguments_exec, shownArguments_exec]
  decide

end Transport.RemoteTool

end BmcTelemetry
