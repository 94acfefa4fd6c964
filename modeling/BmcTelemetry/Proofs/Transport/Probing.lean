import BmcTelemetry.Proofs.Dialogue.Ensures
import BmcTelemetry.Proofs.Driver.Failure
import BmcTelemetry.Proofs.Metric.Catalog
import BmcTelemetry.Proofs.Tool.Requests
import BmcTelemetry.Proofs.Transport.Separate
import BmcTelemetry.Transport.Connection

/-!
Probing: which candidates a host is found to answer, and what that depends on.

The tools decide about each candidate by its own run. The driver is asked for all candidates at
once, and a call that fails for one of them takes the others with it.
-/

namespace BmcTelemetry

open Dialogue (Course)

/-- Candidates that were decided about one by one, and what is discovered behind them. -/
def Kept (protocol : Protocol) (candidates : List Description) (decisions : List Bool)
    (found : List Description) : Prop :=
  ∃ discovered, Catalog.Discoverable protocol discovered ∧
    found = chosen candidates decisions ++ discovered

namespace Transport

variable {I : Interface}

/-- Looking for the inlet discovers what the command family knows of, or nothing. -/
theorem ensures_inlet (exec : String → Request → Dialogue I (Except IpmiError Response))
    (protocol : Protocol) (host : String) :
    (inlet exec protocol host).Ensures (Catalog.Discoverable protocol) := by
  -- Whatever is answered, there is nothing or a description made from a sensor number.
  have discovers : (Sensor.Inlet.discover host).Ensures fun found =>
      Catalog.Discoverable .dcmi found.toList := by
    refine Dialogue.ensures_bind _ fun capability => ?_
    -- Without an answer the search ends there, as it does with one that is too short.
    cases capability with
    | error error => exact .inl rfl
    | ok capability =>
      dsimp only
      split
      next => exact .inl rfl
      next =>
        refine Dialogue.ensures_bind _ fun record => ?_
        -- The record was looked up, and its answer decides.
        cases record with
        | error error => exact .inl rfl
        | ok record =>
          dsimp only
          split
          next => exact .inl rfl
          next => exact .inr ⟨rfl, _, rfl⟩
  -- Only one command family looks for the inlet.
  cases protocol with
  | dcmi => exact (discovers.translate _).bind fun found holds => Dialogue.ensures_pure holds
  | nodeManager => exact .inl rfl
  | ipmi => exact .inl rfl

/-- Every course of looking for the inlet ends with a discovery, or with nothing. -/
theorem course_inlet {exec : String → Request → Dialogue I (Except IpmiError Response)}
    {protocol : Protocol} {host : String} {exchanges : List (Exchange I)}
    {discovered : List Description}
    (course : Course (inlet exec protocol host) exchanges discovered) :
    Catalog.Discoverable protocol discovered :=
  Dialogue.ensures_iff_course.mp (ensures_inlet exec protocol host) exchanges discovered course

end Transport

/-- A probing with the tool: a run for each candidate, and candidates kept by their own runs. -/
structure Tool.Probes (tool : Tool) (session : List String) (bridged : Bool) (protocol : Protocol)
    (candidates : List Description) (runs : List (Exchange processes))
    (found : List Description) : Prop where
  /-- Each candidate is asked for. -/
  asked : tool.Asked session bridged (candidates.map (·.request)) runs
  /-- What is found was decided about by what the runs show. -/
  kept : Kept protocol candidates (runs.map Tool.shows) found

namespace Transport

namespace LocalTool

variable {tool : Tool} {protocol : Protocol} {candidates : List Description}

/-- Trying candidates takes one run each and keeps those that are answered. -/
theorem course_supported {host : String} {kept : List Description}
    {runs : List (Exchange processes)}
    (course : Course (supported tool host candidates) runs kept) :
    tool.Asked [] true (candidates.map (·.request)) runs ∧
      kept = chosen candidates
        ((tool.answers [] (candidates.map (·.request)) runs).map Tool.shownBy) := by
  -- One candidate is tried after another, and each run decides about its own.
  induction candidates generalizing runs kept with
  | nil =>
    obtain ⟨rfl, rfl⟩ := Dialogue.course_pure_iff.mp course
    exact ⟨Tool.asked_nil, rfl⟩
  | cons candidate rest ih =>
    obtain ⟨first, answer, later, tried, onward, rfl⟩ := Dialogue.course_bind_iff.mp course
    have own : Course (tool.run ([] ++ tool.rawArguments true candidate.request)).outcome first
        answer := Dialogue.course_report_bind_iff.mp tried
    -- Whatever the answer, the other candidates are tried as well.
    have others : ∃ found, Course (supported tool host rest) later found ∧
        kept = if Tool.shownBy answer then candidate :: found else found := by
      -- A failure is reported, and a response shows support or does not.
      cases answer with
      | error error => exact ⟨kept, Dialogue.course_report_bind_iff.mp onward, rfl⟩
      | ok response =>
        dsimp only at onward
        split at onward
        next shows_it =>
          obtain ⟨_, found, _, tried, ended, rfl⟩ := Dialogue.course_bind_iff.mp onward
          obtain ⟨rfl, rfl⟩ := Dialogue.course_pure_iff.mp ended
          exact ⟨found, by rwa [List.append_nil], (if_pos shows_it).symm⟩
        next shows_nothing =>
          exact ⟨kept, Dialogue.course_report_bind_iff.mp onward, (if_neg shows_nothing).symm⟩
    obtain ⟨found, tried, rfl⟩ := others
    -- The runs and the decisions grow by one each, in front of those for the rest.
    obtain ⟨asked, rfl⟩ := ih tried
    obtain ⟨all, answers⟩ := asked.cons own
    rw [List.map_cons, answers, List.map_cons, chosen_cons]
    exact ⟨all, rfl⟩

/-- Probing the machine runs the tool for each candidate and then looks for the inlet. -/
theorem course_capabilities {machine : String} {hosts : List String}
    {exchanges : List (Exchange processes)} {result : Capabilities}
    (course : Course (capabilities tool protocol machine candidates hosts) exchanges result) :
    ∃ runs rest found, exchanges = runs ++ rest ∧
      tool.Probes [] true protocol candidates runs found ∧
      result = (∅ : Capabilities).insert (localHost machine hosts) found := by
  -- The runs for the candidates come first, and looking for the inlet only adds to what is kept.
  obtain ⟨runs, kept, _, tried, onward, rfl⟩ := Dialogue.course_bind_iff.mp course
  obtain ⟨rest, discovered, _, looked, ended, rfl⟩ := Dialogue.course_bind_iff.mp onward
  obtain ⟨rfl, rfl⟩ := Dialogue.course_report_bind_pure_iff.mp ended
  obtain ⟨asked, rfl⟩ := course_supported tried
  -- Discovering the inlet comes behind the candidates in what is found.
  have discoverable := course_inlet looked
  exact ⟨runs, _, _, rfl, ⟨asked, discovered, discoverable,
    by rw [Tool.chosen_answers tool [] candidates asked]⟩, rfl⟩

end LocalTool

namespace RemoteTool

variable {tool : Tool} {credentials : Credentials} {protocol : Protocol} {host : String}
  {candidates : List Description}

/-- Requests to a host take one run each, and each answer is made of its own run. -/
theorem course_mapM_exec {bridged : Bool} {requests : List Request}
    {runs : List (Exchange processes)} {answers : List (Except IpmiError Response)}
    (course : Course (requests.mapM (exec tool credentials bridged host)) runs answers) :
    tool.Asked (sessionArguments credentials host) bridged requests runs ∧
      answers = tool.answers (sessionArguments credentials host) requests runs := by
  -- No request waits for what becomes of another, so each one adds its own run.
  induction requests generalizing runs answers with
  -- No requests take no runs, whatever can be passed on.
  | nil =>
    obtain ⟨rfl, rfl⟩ := Dialogue.course_pure_iff.mp course
    refine ⟨Tool.asked_nil, ?_⟩
    rw [Tool.answers]
    split <;> rfl
  | cons request rest ih =>
    -- The first request is run, and the rest are run whatever became of it.
    rw [List.mapM_cons] at course
    obtain ⟨first, answer, _, tried, onward, rfl⟩ := Dialogue.course_bind_iff.mp course
    obtain ⟨later, others, _, triedLater, ended, rfl⟩ := Dialogue.course_bind_iff.mp onward
    obtain ⟨rfl, rfl⟩ := Dialogue.course_pure_iff.mp ended
    obtain ⟨asked, rfl⟩ := ih triedLater
    obtain ⟨all, answers⟩ := asked.cons (Dialogue.course_report_bind_iff.mp tried)
    rw [List.append_nil, answers]
    exact ⟨all, rfl⟩

/-- Telling which candidates are supported is no exchange. -/
theorem course_keep {answers : List (Except IpmiError Response)}
    {exchanges : List (Exchange processes)} {kept : List Description}
    (course : Course (keep host (candidates.zip answers)) exchanges kept) :
    exchanges = [] ∧ kept = chosen candidates (answers.map Tool.shownBy) := by
  -- Candidates and answers are gone through side by side.
  induction candidates generalizing answers exchanges kept with
  | nil => exact Dialogue.course_pure_iff.mp course
  | cons candidate rest ih =>
    -- Without an answer there is no candidate to tell about.
    cases answers with
    | nil =>
      rw [List.map_nil, chosen_nil]
      exact Dialogue.course_pure_iff.mp course
    | cons answer others =>
      obtain ⟨first, supported, _, told, onward, rfl⟩ := Dialogue.course_bind_iff.mp course
      obtain ⟨_, found, _, later, ended, rfl⟩ := Dialogue.course_bind_iff.mp onward
      obtain ⟨rfl, rfl⟩ := Dialogue.course_pure_iff.mp ended
      -- The decisions about the rest are those of their own answers.
      obtain ⟨rfl, rfl⟩ := ih later
      -- A failure is reported and counts as an answer that shows nothing.
      have own : first = [] ∧ supported = Tool.shownBy answer := by
        cases answer with
        | ok response => exact Dialogue.course_pure_iff.mp told
        | error error => exact Dialogue.course_report_bind_pure_iff.mp told
      obtain ⟨rfl, rfl⟩ := own
      rw [List.map_cons, chosen_cons]
      exact ⟨rfl, rfl⟩

/-- Probing a host runs the tool for each candidate and then looks for the inlet. -/
theorem course_probe {exchanges : List (Exchange processes)} {found : List Description}
    (course : Course (probe tool credentials protocol candidates host) exchanges found) :
    ∃ runs rest, exchanges = runs ++ rest ∧
      tool.Probes (sessionArguments credentials host) (protocol == .nodeManager) protocol
        candidates runs found := by
  -- All candidates are asked for before the first of them is decided about.
  obtain ⟨runs, answers, _, tried, onward, rfl⟩ := Dialogue.course_bind_iff.mp course
  obtain ⟨_, kept, _, sorted, looking, rfl⟩ := Dialogue.course_bind_iff.mp onward
  obtain ⟨rest, discovered, _, looked, ended, rfl⟩ := Dialogue.course_bind_iff.mp looking
  obtain ⟨rfl, rfl⟩ := Dialogue.course_report_bind_pure_iff.mp ended
  obtain ⟨rfl, rfl⟩ := course_keep sorted
  -- Mapping the candidates to their requests first asks for the same.
  have each : Course ((candidates.map (·.request)).mapM
      (exec tool credentials (protocol == .nodeManager) host)) runs answers := by
    rw [List.mapM_map]
    exact tried
  obtain ⟨asked, rfl⟩ := course_mapM_exec each
  have discoverable := course_inlet looked
  exact ⟨runs, _, rfl, asked, discovered, discoverable,
    by rw [Tool.chosen_answers tool _ candidates asked]⟩

/-- Probing hosts in turn probes each of them, and what its last probing found is its part. -/
theorem course_capabilities {hosts : List String} {before found : Capabilities}
    {exchanges : List (Exchange processes)}
    (course : Course (capabilities tool credentials protocol candidates hosts before)
      exchanges found) :
    (∀ host ∈ hosts, ∃ runs own, runs <:+: exchanges ∧
      tool.Probes (sessionArguments credentials host) (protocol == .nodeManager) protocol
        candidates runs own ∧
      found[host]? = some own) ∧
    ∀ host, host ∉ hosts → found[host]? = before[host]? := by
  -- Probing is a fold over the hosts, and each of them spends runs of its own.
  rw [capabilities_eq_foldlM] at course
  obtain ⟨_, gathered, _, probed, ended, rfl⟩ := Dialogue.course_bind_iff.mp course
  obtain ⟨rfl, rfl⟩ := Dialogue.course_report_bind_pure_iff.mp ended
  rw [List.append_nil]
  -- Each host has the runs of its last probing somewhere in the whole.
  obtain ⟨each, others⟩ := Dialogue.course_gathered probed
  refine ⟨fun host listed => ?_, others⟩
  obtain ⟨spent, own, within, course, held⟩ := each host listed
  obtain ⟨runs, rest, rfl, probes⟩ := course_probe course
  exact ⟨runs, own, (List.prefix_append runs rest).isInfix.trans within, probes, held⟩

end RemoteTool

namespace KernelDriver

/-- The decisions about candidates that a batch leads to: all against them if it fails. -/
def decisions (device : String) (candidates : List Description)
    (spent : List (Exchange Driver.kernel)) : List Bool :=
  (List.range candidates.length).map fun place =>
    decide (Driver.CameThrough device (candidates.map (·.request)) spent ∧
      Driver.Answered spent place)

variable {device : String} {protocol : Protocol} {candidates : List Description}

/-- Candidates are kept by the sign of validity of their own answers. -/
theorem keep_eq (answers : List Response) :
    keep candidates answers = chosen candidates (answers.map (·.valid)) := by
  -- Zipping, filtering and mapping keep candidates and decisions in step.
  rw [keep, chosen, List.zip_map_right, List.filter_map, List.map_map]
  rfl

/-- What is left of probing the machine when it is settled which candidates are kept. -/
def conclude (device : String) (protocol : Protocol) (candidates : List Description)
    (host : String) (kept : List Description) : Dialogue Driver.kernel Capabilities := do
  let discovered ← inlet (fun _ => exec device) protocol host
  let found := kept ++ discovered
  Dialogue.report (.probed host found.length candidates.length)
  return (∅ : Capabilities).insert host found

/-- A batch that fails keeps nobody. -/
theorem capabilities_eq (machine : String) (hosts : List String) :
    capabilities device protocol machine candidates hosts = (do
      match ← batch device protocol (candidates.map (·.request)) with
      | .ok answers =>
        conclude device protocol candidates (localHost machine hosts) (keep candidates answers)
      | .error error =>
        Dialogue.report (.probeFailed device error)
        conclude device protocol candidates (localHost machine hosts) []) := by
  rw [capabilities]
  -- Both branches end alike, with different candidates kept.
  refine congrArg _ (funext fun outcome => ?_)
  cases outcome <;> rfl

/-- The batch of the candidates keeps those that are decided for, if it comes through. -/
theorem course_batch {spent : List (Exchange Driver.kernel)}
    {outcome : Except IpmiError (List Response)}
    (course : Course (batch device protocol (candidates.map (·.request))) spent outcome) :
    (∃ answers, outcome = .ok answers ∧
      keep candidates answers = chosen candidates (decisions device candidates spent)) ∨
    ∃ error, outcome = .error error ∧
      chosen candidates (decisions device candidates spent) = [] := by
  -- The batch is known to come through or to stop, as the driver lets it.
  rw [batch] at course
  cases candidates with
  | nil =>
    -- Without candidates there is nothing to send and nothing to decide.
    obtain ⟨rfl, rfl⟩ := Dialogue.course_pure_iff.mp course
    exact .inl ⟨[], rfl, rfl⟩
  | cons candidate rest =>
    rcases Driver.batch_through_or_failed course with ⟨through, rfl⟩ | ⟨stopped, error, rfl⟩
    · -- A batch that comes through has an answer in a place exactly if a message came for it.
      refine .inl ⟨_, rfl, ?_⟩
      rw [keep_eq, decisions, List.map_map, List.length_map]
      refine congrArg (chosen _) (List.map_congr_left fun place _ => ?_)
      rw [Function.comp_apply, Driver.valid_lastUnder]
      simp only [through, true_and]
    · -- A batch that fails decides against everybody, answered or not.
      refine .inr ⟨error, rfl, chosen_eq_nil ?_⟩
      intro decision member
      obtain ⟨place, _, rfl⟩ := List.mem_map.mp member
      exact decide_eq_false fun both => stopped both.1

/-- What is found follows from the batch, however it went. -/
theorem course_settled {host : String} {spent rest : List (Exchange Driver.kernel)}
    {outcome : Except IpmiError (List Response)} {result : Capabilities}
    (tried : Course (batch device protocol (candidates.map (·.request))) spent outcome)
    (onward : Course (match outcome with
      | .ok answers => conclude device protocol candidates host (keep candidates answers)
      | .error error => do
        Dialogue.report (.probeFailed device error)
        conclude device protocol candidates host []) rest result) :
    ∃ found, Kept protocol candidates (decisions device candidates spent) found ∧
      result = (∅ : Capabilities).insert host found := by
  -- What is kept is chosen by the decisions in either case, and the rest is the same.
  have concluded : Course (conclude device protocol candidates host
      (chosen candidates (decisions device candidates spent))) rest result := by
    -- The batch came through and kept whom it decided for, or it failed and kept nobody.
    rcases course_batch tried with ⟨answers, rfl, kept⟩ | ⟨error, rfl, nobody⟩
    · rwa [← kept]
    · rw [nobody]
      exact Dialogue.course_report_bind_iff.mp onward
  -- What is discovered comes behind what was kept.
  obtain ⟨_, discovered, _, looked, ended, rfl⟩ := Dialogue.course_bind_iff.mp concluded
  obtain ⟨rfl, rfl⟩ := Dialogue.course_report_bind_pure_iff.mp ended
  have discoverable := course_inlet looked
  exact ⟨_, ⟨discovered, discoverable, rfl⟩, rfl⟩

/-- Probing the machine keeps what is decided for, whatever the driver does. -/
theorem course_capabilities {machine : String} {hosts : List String}
    {exchanges : List (Exchange Driver.kernel)} {result : Capabilities}
    (course : Course (capabilities device protocol machine candidates hosts) exchanges result) :
    ∃ spent found, Kept protocol candidates (decisions device candidates spent) found ∧
      result = (∅ : Capabilities).insert (localHost machine hosts) found := by
  rw [capabilities_eq] at course
  obtain ⟨spent, outcome, rest, tried, onward, rfl⟩ := Dialogue.course_bind_iff.mp course
  exact ⟨spent, course_settled tried onward⟩

/-- Probing the machine first sends the batch of the candidates, which decides about them. -/
theorem run_capabilities (device : String) (protocol : Protocol) (candidates : List Description)
    (machine : String) (hosts : List String) {σ : Type}
    (handler : Dialogue.Handler Driver.kernel σ) (memory : σ) :
    let probing := capabilities device protocol machine candidates hosts
    let spent := (batch device protocol (candidates.map (·.request))).transcript handler memory
    spent <+: probing.transcript handler memory ∧
      ∃ found, Kept protocol candidates (decisions device candidates spent) found ∧
        (probing.run handler memory).1
          = (∅ : Capabilities).insert (localHost machine hosts) found := by
  intro probing spent
  have tried : Course (batch device protocol (candidates.map (·.request))) spent _ :=
    Dialogue.course_run handler _ memory
  simp only [probing, capabilities_eq]
  constructor
  -- The batch is the first part of the probing, so its exchanges come first.
  · rw [Dialogue.transcript_bind]
    exact List.prefix_append _ _
  · -- What follows the batch is a run of its own, from where the batch ends.
    change ∃ found, _ ∧ (Dialogue.reach handler _ memory).1 = _
    rw [Dialogue.reach_bind]
    exact course_settled tried (Dialogue.course_run handler _ _)

end KernelDriver

/-- Whatever is answered, what is found of a host was decided about, apart from a discovery. -/
def Selects (transport : Transport I) (protocol : Protocol) : Prop :=
  ∀ candidates hosts, (transport.capabilities candidates hosts).Ensures fun found =>
    ∀ (host : String) (descriptions : List Description), found[host]? = some descriptions →
      ∃ decisions, Kept protocol candidates decisions descriptions

/-- Of one host alone, only what was found of it is known. -/
theorem eq_of_insert_empty {host name : String} {found descriptions : List Description}
    (known : ((∅ : Capabilities).insert host found)[name]? = some descriptions) :
    found = descriptions := by
  -- Either the name is that of the host, or nothing is known under it.
  rw [Std.TreeMap.getElem?_insert] at known
  split at known
  · exact Option.some.inj known
  · simp at known

/-- Probing with the tool on the machine itself selects among the candidates. -/
theorem selects_localTool (tool : Tool) (protocol : Protocol) (machine : String) :
    (localTool tool protocol machine).Selects protocol := by
  -- Every run of the tool is a course, and every course keeps by decisions.
  refine fun candidates hosts => Dialogue.ensures_iff_course.mpr fun _ result course => ?_
  obtain ⟨_, _, found, _, probes, rfl⟩ := LocalTool.course_capabilities course
  intro host descriptions known
  obtain rfl := eq_of_insert_empty known
  exact ⟨_, probes.kept⟩

/-- Probing with the tool over the network selects among the candidates. -/
theorem selects_remoteTool (tool : Tool) (credentials : Credentials) (protocol : Protocol) :
    (remoteTool tool credentials protocol).Selects protocol := by
  refine fun candidates hosts => Dialogue.ensures_iff_course.mpr fun _ result course => ?_
  obtain ⟨each, others⟩ := RemoteTool.course_capabilities course
  intro host descriptions known
  -- A host that was not probed is not found at all.
  by_cases listed : host ∈ hosts
  · obtain ⟨_, own, _, probes, held⟩ := each host listed
    obtain rfl := Option.some.inj (held.symm.trans known)
    exact ⟨_, probes.kept⟩
  · rw [others host listed] at known
    simp at known

/-- Probing with the driver selects among the candidates. -/
theorem selects_kernelDriver (device : String) (protocol : Protocol) (machine : String) :
    (kernelDriver device protocol machine).Selects protocol := by
  -- Every course keeps by the decisions of its batch.
  refine fun candidates hosts => Dialogue.ensures_iff_course.mpr fun _ result course => ?_
  obtain ⟨_, found, kept, rfl⟩ := KernelDriver.course_capabilities course
  intro host descriptions known
  obtain rfl := eq_of_insert_empty known
  exact ⟨_, kept⟩

/-- A transport selects among the candidates over whatever surroundings it is used. -/
theorem Selects.through {J : Interface} {transport : Transport I} {protocol : Protocol}
    (selects : transport.Selects protocol)
    (answer : (question : I.Query) → Dialogue J (I.Reply question)) :
    (transport.through answer).Selects protocol :=
  fun candidates hosts => (selects candidates hosts).translate answer

/-- Every transport that a user can choose selects among the candidates. -/
theorem selects_connect (options : Options) (name : String) :
    (connect options name).Selects options.protocol := by
  rw [connect]
  -- Each mode is one of the three transports, used through the surroundings.
  cases options.mode with
  | localTool => exact (selects_localTool _ _ _).through _
  | remoteTool => exact (selects_remoteTool _ _ _).through _
  | kernelDriver => exact (selects_kernelDriver _ _ _).through _

end Transport

end BmcTelemetry
