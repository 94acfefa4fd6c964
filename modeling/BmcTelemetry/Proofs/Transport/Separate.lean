import BmcTelemetry.Proofs.Dialogue.Separate
import BmcTelemetry.Transport.Direct
import BmcTelemetry.Transport.RemoteTool

/-!
Transports that keep hosts separate: whatever is done for a host is asked of that host alone.

A conversation with several hosts, at either pace, is then one with each of them by itself.
-/

namespace BmcTelemetry.Transport

open Dialogue (Concerns Parallel Seated Seen concerns_mapM concerns_pure concerns_query
  concerns_report_bind concerns_translate reach_bind reach_pure reach_report seen_foldlM
  seen_takeTurns share share_map)

variable {I : Interface} {α : Type}

/-- A transport asks for a host what concerns that host, and probes each host by itself. -/
structure Separates (transport : Transport I) (hostOf : I.Query → String) : Prop where
  /-- One request. -/
  exec : ∀ host request, (transport.exec host request).Concerns hostOf host
  /-- Several requests. -/
  batch : ∀ host requests, (transport.batch host requests).Concerns hostOf host
  /-- Of probing distinct hosts, each sees its own part. -/
  capabilities : ∀ candidates, ∃ probe : String → Dialogue I (List Description),
    ∀ hosts, hosts.Nodup → ∀ host,
      Seen hostOf host (transport.capabilities candidates hosts) (·[host]?)
        (share host none (hosts.map fun name => (name, probe name)))

/-- A dialogue about each of several distinct hosts, under its name, can be held at once. -/
theorem seated_hosts {hostOf : I.Query → String} {dialogue : String → Dialogue I α}
    (concerns : ∀ host, (dialogue host).Concerns hostOf host) {hosts : List String}
    (distinct : hosts.Nodup) :
    Seated hostOf (hosts.map fun host => (host, dialogue host)) := by
  -- The names are the hosts themselves, so they are distinct too.
  refine ⟨by simpa [List.map_map, Function.comp_def] using distinct, fun speaker member => ?_⟩
  obtain ⟨host, _, rfl⟩ := List.mem_map.mp member
  exact concerns host

section Conversations

/-- A request that is handed over concerns the host that it is addressed to. -/
theorem concerns_hand (host : String) (request : Request) :
    (hand host request).Concerns Addressed.host host := concerns_query rfl

/-- A conversation that is addressed to a host concerns it. -/
theorem concerns_addressed (host : String) (dialogue : Dialogue controller α) :
    (addressed host dialogue).Concerns Addressed.host host :=
  concerns_translate (J := controller) (concerns_hand host) dialogue

/-- Of conversations that are held at once, each host sees its own, at either pace. -/
theorem seen_hold (pacing : Pacing) {hostOf : I.Query → String}
    {speakers : List (String × Dialogue I α)} (seated : Seated hostOf speakers) (host : String) :
    Seen hostOf host (pacing.hold speakers) (·[host]?) (share host none speakers) := by
  -- Before anything is held, nobody is found.
  have nothing : (∅ : Std.TreeMap String α)[host]? = none := Std.TreeMap.getElem?_emptyc
  rw [← nothing]
  -- At one pace the conversations follow one another, and at the other they take turns.
  cases pacing with
  | oneByOne => exact seen_foldlM seated ∅
  | inTurns => exact seen_takeTurns speakers [] ∅ seated

variable {transport : Transport I} {hostOf : I.Query → String}

/-- The conversation of a host, if it is one of those that are talked to. -/
def ownConversation (dialogue : String → Dialogue controller α) (hosts : List String)
    (host : String) : Dialogue network (Option α) :=
  if host ∈ hosts then some <$> addressed host (dialogue host) else pure none

/-- Of conversations with several hosts, each host sees its own. -/
theorem Separates.seen_converseWithAll (separates : transport.Separates hostOf)
    (dialogue : String → Dialogue controller α) {hosts : List String} (distinct : hosts.Nodup)
    (host : String) :
    Seen hostOf host (transport.converseWithAll dialogue hosts) (·[host]?)
      ((ownConversation dialogue hosts host).translate fun (asked : Addressed) =>
        transport.exec asked.host asked.request) := by
  -- Each conversation is seen under the host's address, and each request is then executed.
  have seated : Seated Addressed.host
      (hosts.map fun name => (name, addressed name (dialogue name))) :=
    seated_hosts (fun name => concerns_addressed name (dialogue name)) distinct
  have seen := seen_hold transport.pacing seated host
  -- Executing a request happens inside the host's share, and the share keeps its shape.
  rw [share_map] at seen
  exact seen.translate fun (asked : Addressed) => separates.exec asked.host asked.request

/-- Conversations with the same hosts in another order are parallel for each of them. -/
theorem Separates.parallel_converseWithAll (separates : transport.Separates hostOf)
    (dialogue : String → Dialogue controller α) {hosts others : List String}
    (distinct : hosts.Nodup) (distinctToo : others.Nodup) {host : String}
    (same : host ∈ hosts ↔ host ∈ others) :
    Parallel hostOf host (transport.converseWithAll dialogue hosts)
      (transport.converseWithAll dialogue others)
      fun found again => found[host]? = again[host]? := by
  have seen := separates.seen_converseWithAll dialogue distinct host
  have again := separates.seen_converseWithAll dialogue distinctToo host
  -- The share depends only on whether the host is talked to, which is the same for both lists.
  simp only [ownConversation, same] at seen again
  exact seen.parallel again

end Conversations

namespace Direct

/-- Probes one host. -/
def probe (protocol : Protocol) (candidates : List Description) (host : String) :
    Dialogue network (List Description) := do
  let kept ← supported host candidates
  let discovered ← inlet hand protocol host
  return kept ++ discovered

/-- Probing hosts in turn adds what is found out about each of them. -/
theorem capabilities_eq_foldlM (protocol : Protocol) (candidates : List Description)
    (hosts : List String) (found : Capabilities) :
    capabilities protocol candidates hosts found
      = (hosts.map fun host => (host, probe protocol candidates host)).foldlM
          (fun found (host, dialogue) => return found.insert host (← dialogue)) found := by
  -- The map is built up from the left, so what was found before is part of the induction.
  induction hosts generalizing found with
  | nil => rfl
  | cons host rest ih =>
    rw [List.map_cons, List.foldlM_cons, capabilities]
    simp only [probe, bind_assoc, pure_bind, ih]

/-- Trying candidates on a host concerns it. -/
theorem concerns_supported (host : String) (candidates : List Description) :
    (supported host candidates).Concerns Addressed.host host := by
  -- Each candidate is one request to the host, and the rest follows whatever the answer.
  induction candidates with
  | nil => trivial
  | cons candidate rest ih =>
    exact (concerns_hand host candidate.request).bind fun _ => ih.bind fun _ => concerns_pure _

end Direct

/-- Looking for the inlet of a host concerns it. -/
theorem concerns_inlet {hostOf : I.Query → String}
    {exec : String → Request → Dialogue I (Except IpmiError Response)} {host : String}
    (concerns : ∀ request, (exec host request).Concerns hostOf host) (protocol : Protocol) :
    (inlet exec protocol host).Concerns hostOf host := by
  -- Only one command family has an inlet to look for, and it is looked for on the host.
  cases protocol with
  | dcmi =>
    exact (concerns_translate concerns (Sensor.Inlet.discover host)).bind fun _ => concerns_pure _
  | nodeManager => exact concerns_pure _
  | ipmi => exact concerns_pure _

/-- Handing requests over as they are keeps hosts separate. -/
theorem separates_direct (protocol : Protocol) : (direct protocol).Separates Addressed.host where
  exec := concerns_hand
  batch host requests := Attempt.concerns_mapM requests (concerns_hand host)
  capabilities candidates := by
    -- Each host is probed by its own dialogue, of which all parts concern that host.
    refine ⟨Direct.probe protocol candidates, fun hosts distinct host => ?_⟩
    have concerns (name : String) :
        (Direct.probe protocol candidates name).Concerns Addressed.host name :=
      (Direct.concerns_supported name candidates).bind fun _ =>
        (concerns_inlet (concerns_hand name) protocol).bind fun _ => concerns_pure _
    -- The hosts are probed one by one, whatever the pace of conversations is.
    have seen := seen_hold .oneByOne (seated_hosts concerns distinct) host
    rwa [Pacing.hold, ← Direct.capabilities_eq_foldlM] at seen

namespace RemoteTool

/-- The host that an invocation of the tool is for, where it chooses a session with one. -/
def hostOf : processes.Query → String := fun (invocation : Invocation) =>
  invocation.arguments[3]?.getD ""

variable (tool : Tool) (credentials : Credentials)

/-- Starting the tool concerns the host that its arguments choose a session with. -/
theorem concerns_start (bridged : Bool) (host : String) (request : Request) :
    (tool.start (arguments tool credentials bridged host request)).Concerns hostOf host := by
  let invocation : Invocation := ⟨tool.program, arguments tool credentials bridged host request⟩
  -- What cannot be passed on is never started.
  by_cases passable : invocation.isPassable
  · have started : tool.start invocation.arguments = Dialogue.query (I := processes) invocation :=
      if_pos passable
    rw [started]
    exact concerns_query rfl
  · have unstarted : tool.start invocation.arguments = pure (.notStarted .zeroInArgument) :=
      if_neg passable
    rw [unstarted]
    exact concerns_pure _

/-- Reading what became of a run asks nobody. -/
theorem concerns_answer (completion : Completion) (host : String) :
    (tool.answer completion).outcome.Concerns hostOf host := by
  -- There may be a report about the end of the run, and reports are no exchanges.
  match completion with
  | .notStarted error =>
    rw [Tool.answer]
    split <;> trivial
  | .ended false _ _ => trivial
  | .ended true _ _ => trivial

/-- Running the tool concerns the host that its arguments choose a session with. -/
theorem concerns_exec (bridged : Bool) (host : String) (request : Request) :
    (exec tool credentials bridged host request).Concerns hostOf host := by
  -- The reports around the run are no exchanges, so the run itself is left.
  refine Dialogue.concerns_report_bind _ (Attempt.concerns_report_bind _ ?_)
  refine Attempt.concerns_bind (Attempt.concerns_liftDialogue ?_) fun completion => ?_
  · exact concerns_start tool credentials bridged host request
  · exact Attempt.concerns_bind (concerns_answer tool completion host) fun _ => trivial

/-- Running the tool for several requests concerns the same host. -/
theorem concerns_batch (host : String) (requests : List Request) :
    (batch tool credentials host requests).Concerns hostOf host :=
  (concerns_mapM requests fun _ => concerns_exec tool credentials true host _).bind fun _ =>
    concerns_report_bind _ (concerns_pure _)

/-- Telling which candidates are supported asks nobody. -/
theorem concerns_keep {host name : String}
    (answers : List (Description × Except IpmiError Response)) :
    (keep name answers).Concerns hostOf host := by
  induction answers with
  | nil => trivial
  -- A candidate is decided about by the answer at hand, with a report at most.
  | cons answer rest ih =>
    obtain ⟨candidate, answer⟩ := answer
    refine Concerns.bind ?_ fun _ => ih.bind fun _ => concerns_pure _
    cases answer <;> trivial

/-- Probes one host. -/
def probe (protocol : Protocol) (candidates : List Description) (host : String) :
    Dialogue processes (List Description) := do
  let answers ← candidates.mapM fun candidate =>
    exec tool credentials (protocol == .nodeManager) host candidate.request
  let kept ← keep host (candidates.zip answers)
  let discovered ← inlet (exec tool credentials false) protocol host
  let all := kept ++ discovered
  Dialogue.report (.probed host all.length candidates.length)
  return all

/-- Probing a host concerns it. -/
theorem concerns_probe (protocol : Protocol) (candidates : List Description) (host : String) :
    (probe tool credentials protocol candidates host).Concerns hostOf host :=
  (concerns_mapM candidates fun _ => concerns_exec tool credentials _ host _).bind fun _ =>
    (concerns_keep _).bind fun _ =>
      (concerns_inlet (concerns_exec tool credentials false host) protocol).bind fun _ =>
        concerns_report_bind _ (concerns_pure _)

/-- Probing hosts in turn adds what is found out about each of them. -/
theorem capabilities_eq_foldlM (protocol : Protocol) (candidates : List Description)
    (hosts : List String) (found : Capabilities) :
    capabilities tool credentials protocol candidates hosts found = (do
      let found ← (hosts.map fun host =>
        (host, probe tool credentials protocol candidates host)).foldlM
          (fun found (host, dialogue) => return found.insert host (← dialogue)) found
      Dialogue.report .probingCompleted
      return found) := by
  -- As above, the map is built up from the left.
  induction hosts generalizing found with
  | nil => rfl
  | cons host rest ih =>
    rw [List.map_cons, List.foldlM_cons, capabilities]
    simp only [probe, bind_assoc, pure_bind, ih]

end RemoteTool

/-- The tool keeps hosts separate, since its arguments choose the session. -/
theorem separates_remoteTool (tool : Tool) (credentials : Credentials) (protocol : Protocol) :
    (remoteTool tool credentials protocol).Separates RemoteTool.hostOf where
  exec := RemoteTool.concerns_exec tool credentials false
  batch := RemoteTool.concerns_batch tool credentials
  capabilities candidates := by
    -- The dialogues of the hosts are probed one by one, each in its own session.
    refine ⟨RemoteTool.probe tool credentials protocol candidates, fun hosts distinct host => ?_⟩
    have seen := seen_hold .oneByOne (seated_hosts
      (RemoteTool.concerns_probe tool credentials protocol candidates) distinct) host
    -- The report at the end changes nothing about what was found.
    exact seen.of_whole fun handler memory => by
      simp only [remoteTool, RemoteTool.capabilities_eq_foldlM, reach_bind, reach_report,
        reach_pure, Pacing.hold]

end BmcTelemetry.Transport
