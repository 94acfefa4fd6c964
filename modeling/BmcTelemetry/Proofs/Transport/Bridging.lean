import BmcTelemetry.Proofs.Transport.Probing

/-!
Bridging: where a candidate is asked for when a host is probed, and where when it is collected from.

A batch over the network bridges whenever there is a target, and probing only for the node manager.
-/

namespace BmcTelemetry

open Dialogue (Course)

namespace Tool

variable {tool : Tool} {session : List String} {bridged : Bool} {request : Request}
  {requests : List Request} {runs : List (Exchange processes)}

/-- Requests to one target are told apart from requests to another by the arguments. -/
theorem invocation_inj {other : Bool} :
    tool.invocation session bridged request = tool.invocation session other request ↔
      tool.destination bridged request = tool.destination other request := by
  -- The program, the session and the request are the same, so only the target can differ.
  rw [invocation, invocation, Invocation.mk.injEq, eq_self, true_and, List.append_cancel_left_eq,
    rawArguments_eq_iff]
  exact and_iff_left rfl

/-- There is nothing to bridge to if neither the tool nor the request names a slave. -/
theorem bridgeFor_eq_none :
    tool.bridgeFor request = none ↔ tool.bridge.slave = 0 ∧ request.slave = 0 := by
  -- The tool's own bridge comes first, and a slave of zero stands for none.
  by_cases configured : tool.bridge.slave = 0
  · by_cases own : request.slave = 0 <;> simp [bridgeFor, Bridge.isSet, configured, own]
  · simp [bridgeFor, Bridge.isSet, configured]

/-- Bridging makes no difference exactly where there is nothing to bridge to. -/
theorem invocation_bridged_iff :
    tool.invocation session true request = tool.invocation session bridged request ↔
      bridged = true ∨ tool.bridge.slave = 0 ∧ request.slave = 0 := by
  rw [invocation_inj, ← bridgeFor_eq_none]
  -- Probing either bridges as collecting does, or it does not bridge at all.
  cases bridged with
  | true => simp
  | false =>
    -- What is not bridged goes to the controller, which no bridge leads to.
    simp only [destination, if_true, Bool.false_eq_true, if_false, false_or]
    cases tool.bridgeFor request <;> simp

/-- The run for a request is found in the request's place. -/
theorem Asked.getElem? (asked : tool.Asked session bridged requests runs)
    (passes : tool.passes session = true) {place : Nat} (found : requests[place]? = some request) :
    ∃ run, runs[place]? = some run ∧ run.query = tool.invocation session bridged request := by
  -- There are as many runs as requests, in the same order.
  rw [Asked, if_pos passes, List.forall₂_iff_get] at asked
  obtain ⟨inside, rfl⟩ := List.getElem?_eq_some_iff.mp found
  have covered := asked.1 ▸ inside
  exact ⟨runs[place], List.getElem?_eq_getElem covered, asked.2 place inside covered⟩

/-- The candidates that are kept, each with the run that shows that it is supported. -/
def keptRuns (candidates : List Description) (runs : List (Exchange processes)) :
    List (Description × Exchange processes) :=
  (candidates.zip runs).filter fun (_, run) => shows run

/-- What is kept with a run is what is chosen by the runs. -/
theorem map_keptRuns (candidates : List Description) :
    (keptRuns candidates runs).map Prod.fst = chosen candidates (runs.map shows) := by
  -- Zipping with the mapped decisions is mapping the zipped runs.
  rw [keptRuns, chosen, List.zip_map_right, List.filter_map, List.map_map]
  rfl

/-- A candidate is kept with the run by which it was asked for. -/
theorem Asked.query_of_kept {candidates : List Description}
    (asked : tool.Asked session bridged (candidates.map (·.request)) runs)
    {candidate : Description} {probe : Exchange processes}
    (kept : (candidate, probe) ∈ keptRuns candidates runs) :
    tool.passes session = true ∧ probe.query = tool.invocation session bridged candidate.request := by
  have paired : (candidate, probe) ∈ candidates.zip runs := (List.mem_filter.mp kept).1
  rw [Asked] at asked
  -- Without anything that is passed on there are no runs.
  split at asked
  next passes =>
    -- Each run of the two lists is for the candidate in its place.
    rw [List.forall₂_map_left_iff, List.forall₂_iff_zip] at asked
    exact ⟨passes, asked.2 paired⟩
  next refused =>
    -- Nothing is kept where nothing was asked.
    rw [asked, List.zip_nil_right] at paired
    cases paired

end Tool

namespace Transport.RemoteTool

variable (tool : Tool) (credentials : Credentials) (protocol : Protocol)

/-- A batch bridges each of its requests. -/
theorem course_batch {host : String} {requests : List Request} {runs : List (Exchange processes)}
    {outcome : Except IpmiError (List Response)}
    (course : Course (batch tool credentials host requests) runs outcome) :
    tool.Asked (sessionArguments credentials host) true requests runs := by
  -- Apart from asking for each request, a batch only reports.
  obtain ⟨runs, answers, _, asked, ended, rfl⟩ := Dialogue.course_bind_iff.mp course
  obtain ⟨rfl, _⟩ := Dialogue.course_report_bind_pure_iff.mp ended
  rw [List.append_nil]
  exact (course_mapM_exec asked).1

/--
A candidate is collected by the command by which it was probed exactly for the node manager, or
where neither the tool nor the request names a slave to bridge to.

Whatever the host answers to the probing and later on, the runs of a batch are in the places of
what was found, and only the target that they name may differ from that of the probing.
-/
theorem collected_as_probed_iff (candidates : List Description) {hosts : List String}
    {host : String} (listed : host ∈ hosts) {σ : Type} (handler : Dialogue.Handler processes σ)
    (memory : σ) :
    let probing := (remoteTool tool credentials protocol).capabilities candidates hosts
    ∃ runs found, runs <:+: probing.transcript handler memory ∧
      (probing.run handler memory).1[host]? = some found ∧
      tool.Probes (sessionArguments credentials host) (protocol == .nodeManager) protocol
        candidates runs found ∧
      ∀ {τ : Type} (later : Dialogue.Handler processes τ) (remembered : τ) (place : Nat)
        (candidate : Description) (probe : Exchange processes),
        (Tool.keptRuns candidates runs)[place]? = some (candidate, probe) →
        found[place]? = some candidate ∧
        ∃ run, (((remoteTool tool credentials protocol).batch host
            (found.map (·.request))).transcript later remembered)[place]? = some run ∧
          (run.query = probe.query ↔
            protocol = .nodeManager ∨ tool.bridge.slave = 0 ∧ candidate.request.slave = 0) := by
  intro probing
  -- The host's part of the probing, which also says where what was found was asked for.
  obtain ⟨runs, found, within, probes, held⟩ := (course_capabilities (Dialogue.course_run handler
    (capabilities tool credentials protocol candidates hosts ∅) memory)).1 host listed
  refine ⟨runs, found, within, held, probes, fun later remembered place candidate probe kept => ?_⟩
  obtain ⟨passes, probed⟩ := probes.asked.query_of_kept (List.mem_of_getElem? kept)
  -- What is found starts with what was kept, in the same places.
  have located : found[place]? = some candidate := by
    obtain ⟨discovered, _, rfl⟩ := probes.kept
    have chose : (chosen candidates (runs.map Tool.shows))[place]? = some candidate := by
      rw [← Tool.map_keptRuns, List.getElem?_map, kept]
      rfl
    rw [List.getElem?_append_left (List.getElem?_eq_some_iff.mp chose).1, chose]
  -- The batch asks in the same order, so the candidate's run is in the candidate's place.
  have asked := course_batch tool credentials (Dialogue.course_run later
    (batch tool credentials host (found.map (·.request))) remembered)
  obtain ⟨run, ran, collected⟩ := asked.getElem? passes
    (show (found.map (·.request))[place]? = some candidate.request by
      rw [List.getElem?_map, located]
      rfl)
  -- Both runs are for the same request in the same session, so only bridging tells them apart.
  refine ⟨located, run, ran, ?_⟩
  rw [collected, probed]
  -- The node manager is the family for which probing bridges too.
  refine Tool.invocation_bridged_iff.trans ?_
  rw [beq_iff_eq]

/-- A tool that is configured to bridge to a slave. -/
def bridgingTool : Tool := { program := "ipmitool", bridge := { channel := 6, slave := 0x2c } }

/-- Someone who may ask. -/
def operator : Credentials := { user := "admin", password := "secret" }

/-- A machine on which every run of a program prints one byte. -/
def printing : Dialogue.Handler processes Unit :=
  fun _ memory => (.ended true (Tool.asciiBytes "dc".toList) [], memory)

/-- With a bridge, no candidate outside the node manager is collected as it was probed. -/
theorem collected_as_probed_never :
    let transport := remoteTool bridgingTool operator .ipmi
    let probing := transport.capabilities (Catalog.vendor .ipmi) ["bmc"]
    let collecting := transport.batch "bmc" ((Catalog.vendor .ipmi).map (·.request))
    "bmc" ∈ ["bmc"] ∧ ∃ runs, runs <:+: probing.transcript printing () ∧
      (Tool.keptRuns (Catalog.vendor .ipmi) runs).map Prod.fst = Catalog.vendor .ipmi ∧
      ∀ (place : Nat) (candidate : Description) (probe : Exchange processes),
        (Tool.keptRuns (Catalog.vendor .ipmi) runs)[place]? = some (candidate, probe) →
        ∃ run, (collecting.transcript printing ())[place]? = some run ∧ run.query ≠ probe.query := by
  intro transport probing collecting
  -- The host is the only one, and it is probed.
  have listed : "bmc" ∈ ["bmc"] := List.mem_singleton_self _
  obtain ⟨runs, found, within, held, probes, each⟩ := collected_as_probed_iff bridgingTool operator
    .ipmi (Catalog.vendor .ipmi) listed printing ()
  -- The power reading is answered with one byte, which counts as support.
  have known : (probing.run printing ()).1["bmc"]? = some (Catalog.vendor .ipmi) := by
    decide +kernel
  obtain rfl : Catalog.vendor .ipmi = found := Option.some.inj (known.symm.trans held)
  refine ⟨listed, runs, within, ?_, fun place candidate probe kept => ?_⟩
  · -- There is no inlet to discover, so all that was found was kept by its run.
    obtain ⟨discovered, nothing | ⟨other, _⟩, same⟩ := probes.kept
    · rw [nothing, List.append_nil] at same
      rw [Tool.map_keptRuns, ← same]
    · cases other
  -- Had the two runs been the same, the family or the target would have to be another one.
  · obtain ⟨_, run, ran, target⟩ := each printing () place candidate probe kept
    refine ⟨run, ran, fun same => ?_⟩
    rcases target.mp same with other | ⟨unset, _⟩
    · cases other
    · exact absurd unset (by decide)

/-- With a bridge, the power reading is probed at the controller and collected from the slave. -/
theorem collected_elsewhere :
    let transport := remoteTool bridgingTool operator .ipmi
    let probing := transport.capabilities (Catalog.vendor .ipmi) ["bmc"]
    let collecting := transport.batch "bmc" ((Catalog.vendor .ipmi).map (·.request))
    let session := ["-I", "lanplus", "-H", "bmc", "-U", "admin", "-P", "secret"]
    let reading := ["raw", "0x2c", "0x02", "0xdc", "0x01", "0x00", "0x00"]
    (probing.run printing ()).1["bmc"]? = some (Catalog.vendor .ipmi) ∧
      (probing.transcript printing ()).map (·.query)
        = [(⟨"ipmitool", session ++ reading⟩ : Invocation)] ∧
      (collecting.transcript printing ()).map (·.query)
        = [(⟨"ipmitool", session ++ ["-b", "6", "-t", "0x2c"] ++ reading⟩ : Invocation)] := by
  intro transport probing collecting session reading
  -- The found candidates and both transcripts are computed.
  refine ⟨?_, ?_, ?_⟩
  · decide +kernel
  · rfl
  · rfl

end Transport.RemoteTool

end BmcTelemetry
