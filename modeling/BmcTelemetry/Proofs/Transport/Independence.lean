import BmcTelemetry.Proofs.Transport.Probing
import Mathlib.Tactic.Tauto

/-!
Independence of candidates: what the decision about one of them has to do with the others.

The tool is run for each candidate, so decisions are independent. A batch of the driver comes
through as a whole, so one failing call decides against every candidate.
-/

namespace BmcTelemetry

/-- Two lists differ in one place at most. -/
def AlikeBut {α : Type} (place : Nat) (first second : List α) : Prop :=
  ∀ other, other ≠ place → first[other]? = second[other]?

/-- What is made of each element differs in one place at most if the elements do. -/
theorem AlikeBut.map {α β : Type} {place : Nat} {first second : List α}
    (alike : AlikeBut place first second) (make : α → β) :
    AlikeBut place (first.map make) (second.map make) := by
  -- Both lists are mapped place by place.
  intro other differs
  rw [List.getElem?_map, List.getElem?_map, alike other differs]

namespace Transport

variable {I : Interface}

/-- In a run of probing, a part of the exchanges led to decisions about a host's candidates. -/
structure Decides (transport : Transport I) (protocol : Protocol) (candidates : List Description)
    (hosts : List String) (host : String) {σ : Type} (handler : Dialogue.Handler I σ) (memory : σ)
    (spent : List (Exchange I)) (decisions : List Bool) : Prop where
  /-- The exchanges are a part of the run. -/
  within : spent <:+: (transport.capabilities candidates hosts).transcript handler memory
  /-- What is found of the host was decided about, apart from a discovery. -/
  kept : ∃ found, ((transport.capabilities candidates hosts).run handler memory).1[host]?
    = some found ∧ Kept protocol candidates decisions found

/-- The tool on the machine itself decides about each candidate by the candidate's own run. -/
theorem LocalTool.decides (tool : Tool) (protocol : Protocol) (machine : String)
    (candidates : List Description) (hosts : List String) {σ : Type}
    (handler : Dialogue.Handler processes σ) (memory : σ) :
    ∃ runs, tool.Asked [] true (candidates.map (·.request)) runs ∧
      (localTool tool protocol machine).Decides protocol candidates hosts
        (localHost machine hosts) handler memory runs (runs.map Tool.shows) := by
  -- The runs for the candidates come first, and one host is all that is known afterwards.
  obtain ⟨runs, rest, found, split, probes, result⟩ := course_capabilities
    (Dialogue.course_run handler (capabilities tool protocol machine candidates hosts) memory)
  refine ⟨runs, probes.asked, ?_, found, ?_, probes.kept⟩
  · exact ⟨[], rest, split.symm⟩
  · exact (congrArg (·[localHost machine hosts]?) result).trans
      Std.TreeMap.getElem?_insert_self

/-- The tool decides about each candidate on a host by the candidate's own run there. -/
theorem RemoteTool.decides (tool : Tool) (credentials : Credentials) (protocol : Protocol)
    (candidates : List Description) {hosts : List String} {host : String} (listed : host ∈ hosts)
    {σ : Type} (handler : Dialogue.Handler processes σ) (memory : σ) :
    ∃ runs, tool.Asked (sessionArguments credentials host) (protocol == .nodeManager)
        (candidates.map (·.request)) runs ∧
      (remoteTool tool credentials protocol).Decides protocol candidates hosts host handler memory
        runs (runs.map Tool.shows) := by
  -- The host is probed within the run, by runs of its own.
  obtain ⟨runs, found, within, probes, held⟩ := (course_capabilities (Dialogue.course_run handler
    (capabilities tool credentials protocol candidates hosts ∅) memory)).1 host listed
  exact ⟨runs, probes.asked, within, found, held, probes.kept⟩

namespace KernelDriver

variable {device : String} {candidates : List Description}

/-- The driver decides about all candidates by the batch that it is sent first. -/
theorem decides (device : String) (protocol : Protocol) (machine : String)
    (candidates : List Description) (hosts : List String) {σ : Type}
    (handler : Dialogue.Handler Driver.kernel σ) (memory : σ) :
    let spent := (batch device protocol (candidates.map (·.request))).transcript handler memory
    (kernelDriver device protocol machine).Decides protocol candidates hosts
      (localHost machine hosts) handler memory spent (decisions device candidates spent) := by
  -- Probing starts with the batch, so what the batch spends comes first.
  obtain ⟨first, found, kept, result⟩ :=
    run_capabilities device protocol candidates machine hosts handler memory
  refine ⟨first.isInfix, found, ?_, kept⟩
  exact (congrArg (·[localHost machine hosts]?) result).trans Std.TreeMap.getElem?_insert_self

/-- The decision about a candidate: whether the batch came through and brought it an answer. -/
theorem getElem?_decisions (spent : List (Exchange Driver.kernel)) {place : Nat}
    (inside : place < candidates.length) :
    (decisions device candidates spent)[place]?
      = some (decide (Driver.CameThrough device (candidates.map (·.request)) spent ∧
          Driver.Answered spent place)) := by
  -- Inside the candidates there is a decision for each place.
  rw [decisions, List.getElem?_map, List.getElem?_range inside]
  rfl

/-- There are no decisions beyond the candidates. -/
theorem getElem?_decisions_past (spent : List (Exchange Driver.kernel)) {place : Nat}
    (outside : candidates.length ≤ place) :
    (decisions device candidates spent)[place]? = none := by
  -- The decisions are as many as the candidates.
  rw [decisions, List.getElem?_map, List.getElem?_eq_none (by simpa using outside)]
  rfl

/--
Two batches that answer all candidates but one alike decide alike about those others exactly if
both come through or neither does, or if neither of them keeps any of the others anyway.
-/
theorem alikeBut_decisions_iff {place : Nat} {spent again : List (Exchange Driver.kernel)}
    (alike : Driver.CameThrough device (candidates.map (·.request)) spent →
      Driver.CameThrough device (candidates.map (·.request)) again →
      ∀ other < candidates.length, other ≠ place →
        (Driver.Answered spent other ↔ Driver.Answered again other)) :
    AlikeBut place (decisions device candidates spent) (decisions device candidates again) ↔
      (Driver.CameThrough device (candidates.map (·.request)) spent ↔
        Driver.CameThrough device (candidates.map (·.request)) again) ∨
      ∀ other, other ≠ place → (decisions device candidates spent)[other]? ≠ some true ∧
        (decisions device candidates again)[other]? ≠ some true := by
  -- A batch that does not come through decides against everybody, so it agrees with another one
  -- about the others only if that one decides against them as well.
  have agree : ∀ other < candidates.length,
      ((decisions device candidates spent)[other]? = (decisions device candidates again)[other]? ↔
        (Driver.CameThrough device (candidates.map (·.request)) spent ∧
          Driver.Answered spent other ↔
        Driver.CameThrough device (candidates.map (·.request)) again ∧
          Driver.Answered again other)) := by
    intro other inside
    rw [getElem?_decisions spent inside, getElem?_decisions again inside, Option.some.injEq,
      decide_eq_decide]
  have against : ∀ (exchanges : List (Exchange Driver.kernel)), ∀ other < candidates.length,
      ((decisions device candidates exchanges)[other]? ≠ some true ↔
        ¬(Driver.CameThrough device (candidates.map (·.request)) exchanges ∧
          Driver.Answered exchanges other)) := by
    intro exchanges other inside
    rw [getElem?_decisions exchanges inside, ne_eq, Option.some.injEq, decide_eq_true_iff]
  constructor
  · -- Where only one batch comes through, the other one's decisions are all against.
    intro same
    by_cases both : Driver.CameThrough device (candidates.map (·.request)) spent ↔
        Driver.CameThrough device (candidates.map (·.request)) again
    · exact .inl both
    · refine .inr fun other differs => ?_
      by_cases inside : other < candidates.length
      · have equally := (agree other inside).mp (same other differs)
        rw [against spent other inside, against again other inside]
        tauto
      -- Beyond the candidates there is no decision either way.
      · simp [getElem?_decisions_past _ (Nat.le_of_not_lt inside)]
  · -- Where both come through, each of the others is answered in both or in neither.
    intro either other differs
    -- Only places of candidates matter, as there are no other decisions.
    by_cases inside : other < candidates.length
    · rw [agree other inside]
      -- Either both came through or neither, or nobody else was kept.
      rcases either with both | nobody
      · have answered := fun first second => alike first second other inside differs
        tauto
      · obtain ⟨first, second⟩ := nobody other differs
        rw [against spent other inside] at first
        rw [against again other inside] at second
        tauto
    -- Beyond the candidates both have nothing to say.
    · rw [getElem?_decisions_past spent (Nat.le_of_not_lt inside),
        getElem?_decisions_past again (Nat.le_of_not_lt inside)]

end KernelDriver

/--
Whether a candidate is kept depends on what becomes of its own request, except with the driver.

Each transport keeps some of the candidates, in their order, and at most an inlet sensor behind
them. With the tool, on the machine itself or over the network, there is a run for each candidate,
which decides about it, so two behaviours of the tool that differ in one run lead to the same
decisions about all others. The driver is sent one batch, and a candidate is kept if the batch comes
through and brings it an answer. So two behaviours of the driver that differ for one candidate lead
to the same decisions about the others exactly if the batch comes through in both cases or in
neither, or if none of the others is kept in either case.
-/
theorem probing_independence (protocol : Protocol) (candidates : List Description)
    (hosts : List String) :
    (∀ decisions, (chosen candidates decisions).Sublist candidates) ∧
    (∀ (tool : Tool) (machine : String) {σ τ : Type} (first : Dialogue.Handler processes σ)
      (memory : σ) (second : Dialogue.Handler processes τ) (state : τ),
      let transport := localTool tool protocol machine
      let host := localHost machine hosts
      ∃ runs others,
        tool.Asked [] true (candidates.map (·.request)) runs ∧
        tool.Asked [] true (candidates.map (·.request)) others ∧
        transport.Decides protocol candidates hosts host first memory runs
          (runs.map Tool.shows) ∧
        transport.Decides protocol candidates hosts host second state others
          (others.map Tool.shows) ∧
        ∀ place, AlikeBut place runs others →
          AlikeBut place (runs.map Tool.shows) (others.map Tool.shows)) ∧
    (∀ (tool : Tool) (credentials : Credentials), ∀ host ∈ hosts, ∀ {σ τ : Type}
      (first : Dialogue.Handler processes σ) (memory : σ) (second : Dialogue.Handler processes τ)
      (state : τ),
      let transport := remoteTool tool credentials protocol
      let session := RemoteTool.sessionArguments credentials host
      ∃ runs others,
        tool.Asked session (protocol == .nodeManager) (candidates.map (·.request)) runs ∧
        tool.Asked session (protocol == .nodeManager) (candidates.map (·.request)) others ∧
        transport.Decides protocol candidates hosts host first memory runs
          (runs.map Tool.shows) ∧
        transport.Decides protocol candidates hosts host second state others
          (others.map Tool.shows) ∧
        ∀ place, AlikeBut place runs others →
          AlikeBut place (runs.map Tool.shows) (others.map Tool.shows)) ∧
    ∀ (device machine : String) {σ τ : Type} (first : Dialogue.Handler Driver.kernel σ)
      (memory : σ) (second : Dialogue.Handler Driver.kernel τ) (state : τ),
      let transport := kernelDriver device protocol machine
      let host := localHost machine hosts
      let requests := candidates.map (·.request)
      let decided := KernelDriver.decisions device candidates
      let spent := (transport.batch host requests).transcript first memory
      let again := (transport.batch host requests).transcript second state
      transport.Decides protocol candidates hosts host first memory spent (decided spent) ∧
      transport.Decides protocol candidates hosts host second state again (decided again) ∧
      ∀ place,
        (Driver.CameThrough device requests spent → Driver.CameThrough device requests again →
          ∀ other < candidates.length, other ≠ place →
            (Driver.Answered spent other ↔ Driver.Answered again other)) →
        (AlikeBut place (decided spent) (decided again) ↔
          (Driver.CameThrough device requests spent ↔ Driver.CameThrough device requests again) ∨
          ∀ other, other ≠ place →
            (decided spent)[other]? ≠ some true ∧ (decided again)[other]? ≠ some true) := by
  refine ⟨chosen_sublist candidates, ?_, ?_, ?_⟩
  · -- A decision is made of its own run, so runs that are the same decide the same.
    intro tool machine σ τ first memory second state transport host
    obtain ⟨runs, asked, decided⟩ :=
      LocalTool.decides tool protocol machine candidates hosts first memory
    obtain ⟨others, askedToo, decidedToo⟩ :=
      LocalTool.decides tool protocol machine candidates hosts second state
    exact ⟨runs, others, asked, askedToo, decided, decidedToo, fun _ alike => alike.map _⟩
  -- Over the network the same goes for each host and its own session.
  · intro tool credentials host listed σ τ first memory second state transport session
    obtain ⟨runs, asked, decided⟩ :=
      RemoteTool.decides tool credentials protocol candidates listed first memory
    obtain ⟨others, askedToo, decidedToo⟩ :=
      RemoteTool.decides tool credentials protocol candidates listed second state
    exact ⟨runs, others, asked, askedToo, decided, decidedToo, fun _ alike => alike.map _⟩
  · -- The driver is not asked about one candidate after another, so only the batch decides.
    intro device machine σ τ first memory second state transport host requests decided spent again
    exact ⟨KernelDriver.decides device protocol machine candidates hosts first memory,
      KernelDriver.decides device protocol machine candidates hosts second state,
      fun _ alike => KernelDriver.alikeBut_decisions_iff alike⟩

/-- The error of a device that is busy. -/
def busy : OsError := .reported 16

/-- A driver that refuses to send messages under one number and otherwise does as another does. -/
def refusing (refused : Nat) {σ : Type} (handler : Dialogue.Handler Driver.kernel σ) :
    Dialogue.Handler Driver.kernel σ :=
  fun call memory => match call with
    | Driver.Call.send id address data =>
      if id = refused then ((.error busy : Except OsError Unit), memory)
      else handler (Driver.Call.send id address data) memory
    | other => handler other memory

/-- A driver that delivers the newest answer first and answers everything with success. -/
def willing : Dialogue.Handler Driver.kernel (List Driver.Message) :=
  Driver.newestFirst fun _ _ => [0x00]

/-- If the first of all node manager requests is refused, the eleven others are lost with it. -/
theorem refused_send_loses_others :
    let probing := (kernelDriver "/dev/ipmi0" .nodeManager "node").capabilities
      (Catalog.vendor .nodeManager) []
    (probing.run willing []).1["node"]? = some (Catalog.vendor .nodeManager) ∧
      (probing.run (refusing 0 willing) []).1["node"]? = some [] := by
  intro probing
  -- The batch that is refused a send goes on to the end and fails only then.
  have all : (probing.run willing []).1
      = (∅ : Capabilities).insert "node" (Catalog.vendor .nodeManager) := by rfl
  have none : (probing.run (refusing 0 willing) []).1
      = (∅ : Capabilities).insert "node" [] := by rfl
  -- Both results are maps with one host in them.
  rw [all, none]
  exact ⟨Std.TreeMap.getElem?_insert_self, Std.TreeMap.getElem?_insert_self⟩

end Transport

end BmcTelemetry
