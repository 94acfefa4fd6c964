import BmcTelemetry.Proofs.Sensor.Alike
import BmcTelemetry.Proofs.Transport.Answers

/-!
Agreement of transports: what is found out about a host depends on its controller alone.

The kernel driver hands over every answer, in any order; the tool prints the payloads of successes
and tells nothing else of a failure. The collector makes the same of both.
-/

namespace BmcTelemetry

open Driver (Address)

namespace Metrics

/-- The values that an answer contributes to a lenient reading. -/
def lenient (description : Description) (response : Response) : Submetrics :=
  match Format.validate response with
  | .ok () => description.format.parse response
  | .error _ => description.format.sentinels Format.invalidValue

/-- Metrics with values below roots, one after another. -/
def addValues (metrics : Metrics) (values : List (String × Submetrics)) : Metrics :=
  values.foldl (fun found (root, below) => found.add root below) metrics

/-- A lenient reading takes every answer. -/
theorem addAll_lenient (metrics : Metrics) (answers : List (Description × Response)) :
    addAll false metrics answers = .ok (metrics.addValues (answers.map
      fun (description, response) => (description.root, lenient description response))) := by
  -- No answer is refused, so each one adds its values to those before.
  induction answers generalizing metrics with
  | nil => rfl
  | cons answer rest ih =>
    obtain ⟨description, response⟩ := answer
    have taken : contribution false description response = .ok (lenient description response) := by
      -- The answer is valid or not, and a lenient reading has a case for each.
      rw [contribution, lenient]
      cases Format.validate response <;> rfl
    rw [addAll, taken]
    exact ih _

/-- Alike answers contribute the same. -/
theorem lenient_alike (description : Description) {first second : Bytes}
    (alike : (Response.answered first).Alike (.answered second)) :
    lenient description (.answered first) = lenient description (.answered second) := by
  rcases alike with same | ⟨failed, alsoFailed⟩
  -- The same answer is read the same.
  · rw [same]
  · -- Whatever a failure says, every declared value counts as invalid.
    have invalid : ∀ data : Bytes, (Response.answered data).completionCode ≠ some 0 →
        lenient description (.answered data)
          = description.format.sentinels Format.invalidValue := by
      intro data bad
      rw [lenient]
      split
      next passed =>
        unfold Format.validate at passed
        -- An answered response is vouched for, so the check looks at its completion code.
        rw [if_neg (by simp [Response.answered])] at passed
        split at passed
        next => cases passed
        next good => exact absurd good bad
        next => cases passed
      next => rfl
    -- Both answers are failures, so both are read as the same invalid values.
    rw [invalid first failed, invalid second alsoFailed]

end Metrics

namespace Tool

/-- What the tool shows of an answer is as good as the answer. -/
theorem alike_heard (answer : Bytes) :
    (Response.answered (heard answer)).Alike (.answered answer) := by
  -- A success is shown whole, and what is left of a failure is no success either.
  rw [heard]
  split
  next => exact .inl rfl
  next failed => exact .inr ⟨by simp [Response.answered, Response.completionCode], failed⟩

end Tool

namespace Transport

/-- The answers of a controller that is asked without anything in between. -/
def straight (bmc : Address → Bytes → Bytes) : controller.Answers := fun (request : Request) =>
  (.ok (.answered (bmc .controller request.data)) : Except IpmiError Response)

variable {bmc : Address → Bytes → Bytes}

/-- An answer that there is room for is handed over whole. -/
theorem answerOf_eq (bounded : ∀ address data, (bmc address data).length ≤ Driver.receiveCapacity)
    (addressing : Driver.Addressing) (request : Request) :
    Driver.answerOf bmc addressing request
      = .answered (bmc (addressing.address request) request.data) := by
  -- The capacity is not exceeded, so nothing is cut off.
  rw [Driver.answerOf, List.take_of_length_le (bounded _ _)]

/-- The driver answers like the controller itself. -/
theorem KernelDriver.alike_answer
    (bounded : ∀ address data, (bmc address data).length ≤ Driver.receiveCapacity) :
    Controller.Alike (answer bmc) (straight bmc) := by
  intro request proper
  -- The driver's answer is the controller's own, and as alike as can be.
  refine ⟨_, _, ?_, rfl, .inl rfl⟩
  change answer bmc request = _
  rw [answer, if_neg (Nat.not_lt.mpr proper), answerOf_eq bounded]
  rfl

/-- The tool on the machine itself answers like the controller. -/
theorem LocalTool.alike_answer : Controller.Alike
    (fun request : Request => .ok (.answered (Tool.heard (bmc .controller request.data))))
    (straight bmc) :=
  fun _ _ => ⟨_, _, rfl, rfl, Tool.alike_heard _⟩

/-- The tool in a session with a host answers like the controller. -/
theorem RemoteTool.alike_answer {tool : Tool} {credentials : Credentials} {host : String}
    (passable : (tool.program :: sessionArguments credentials host).all
      (fun text => !Text.holdsZero text) = true) :
    Controller.Alike (answer tool credentials host bmc .controller) (straight bmc) := by
  intro request _
  -- Nothing keeps the tool from being run, and what is heard is alike.
  exact ⟨_, _, if_pos passable, rfl, Tool.alike_heard _⟩

end Transport

namespace Collector

open Transport (straight)

variable {I : Interface} {Fair : List (Exchange I) → Prop} {α : Type}

/-- What there is to be found out about a host. -/
structure Findings where
  /-- The metrics, where answers that cannot be decoded count as invalid values. -/
  metrics : Metrics
  /-- The inventory. -/
  inventory : Inventory
  /-- The health. -/
  health : ComponentHealth

/-- What is to be found out from a controller that is asked without anything in between. -/
def Findings.direct (bmc : Address → Bytes → Bytes) (host : String)
    (descriptions : List Description) : Findings where
  metrics := (∅ : Metrics).addValues (descriptions.map fun description =>
    (description.root, Metrics.lenient description
      (.answered (bmc description.request.target description.request.data))))
  inventory := (inventoryOf host).eval (straight bmc)
  health := (healthOf host).eval (straight bmc)

/--
A collector finds these things out about a host, whatever fair surroundings answer.

The metrics are those of a lenient collection, with the given descriptions; the inventory and the
health are those that are kept under the name of the host, whatever hosts are read along with it.
-/
structure Finds (transport : Transport I) (Fair : List (Exchange I) → Prop) (host : String)
    (descriptions : List Description) (findings : Findings) : Prop where
  /-- Collecting the host's metrics ends with these. -/
  metrics : ∀ (collector : Collector I) (snapshot : Snapshot), collector.transport = transport →
    collector.options.strict = false → snapshot.descriptions host = descriptions →
    ∀ {σ : Type} (handler : Dialogue.Handler I σ) (memory : σ),
      Fair ((collector.collectHost snapshot host).transcript handler memory) →
      ((collector.collectHost snapshot host).run handler memory).1 = .ok findings.metrics
  /-- Reading the inventories of hosts keeps this one for the host. -/
  inventory : ∀ (collector : Collector I) (hosts : List String), collector.transport = transport →
    host ∈ hosts → ∀ {σ : Type} (handler : Dialogue.Handler I σ) (memory : σ),
      Fair ((collector.readInventory hosts).transcript handler memory) →
      ((collector.readInventory hosts).run handler memory).1[host]? = some findings.inventory
  /-- Reading the health of hosts keeps this one for the host. -/
  health : ∀ (collector : Collector I) (hosts : List String), collector.transport = transport →
    host ∈ hosts → ∀ {σ : Type} (handler : Dialogue.Handler I σ) (memory : σ),
      Fair ((collector.readHealth hosts).transcript handler memory) →
      ((collector.readHealth hosts).run handler memory).1[host]? = some findings.health

/-- Where an attempt agrees, its result or the stand-in for it does. -/
theorem agrees_orElse {left right : I.Answers} {attempt : Attempt I α}
    (agrees : attempt.Agrees left right) (fallback : α) (unavailable : IpmiError → Event) :
    (orElse attempt fallback unavailable).Agrees left right := by
  rw [Dialogue.Agrees, orElse, Dialogue.eval_bind, Dialogue.eval_bind]
  -- Both sides have the result, or both fall back on the stand-in.
  rcases toOption_eq_cases agrees with ⟨value, here, there⟩ | ⟨error, other, here, there⟩
  · rw [here, there]
    rfl
  · rw [here, there]
    rfl

/-- Reports end with nothing. -/
theorem returns_reportAll (events : List Event) :
    (reportAll events : Dialogue I Unit).Returns Fair () := by
  -- One report after another is made, and none of them has an answer.
  induction events with
  | nil => exact Dialogue.returns_pure ()
  | cons event rest ih => exact Dialogue.returns_report_bind event ih

/-- A batch that brings back answers like the controller's own yields the metrics. -/
theorem returns_collectHost {collector : Collector I} {snapshot : Snapshot} {host : String}
    {bmc : Address → Bytes → Bytes} (splits : Splits Fair)
    (lenient : collector.options.strict = false) {got : Request → Bytes}
    (answered : (collector.transport.batch host
        ((snapshot.descriptions host).map (·.request))).Returns Fair
      (.ok (((snapshot.descriptions host).map (·.request)).map fun request =>
        .answered (got request))))
    (alike : ∀ description ∈ snapshot.descriptions host,
      (Response.answered (got description.request)).Alike
        (.answered (bmc description.request.target description.request.data))) :
    (collector.collectHost snapshot host).Returns Fair
      (.ok (Findings.direct bmc host (snapshot.descriptions host)).metrics) := by
  -- Descriptions and answers are as many, so they are paired place by place.
  have zipped : (snapshot.descriptions host).zip
      (((snapshot.descriptions host).map (·.request)).map fun request => .answered (got request))
        = (snapshot.descriptions host).map fun description =>
            (description, Response.answered (got description.request)) := by
    have paired := List.zip_map' (f := id) (l := snapshot.descriptions host)
      (g := fun description => Response.answered (got description.request))
    rw [List.map_id] at paired
    rw [List.map_map]
    exact paired
  -- What is reported about the answers changes nothing about them.
  refine answered.bind splits ((returns_reportAll _).bind splits ?_)
  rw [lenient, zipped, Metrics.addAll_lenient, List.map_map, Findings.direct]
  -- Each description contributes the same as it does when the controller itself answers.
  have same : ∀ description ∈ snapshot.descriptions host,
      (description.root, Metrics.lenient description (.answered (got description.request)))
        = (description.root, Metrics.lenient description
            (.answered (bmc description.request.target description.request.data))) :=
    fun description member => by rw [Metrics.lenient_alike description (alike description member)]
  rw [← List.map_congr_left same]
  exact Dialogue.returns_pure _

/-- A transport that brings back answers like the controller's own finds what there is to find. -/
theorem finds_direct {transport : Transport I} {answers : String → controller.Answers}
    (splits : Splits Fair) (brings : transport.Brings Fair answers) {host : String}
    {bmc : Address → Bytes → Bytes} (alike : Controller.Alike (answers host) (straight bmc))
    {descriptions : List Description} {got : Request → Bytes}
    (answered : (transport.batch host (descriptions.map (·.request))).Returns Fair
      (.ok ((descriptions.map (·.request)).map fun request => .answered (got request))))
    (batched : ∀ description ∈ descriptions, (Response.answered (got description.request)).Alike
      (.answered (bmc description.request.target description.request.data))) :
    Finds transport Fair host descriptions (.direct bmc host descriptions) where
  metrics := by
    rintro collector snapshot rfl lenient rfl σ handler memory fair
    -- The batch is the only part of a collection that asks for anything.
    exact (returns_collectHost splits lenient answered batched).run fair
  inventory := by
    rintro collector hosts rfl member σ handler memory fair
    -- The conversation with this host ends as its answers let it, whoever else is talked to.
    obtain ⟨found, returned, entry⟩ := brings.converseWithAll splits inventoryOf hosts
    have same := agrees_orElse (Inventory.agrees_read alike host) .unknown
      (.inventoryUnavailable host)
    rw [readInventory, returned.run fair, entry host member]
    exact congrArg some same
  health := by
    rintro collector hosts rfl member σ handler memory fair
    -- As for the inventory, each host's conversation is its own.
    obtain ⟨found, returned, entry⟩ := brings.converseWithAll splits healthOf hosts
    have same := agrees_orElse (ComponentHealth.agrees_read alike host) .unknown
      (.healthUnavailable host)
    rw [readHealth, returned.run fair, entry host member]
    exact congrArg some same

/-- A description that a platform may be found to answer, by command family. -/
def Offered (protocol : Protocol) (description : Description) : Prop :=
  description ∈ Catalog.vendor protocol ∨
    (protocol = .dcmi ∧ ∃ sensor, description = Catalog.inletTemperature sensor)

/-- The driver addresses what is offered where the request itself says, and none is too short. -/
theorem Offered.proper {protocol : Protocol} {description : Description}
    (offered : Offered protocol description) :
    (Transport.KernelDriver.addressing protocol).address description.request
        = description.request.target ∧ 2 ≤ description.request.data.length := by
  -- The description is one of the catalog or that of an inlet.
  rcases offered with listed | ⟨rfl, sensor, rfl⟩
  · -- What is listed for the node manager names its slave, and nothing else names any.
    have each : ∀ candidate ∈ Catalog.vendor protocol,
        (Transport.KernelDriver.addressing protocol).address candidate.request
          = candidate.request.target ∧ 2 ≤ candidate.request.data.length := by
      cases protocol <;> decide
    exact each description listed
  · -- A discovered sensor is one of the controller's own.
    exact ⟨rfl, Catalog.two_le_sensorReading sensor⟩

/--
What a collector finds out about a host does not depend on the transport.

The controller of each host answers requests by their target and their bytes. The driver may
deliver its answers in any order; the tool shows the payload of a success and no more than failure
else, and all texts can be passed on to them. With the same descriptions, the metrics, the inventory
and the health are those of a controller that is asked without anything in between.
-/
theorem transports_agree (protocol : Protocol) (device machine host : String)
    (deviceClean : Text.holdsZero device = false) (tool : Tool)
    (unbridged : tool.bridge.isSet = false) (credentials : Transport.Credentials)
    (passable : ∀ text ∈ tool.program :: Transport.RemoteTool.sessionArguments credentials host,
      Text.holdsZero text = false)
    (bmcs : String → Address → Bytes → Bytes)
    (bounded : ∀ address data, (bmcs host address data).length ≤ Driver.receiveCapacity)
    (descriptions : List Description)
    (offered : ∀ description ∈ descriptions, Offered protocol description) :
    Finds (Transport.kernelDriver device protocol machine) (Driver.HonestDriver (bmcs host)) host
      descriptions (.direct (bmcs host) host descriptions) ∧
    Finds (Transport.localTool tool protocol machine)
      (fun exchanges => ∀ exchange ∈ exchanges, Tool.Honest tool.program [] (bmcs host) exchange)
      host descriptions (.direct (bmcs host) host descriptions) ∧
    Finds (Transport.remoteTool tool credentials protocol)
      (fun exchanges => ∀ exchange ∈ exchanges, ∀ name, Tool.Honest tool.program
        (Transport.RemoteTool.sessionArguments credentials name) (bmcs name) exchange)
      host descriptions (.direct (bmcs host) host descriptions) := by
  -- Every request that is offered is long enough for the driver.
  have proper : ∀ request ∈ descriptions.map (·.request), 2 ≤ request.data.length := by
    intro request member
    obtain ⟨description, listed, rfl⟩ := List.mem_map.mp member
    exact (offered description listed).proper.2
  have named : (tool.program :: Transport.RemoteTool.sessionArguments credentials host).all
      (fun text => !Text.holdsZero text) = true := by
    simpa only [List.all_eq_true, Bool.not_eq_true'] using passable
  refine ⟨?_, ?_, ?_⟩
  · -- The driver hands over every answer whole.
    refine finds_direct (Driver.splits_honestDriver _)
      (fun _ request => Transport.KernelDriver.returns_exec deviceClean (bmcs host) request)
      (Transport.KernelDriver.alike_answer bounded)
      (Transport.KernelDriver.returns_batch deviceClean (bmcs host) protocol proper)
      fun description member => .inl ?_
    have handed := Transport.answerOf_eq bounded (Transport.KernelDriver.addressing protocol)
      description.request
    rw [(offered description member).proper.1] at handed
    exact handed
  · -- The tool tells nothing of a failure, and nothing is made of a failure either.
    have clean : Text.holdsZero tool.program = false := passable _ List.mem_cons_self
    exact finds_direct (splits_forall _)
      (fun _ request => Transport.LocalTool.returns_exec unbridged clean (fun _ honest => honest)
        false request)
      Transport.LocalTool.alike_answer
      (Transport.LocalTool.returns_inOrder unbridged clean (fun _ honest => honest) _)
      fun description _ => Tool.alike_heard _
  · -- The other hosts answer as they like, and take nothing from this one.
    have brings : (Transport.remoteTool tool credentials protocol).Brings
        (fun exchanges => ∀ exchange ∈ exchanges, ∀ name, Tool.Honest tool.program
          (Transport.RemoteTool.sessionArguments credentials name) (bmcs name) exchange)
        fun name => Transport.RemoteTool.answer tool credentials name (bmcs name) .controller :=
      fun name request =>
        Transport.RemoteTool.returns_exec unbridged (fun _ honest => honest name) false request
    exact finds_direct (splits_forall _) brings (Transport.RemoteTool.alike_answer named)
      (Transport.RemoteTool.returns_batch unbridged named (fun _ honest => honest host) _)
      fun description _ => Tool.alike_heard _

section Example

/-- A tool on the machine itself that obeys. -/
def toolAtHome (reply : Address → Bytes → Bytes) : Dialogue.Handler processes Unit :=
  fun (invocation : Invocation) memory => (Tool.obey reply invocation.arguments, memory)

/-- A tool that obeys in sessions with hosts, whose name is the fourth of their eight arguments. -/
def toolInSession (bmcs : String → Address → Bytes → Bytes) : Dialogue.Handler processes Unit :=
  fun (invocation : Invocation) memory =>
    (Tool.obey (bmcs (invocation.arguments[3]?.getD "")) (invocation.arguments.drop 8), memory)

/-- A tool that obeys on the machine itself is honest, whatever is asked of it. -/
theorem honest_toolAtHome (program : String) (reply : Address → Bytes → Bytes)
    (dialogue : Dialogue processes α) : ∀ exchange ∈ dialogue.transcript (toolAtHome reply) (),
      Tool.Honest program [] reply exchange := by
  -- The exchange is one of a transcript, so its answer came from the tool.
  intro exchange member address data asked
  -- Every exchange is what obeying gives, and obeying shows the answer.
  obtain ⟨_, answered⟩ := Dialogue.transcript_answered _ _ _ exchange member
  have obeyed : exchange.reply = Tool.obey reply (exchange.query : Invocation).arguments := answered
  rw [obeyed, asked]
  exact Tool.shows_obey reply address data

/-- A tool that obeys in sessions with hosts is honest about each of them. -/
theorem honest_toolInSession (program : String) (credentials : Transport.Credentials)
    (bmcs : String → Address → Bytes → Bytes) (dialogue : Dialogue processes α) :
    ∀ exchange ∈ dialogue.transcript (toolInSession bmcs) (), ∀ name, Tool.Honest program
      (Transport.RemoteTool.sessionArguments credentials name) (bmcs name) exchange := by
  -- The name is read from the arguments, and the message stands behind them.
  intro exchange member name address data asked
  obtain ⟨_, answered⟩ := Dialogue.transcript_answered _ _ _ exchange member
  have obeyed : exchange.reply
      = Tool.obey (bmcs ((exchange.query : Invocation).arguments[3]?.getD ""))
          ((exchange.query : Invocation).arguments.drop 8) := answered
  rw [obeyed, asked]
  exact Tool.shows_obey (bmcs name) address data

/-- What a collector finds out about a host in one surrounding. -/
def found (collector : Collector I) (snapshot : Snapshot) (host : String) {σ : Type}
    (handler : Dialogue.Handler I σ) (memory : σ) :
    Option Metrics × Option Inventory × Option ComponentHealth :=
  (((collector.collectHost snapshot host).run handler memory).1.toOption,
    ((collector.readInventory [host]).run handler memory).1[host]?,
    ((collector.readHealth [host]).run handler memory).1[host]?)

/-- In surroundings that stay fair whatever is asked, a collector finds what it is to find. -/
theorem Finds.found {transport : Transport I} {host : String} {descriptions : List Description}
    {findings : Findings} (finds : Finds transport Fair host descriptions findings)
    (collector : Collector I) (through : collector.transport = transport)
    (lenient : collector.options.strict = false) {snapshot : Snapshot}
    (known : snapshot.descriptions host = descriptions) {σ : Type}
    {handler : Dialogue.Handler I σ} {memory : σ}
    (fair : ∀ {α : Type} (dialogue : Dialogue I α), Fair (dialogue.transcript handler memory)) :
    collector.found snapshot host handler memory
      = (some findings.metrics, some findings.inventory, some findings.health) := by
  -- The one host is asked about in all three parts.
  have here : host ∈ [host] := List.mem_singleton_self host
  rw [Collector.found, finds.metrics collector snapshot through lenient known _ _ (fair _),
    finds.inventory collector [host] through here _ _ (fair _),
    finds.health collector [host] through here _ _ (fair _)]
  rfl

/-- A controller that echoes what is sent to itself and refuses much of what is sent elsewhere. -/
def moody : Address → Bytes → Bytes
  | .controller, data => (0x00 :: data ++ data).take Driver.receiveCapacity
  | .bus _ slave, data => if data.length = 6 then 0x00 :: slave :: data else [0xC1, 0x57]

/-- All requests of the node manager, found to be answered by one host. -/
def nodeSnapshot : Snapshot :=
  { Snapshot.empty with
    capabilities := (∅ : Capabilities).insert "node" (Catalog.vendor .nodeManager) }

/-- A lenient collector over a transport. -/
def nodeCollector (transport : Transport I) : Collector I :=
  { transport, hosts := ["node"],
    options := { protocol := .nodeManager, strict := false, collectInventory := true,
                 collectHealth := true } }

/-- A tool without a bridge of its own. -/
def plainTool : Tool := { program := "ipmitool", bridge := { channel := 0, slave := 0 } }

/-- Someone who may ask. -/
def admin : Transport.Credentials := { user := "admin", password := "secret" }

/-- A node manager that refuses much is seen the same by all transports, newest answers first. -/
theorem transports_agree_moody :
    Text.holdsZero "/dev/ipmi0" = false ∧ plainTool.bridge.isSet = false ∧
      (∀ text ∈ plainTool.program :: Transport.RemoteTool.sessionArguments admin "node",
        Text.holdsZero text = false) ∧
      (∀ address data, (moody address data).length ≤ Driver.receiveCapacity) ∧
      (∀ description ∈ Catalog.vendor .nodeManager, Offered .nodeManager description) ∧
      (nodeCollector (Transport.kernelDriver "/dev/ipmi0" .nodeManager "host")).found nodeSnapshot
          "node" (Driver.newestFirst moody) []
        = (nodeCollector (Transport.localTool plainTool .nodeManager "host")).found nodeSnapshot
          "node" (toolAtHome moody) () ∧
      (nodeCollector (Transport.kernelDriver "/dev/ipmi0" .nodeManager "host")).found nodeSnapshot
          "node" (Driver.newestFirst moody) []
        = (nodeCollector (Transport.remoteTool plainTool admin .nodeManager)).found
          nodeSnapshot "node" (toolInSession fun _ => moody) () := by
  have clean : Text.holdsZero "/dev/ipmi0" = false := by decide
  have unbridged : plainTool.bridge.isSet = false := rfl
  have passable : ∀ text ∈ plainTool.program
      :: Transport.RemoteTool.sessionArguments admin "node",
      Text.holdsZero text = false := by decide
  have bounded : ∀ address data, (moody address data).length ≤ Driver.receiveCapacity := by
    -- An answer is cut to the capacity, or it is eight bytes long at most.
    intro address data
    cases address with
    | controller => exact List.length_take_le _ _
    | bus channel slave =>
      simp only [moody, Driver.receiveCapacity]
      split
      next six => simp [six]
      next => simp
  have offered : ∀ description ∈ Catalog.vendor .nodeManager, Offered .nodeManager description :=
    fun _ listed => .inl listed
  -- The snapshot knows of one host, and that is the one asked about.
  have known : nodeSnapshot.descriptions "node" = Catalog.vendor .nodeManager := by
    rw [Snapshot.descriptions, nodeSnapshot, Std.TreeMap.getD_insert_self]
  obtain ⟨driver, home, session⟩ := transports_agree .nodeManager "/dev/ipmi0" "host" "node" clean
    plainTool unbridged admin passable (fun _ => moody) bounded _ offered
  -- The driver's findings are compared with those of each tool.
  have seen := driver.found (nodeCollector _) rfl rfl known fun dialogue =>
    ⟨[], Driver.honest_newestFirst moody dialogue []⟩
  refine ⟨clean, unbridged, passable, bounded, offered, ?_, ?_⟩
  -- The tools find what there is to be found, as the driver does.
  · exact seen.trans (home.found (nodeCollector _) rfl rfl known
      (honest_toolAtHome _ moody)).symm
  · exact seen.trans (session.found (nodeCollector _) rfl rfl known
      (honest_toolInSession _ admin fun _ => moody)).symm

end Example

end Collector

end BmcTelemetry
