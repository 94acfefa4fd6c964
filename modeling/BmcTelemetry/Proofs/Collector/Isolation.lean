import BmcTelemetry.Proofs.Collector.Orders
import BmcTelemetry.Proofs.Collector.Paths
import BmcTelemetry.Proofs.Transport.Separate

/-!
Isolation of hosts: what a collector learns and collects of one depends on no other.

Other hosts may answer what they like or fail in any way, and the hosts may be named in any order.
-/

namespace BmcTelemetry

open Dialogue (Handler Parallel Seen concerns_pure concerns_report_bind parallel_pure reach_bind
  reach_pure reach_report share_map together)

/-- A snapshot knows a host exactly when it was probed. -/
theorem Snapshot.mem_hosts {snapshot : Snapshot} {host : String} :
    host ∈ snapshot.hosts ↔ (snapshot.about host).capabilities.isSome := by
  -- Hosts are the keys of the capabilities.
  rw [hosts, Std.TreeMap.mem_keys, Std.TreeMap.mem_iff_isSome_getElem?, about]

/-- The hosts of a snapshot are distinct. -/
theorem Snapshot.hosts_nodup (snapshot : Snapshot) : snapshot.hosts.Nodup :=
  Std.TreeMap.nodup_keys

/-- What is known of a host includes its descriptions. -/
theorem Snapshot.descriptions_eq (snapshot : Snapshot) (host : String) :
    snapshot.descriptions host = (snapshot.about host).capabilities.getD [] :=
  Std.TreeMap.getD_eq_getD_getElem?

namespace Collector

variable {I : Interface}

section Lenient

/-- The metrics of one host in a lenient collection. -/
def hostMetrics (collector : Collector I) (snapshot : Snapshot) (host : String) :
    Dialogue I Metrics := do
  let descriptions := snapshot.descriptions host
  match ← collector.transport.batch host (descriptions.map (·.request)) with
  | .error error =>
    Dialogue.report (.batchFailed host error)
    return ∅
  | .ok responses =>
    let answers := descriptions.zip responses
    reportAll (Metrics.remarks false host answers)
    return Metrics.addValues ∅
      (answers.map fun (description, response) =>
        (description.root, Metrics.lenient description response))

variable {collector : Collector I}

/-- A lenient collection never fails for a host. -/
theorem collectHost_lenient (lenient : collector.options.strict = false) (snapshot : Snapshot)
    (host : String) :
    collector.collectHost snapshot host = .ok <$> collector.hostMetrics snapshot host := by
  -- Without strictness there is no answer for which adding fails.
  simp only [collectHost, hostMetrics, map_bind, lenient, Metrics.addAll_lenient]
  congr 1
  funext answered
  -- The batch failed and is reported, or its answers are added up.
  cases answered with
  | error error => rfl
  | ok responses => simp only [map_bind, map_pure]

/-- What each host contributes is inserted in turn, when none of them fails. -/
theorem mapM_gather {α : Type} (program : String → Dialogue I Metrics)
    (next : Except IpmiError HostMetrics → Dialogue I α) (hosts : List String)
    (found : HostMetrics) :
    (do
      let results ← hosts.mapM fun host =>
        (.ok <$> program host : Dialogue I (Except IpmiError Metrics))
      next (gather found (hosts.zip results))) = (do
      let gathered ← (hosts.map fun host => (host, program host)).foldlM
        (fun found (host, dialogue) => return found.insert host (← dialogue)) found
      next (.ok gathered)) := by
  -- What the first host contributes is inserted before the others are looked at.
  induction hosts generalizing found with
  | nil => rfl
  | cons host rest ih =>
    simp only [List.mapM_cons, List.map_cons, List.foldlM_cons, bind_assoc, pure_bind,
      map_eq_pure_bind, List.zip_cons_cons, gather, ← ih]

/-- A lenient collection gathers the metrics of all hosts. -/
theorem collect_lenient (lenient : collector.options.strict = false) (snapshot : Snapshot) :
    collector.collect snapshot = (do
      let gathered ← (snapshot.hosts.map fun host =>
        (host, collector.hostMetrics snapshot host)).foldlM
          (fun found (host, dialogue) => return found.insert host (← dialogue)) ∅
      Dialogue.report .collectionCompleted
      return .ok gathered) := by
  -- No host's collection fails, so gathering is inserting.
  have each : collector.collectHost snapshot
      = fun host => .ok <$> collector.hostMetrics snapshot host :=
    funext (collectHost_lenient lenient snapshot)
  rw [collect, each]
  exact mapM_gather (collector.hostMetrics snapshot) (fun gathered => do
    if gathered.isOk then Dialogue.report .collectionCompleted
    return gathered) snapshot.hosts ∅

end Lenient

section Isolated

variable {transport : Transport I} {hostOf : I.Query → String} {collector : Collector I}

/-- Reports ask nobody. -/
theorem concerns_reportAll {host : String} (events : List Event) :
    (reportAll events : Dialogue I Unit).Concerns hostOf host := by
  -- A report has no question at all, so it is about any host.
  induction events with
  | nil => trivial
  | cons event rest ih => exact ih

/-- Collecting the metrics of a host concerns it. -/
theorem concerns_hostMetrics (separates : collector.transport.Separates hostOf)
    (snapshot : Snapshot) (host : String) :
    (collector.hostMetrics snapshot host).Concerns hostOf host := by
  -- The batch is asked of the host, and all the rest is reports.
  refine (separates.batch host _).bind fun answered => ?_
  cases answered with
  | error error => exact concerns_report_bind _ (concerns_pure _)
  | ok responses => exact (concerns_reportAll _).bind fun _ => concerns_pure _

/-- Of a lenient collection, each host sees its own part. -/
theorem seen_collect (collector : Collector I) (separates : collector.transport.Separates hostOf)
    (lenient : collector.options.strict = false) (snapshot : Snapshot) (host : String) :
    Seen hostOf host (collector.collect snapshot) (·.map (·[host]?))
      (Except.ok <$> if host ∈ snapshot.hosts then some <$> collector.hostMetrics snapshot host
        else pure none) := by
  -- The hosts of a snapshot are distinct, so each has one collection of its own.
  have seated := Transport.seated_hosts (concerns_hostMetrics separates snapshot)
    snapshot.hosts_nodup
  -- The hosts are collected one after another, whatever the pace of conversations is.
  have seen := Transport.seen_hold .oneByOne seated host
  rw [share_map] at seen
  rw [collect_lenient lenient, map_eq_pure_bind]
  -- What is gathered is told as it is, after a report that changes nothing.
  refine seen.bind fun gathered => ?_
  exact (Dialogue.seen_pure (Except.ok gathered)).of_whole fun handler memory => rfl

/-- Probing distinct hosts in any order is parallel for each of them. -/
theorem parallel_capabilities (separates : transport.Separates hostOf)
    (candidates : List Description) {hosts others : List String} (distinct : hosts.Nodup)
    (reordered : others.Perm hosts) (host : String) :
    Parallel hostOf host (transport.capabilities candidates hosts)
      (transport.capabilities candidates others)
      fun found again => found[host]? = again[host]? := by
  -- A host sees its own probing in both orders, if it is among the hosts at all.
  obtain ⟨probe, sees⟩ := separates.capabilities candidates
  have seen := sees hosts distinct host
  have again := sees others (reordered.nodup_iff.mpr distinct) host
  simp only [share_map, reordered.mem_iff] at seen again
  exact seen.parallel again

/-- Conversations with the hosts that two surveys know are parallel for one they agree about. -/
theorem parallel_converseWithAll {α : Type} (separates : transport.Separates hostOf)
    (dialogue : String → Dialogue controller α) {capabilities others : Capabilities}
    {host : String} (same : capabilities[host]? = others[host]?) :
    Parallel hostOf host (transport.converseWithAll dialogue capabilities.keys)
      (transport.converseWithAll dialogue others.keys) fun found again =>
        found[host]? = again[host]? := by
  -- Two maps that agree about the host agree whether it is one of their keys.
  refine separates.parallel_converseWithAll dialogue Std.TreeMap.nodup_keys Std.TreeMap.nodup_keys ?_
  rw [Std.TreeMap.mem_keys, Std.TreeMap.mem_keys, Std.TreeMap.mem_iff_isSome_getElem?,
    Std.TreeMap.mem_iff_isSome_getElem?, same]

/-- What is read of hosts, where it is wanted. -/
def whereWanted {α : Type} (wanted : Bool) (read : Dialogue I (Std.TreeMap String α)) :
    Dialogue I (Std.TreeMap String α) :=
  if wanted then read else pure ∅

/-- A survey reads inventories and health of the probed hosts, where they are wanted. -/
theorem survey_eq (collector : Collector I) :
    collector.survey = (do
      let capabilities ← collector.transport.capabilities
        (Catalog.vendor collector.options.protocol) collector.hosts
      let inventory ← whereWanted collector.options.collectInventory
        (collector.readInventory capabilities.keys)
      let health ← whereWanted collector.options.collectHealth
        (collector.readHealth capabilities.keys)
      Dialogue.report (.surveyed capabilities.keys.length collector.options.protocol.name)
      return { capabilities, inventory, health }) := by
  -- Each of the two options is on or off, and reading nothing is reading an empty map.
  rw [survey]
  cases collector.options.collectInventory <;> cases collector.options.collectHealth <;> rfl

/-- What is read in parallel where it is wanted is empty on both sides where it is not. -/
theorem parallel_whereWanted {α : Type} {left right : Dialogue I (Std.TreeMap String α)}
    {host : String} (wanted : Bool)
    (parallel : Parallel hostOf host left right fun found again => found[host]? = again[host]?) :
    Parallel hostOf host (whereWanted wanted left) (whereWanted wanted right)
      fun found again => found[host]? = again[host]? := by
  -- What is not wanted is not read on either side.
  cases wanted with
  | false => exact parallel_pure rfl
  | true => exact parallel

/-- Surveys of distinct hosts, named in any order, are parallel for each of them. -/
theorem parallel_survey (separates : collector.transport.Separates hostOf)
    (distinct : collector.hosts.Nodup) {others : List String}
    (reordered : others.Perm collector.hosts) (host : String) :
    Parallel hostOf host collector.survey (survey { collector with hosts := others })
      fun found again => found.about host = again.about host := by
  rw [survey_eq, survey_eq]
  -- Each step of a survey is parallel, given that the steps before it were.
  refine (parallel_capabilities separates _ distinct reordered host).bind fun found again same => ?_
  refine (parallel_whereWanted _ (parallel_converseWithAll separates inventoryOf same)).bind
    fun inventory _ sameInventory => ?_
  refine (parallel_whereWanted _ (parallel_converseWithAll separates healthOf same)).bind
    fun health _ sameHealth => ?_
  refine Parallel.report _ _ (parallel_pure ?_)
  simp only [Snapshot.about, same, sameInventory, sameHealth]

/-- Refreshing the health of the known hosts is parallel for a host of which the same is known. -/
theorem parallel_refreshHealth (separates : collector.transport.Separates hostOf)
    {others : List String} {snapshot other : Snapshot} {host : String}
    (same : snapshot.about host = other.about host) :
    Parallel hostOf host (collector.refreshHealth snapshot)
      (refreshHealth { collector with hosts := others } other)
      fun found again => found.about host = again.about host := by
  -- What is known of the host consists of three parts, and only its health is read.
  simp only [Snapshot.about, Knowledge.mk.injEq] at same
  refine (parallel_converseWithAll separates healthOf same.1).bind fun health _ sameHealth => ?_
  refine parallel_pure ?_
  simp only [Snapshot.about, same, sameHealth]

/-- Lenient collections are parallel for a host of which the same is known. -/
theorem parallel_collect (separates : collector.transport.Separates hostOf)
    (lenient : collector.options.strict = false) {others : List String}
    {snapshot other : Snapshot} {host : String} (same : snapshot.about host = other.about host) :
    Parallel hostOf host (collector.collect snapshot)
      (collect { collector with hosts := others } other)
      fun found again => found.map (·[host]?) = again.map (·[host]?) := by
  have seen := seen_collect collector separates lenient snapshot host
  have again := seen_collect { collector with hosts := others } separates lenient other host
  -- The host is asked for the same in both, if it is asked at all.
  have asked : hostMetrics { collector with hosts := others } other host
      = collector.hostMetrics snapshot host := by
    simp only [hostMetrics, Snapshot.descriptions_eq, same]
  simp only [asked, Snapshot.mem_hosts, ← same] at seen again
  exact seen.parallel again

/-- Orders are carried out in parallel for a host about which a collector has the same. -/
theorem parallel_carryOut (separates : collector.transport.Separates hostOf)
    (lenient : collector.options.strict = false) (distinct : collector.hosts.Nodup)
    {others : List String} (reordered : others.Perm collector.hosts) {progress other : Progress}
    {host : String} (same : progress.about host = other.about host) (order : Order) :
    Parallel hostOf host (collector.carryOut progress order)
      (carryOut { collector with hosts := others } other order)
      fun found again => found.about host = again.about host := by
  -- What readers see of the host and what was collected last are kept apart.
  simp only [Progress.about, Prod.mk.injEq] at same
  -- Each order changes one of the two, in the same way on both sides.
  cases order with
  | survey =>
    refine (parallel_survey separates distinct reordered host).bind fun snapshot _ known => ?_
    exact parallel_pure (Prod.ext known same.2)
  | refreshHealth =>
    refine (parallel_refreshHealth separates same.1).bind fun snapshot _ known => ?_
    exact parallel_pure (Prod.ext known same.2)
  | collect =>
    refine (parallel_collect separates lenient same.1).bind fun metrics _ collected => ?_
    exact parallel_pure (Prod.ext same.1 (congrArg some collected))

/-- Any orders from the beginning are carried out in parallel for each host. -/
theorem parallel_carryOutAll (separates : collector.transport.Separates hostOf)
    (lenient : collector.options.strict = false) (distinct : collector.hosts.Nodup)
    {others : List String} (reordered : others.Perm collector.hosts) (host : String)
    (orders : List Order) :
    Parallel hostOf host (collector.carryOutAll orders)
      (carryOutAll { collector with hosts := others } orders)
      fun found again => found.about host = again.about host := by
  -- Each order leaves the collector with the same about the host, from which the next one starts.
  have onward : ∀ progress other : Progress, progress.about host = other.about host →
      Parallel hostOf host (orders.foldlM collector.carryOut progress)
        (orders.foldlM (carryOut { collector with hosts := others }) other)
        fun found again => found.about host = again.about host := by
    induction orders with
    -- Without orders both are as they were.
    | nil => exact fun _ _ same => parallel_pure same
    | cons order rest ih =>
      intro progress other same
      rw [List.foldlM_cons, List.foldlM_cons]
      exact (parallel_carryOut separates lenient distinct reordered same order).bind ih
  exact onward .initial .initial rfl

/-- A lenient collection gathers metrics of exactly the known hosts, none where a batch fails. -/
theorem collect_hosts (separates : collector.transport.Separates hostOf)
    (lenient : collector.options.strict = false) (snapshot : Snapshot) {σ : Type}
    (parts : String → Handler I σ) (memories : String → σ) :
    ∃ metrics : HostMetrics,
      ((collector.collect snapshot).run (together hostOf parts) memories).1 = .ok metrics ∧
      (∀ host, host ∈ metrics ↔ host ∈ snapshot.hosts) ∧
      ∀ host ∈ snapshot.hosts, ∀ error, ((collector.transport.batch host
          ((snapshot.descriptions host).map (·.request))).run (parts host) (memories host)).1
            = .error error →
        metrics[host]? = some ∅ := by
  have gathers : ∃ metrics, ((collector.collect snapshot).reach (together hostOf parts) memories).1
      = .ok metrics := by
    -- No batch fails a lenient collection, so there are metrics in any case.
    rw [collect_lenient lenient, reach_bind, reach_bind, reach_pure]
    exact ⟨_, rfl⟩
  obtain ⟨metrics, gathered⟩ := gathers
  -- Each host finds what its own part of the collection comes to.
  have own (host : String) : metrics[host]?
      = ((if host ∈ snapshot.hosts then some <$> collector.hostMetrics snapshot host
          else pure none : Dialogue I (Option Metrics)).reach (parts host) (memories host)).1 := by
    have seen := congrArg Prod.fst
      (seen_collect collector separates lenient snapshot host σ parts memories)
    rw [map_eq_pure_bind, reach_bind, reach_pure, gathered] at seen
    exact (Except.ok.inj seen).symm
  refine ⟨metrics, gathered, fun host => ?_, fun host known error failed => ?_⟩
  -- The host has an entry exactly if it is one of those asked.
  · rw [Std.TreeMap.mem_iff_isSome_getElem?, own host]
    split
    next known => simp only [map_eq_pure_bind, reach_bind, reach_pure, Option.isSome_some, known]
    next unknown => simp only [reach_pure, Option.isSome_none, unknown, Bool.false_eq_true]
  -- The batch of this host failed, so its own part ends with no metrics.
  · change (Dialogue.reach (parts host) _ (memories host)).1 = _ at failed
    rw [own host, if_pos known]
    simp only [map_eq_pure_bind, reach_bind, reach_pure, hostMetrics, failed, reach_report]

end Isolated

/--
Lenient collectors keep the hosts that are reached over a transport isolated from each other.

Each host answers as it likes, from what it remembers of its own questions.
-/
structure Isolates (transport : Transport I) (hostOf : I.Query → String) : Prop where
  /-- Hosts that answer alike are told apart by nothing, after any orders, whatever others do. -/
  apart : ∀ (options : CollectorOptions), options.strict = false →
    ∀ (hosts reordered : List String), hosts.Nodup → reordered.Perm hosts →
    ∀ (host : String) (σ : Type) (parts others : String → Handler I σ)
      (memories remembered : String → σ),
      parts host = others host → memories host = remembered host →
    ∀ orders : List Order,
      ((carryOutAll { transport, hosts, options } orders).run
          (together hostOf parts) memories).1.about host
        = ((carryOutAll { transport, options, hosts := reordered } orders).run
          (together hostOf others) remembered).1.about host
  /-- Each known host has metrics after a collection, none of them where its batch fails. -/
  collects : ∀ collector : Collector I, collector.transport = transport →
    collector.options.strict = false →
    ∀ (snapshot : Snapshot) (σ : Type) (parts : String → Handler I σ) (memories : String → σ),
    ∃ metrics : HostMetrics,
      ((collector.collect snapshot).run (together hostOf parts) memories).1 = .ok metrics ∧
      (∀ host, host ∈ metrics ↔ host ∈ snapshot.hosts) ∧
      ∀ host ∈ snapshot.hosts, ∀ error, ((transport.batch host
          ((snapshot.descriptions host).map (·.request))).run (parts host) (memories host)).1
            = .error error →
        metrics[host]? = some ∅

/-- A transport that keeps hosts separate keeps them isolated. -/
theorem isolates_of_separates {transport : Transport I} {hostOf : I.Query → String}
    (separates : transport.Separates hostOf) : Isolates transport hostOf where
  apart options lenient hosts reordered distinct perm host σ parts others memories remembered same
      remembers orders := by
    -- The transport keeps hosts separate, and the collector adds nothing that would join them.
    have parallel : Parallel hostOf host (carryOutAll { transport, hosts, options } orders) _ _ :=
      parallel_carryOutAll separates lenient distinct perm host orders
    exact (parallel σ parts others memories remembered same remembers).1
  collects := by
    rintro collector rfl lenient snapshot σ parts memories
    exact collect_hosts separates lenient snapshot parts memories

/-- Hosts are isolated, whether requests are handed over as they are or the tool is run for them. -/
theorem hosts_isolated (protocol : Protocol) (tool : Tool) (credentials : Transport.Credentials) :
    Isolates (.direct protocol) Addressed.host ∧
      Isolates (.remoteTool tool credentials protocol) Transport.RemoteTool.hostOf :=
  ⟨isolates_of_separates (Transport.separates_direct protocol),
    isolates_of_separates (Transport.separates_remoteTool tool credentials protocol)⟩

section Example

/-- A lenient collector of two hosts. -/
def duo : Collector network :=
  { transport := .direct .dcmi, hosts := ["alpha", "beta"],
    options := { protocol := .dcmi, strict := false, collectInventory := true,
                 collectHealth := true } }

/-- A network where one host answers the power reading and no other can be reached. -/
def alphaOnly (host : String) : Handler network Unit :=
  if host = "alpha" then powerOnly else fun _ memory => (.error (.io .zeroInArgument), memory)

/-- What is known and collected of a host stays as it is when the other host is lost. -/
theorem hosts_isolated_lost :
    ((duo.carryOutAll [.survey, .collect]).run
        (together Addressed.host fun _ => powerOnly) fun _ => ()).1.about "alpha"
      = ((carryOutAll { duo with hosts := ["beta", "alpha"] } [.survey, .collect]).run
        (together Addressed.host alphaOnly) fun _ => ()).1.about "alpha" ∧
    (((duo.carryOutAll [.survey, .collect]).run
        (together Addressed.host fun _ => powerOnly) fun _ => ()).1.about "alpha").2.map
          (·.toOption.map fun found => found.map (·["power/system/cur"]?))
      = some (some (some (some 300))) := by
  refine ⟨?_, by decide +kernel⟩
  -- The second list of hosts is the first one turned around.
  have reordered : ["beta", "alpha"].Perm duo.hosts := .swap "alpha" "beta" []
  have same : powerOnly = alphaOnly "alpha" := (if_pos rfl).symm
  exact (hosts_isolated .dcmi plainTool admin).1.apart duo.options rfl duo.hosts ["beta", "alpha"]
    (by decide) reordered "alpha" Unit (fun _ => powerOnly) alphaOnly (fun _ => ()) (fun _ => ())
    same rfl [.survey, .collect]

end Example

end Collector

end BmcTelemetry
