import BmcTelemetry.Config.Basic
import BmcTelemetry.Proofs.Collector.Isolation
import BmcTelemetry.Proofs.Collector.Strictness
import BmcTelemetry.Proofs.Transport.Probing

/-!
Coverage: the metric names of a snapshot cover whatever is reported with it.

The names are told from what the formats declare, and the values come from what they read, from
inventories and from health. Both go by the descriptions and the hosts of one snapshot.
-/

namespace BmcTelemetry

open Dialogue (Ensures ensures_bind ensures_pure)

/-- Candidates of a command family that were decided about are a selection of its descriptions. -/
theorem Kept.selection {protocol : Protocol} {decisions : List Bool} {found : List Description}
    (kept : Kept protocol (Catalog.vendor protocol) decisions found) :
    Catalog.Selection protocol found := by
  -- What was chosen keeps its order, and the discovered one stands behind.
  obtain ⟨discovered, discoverable, rfl⟩ := kept
  exact ⟨_, discovered, chosen_sublist _ _, discoverable, rfl⟩

/-- Values are reported of an inventory under the paths of inventories, none twice. -/
theorem Inventory.paths_toMetrics (inventory : Inventory) :
    (inventory.toMetrics.map Prod.fst).Sublist Inventory.metrics := by
  -- Values and paths come from one list of entries, in which absent values are skipped.
  have declared : Inventory.metrics = inventory.entries.map Prod.fst := rfl
  rw [declared, toMetrics]
  induction inventory.entries with
  | nil => exact List.Sublist.slnil
  | cons entry rest ih =>
    obtain ⟨path, value⟩ := entry
    -- A value that is absent leaves out its path.
    cases value with
    | none => exact ih.cons path
    | some text => exact ih.cons_cons path

/-- Severities are reported of health under the paths of domains, none twice. -/
theorem ComponentHealth.paths_toMetrics (health : ComponentHealth) :
    (health.toMetrics.map Prod.fst).Sublist HealthDomain.metrics := by
  -- The entries are made domain by domain, in the order of all domains.
  rw [toMetrics, entries, HealthDomain.metrics]
  induction HealthDomain.all with
  | nil => exact List.Sublist.slnil
  | cons domain rest ih =>
    -- A domain without a severity leaves out its path.
    rw [List.filterMap_cons]
    cases health.severity? domain with
    | none => exact ih.cons domain.metric
    | some severity => exact ih.cons_cons domain.metric

namespace Metrics

/-- Entries are found at their paths, besides what was there before. -/
theorem mem_foldl_insert {entries : List (String × UInt16)} {metrics : Metrics} {path : String} :
    path ∈ entries.foldl (fun found entry => found.insert entry.1 entry.2) metrics ↔
      path ∈ metrics ∨ path ∈ entries.map Prod.fst := by
  -- One entry is inserted at a time, over what is there already.
  induction entries generalizing metrics with
  | nil => simp
  | cons entry rest ih =>
    rw [List.foldl_cons, ih, Std.TreeMap.mem_insert, List.map_cons, List.mem_cons]
    grind

/-- Every path that answers add belongs to one of their descriptions, in either mode. -/
theorem mem_addAll {strict : Bool} {answers : List (Description × Response)} {metrics : Metrics}
    (added : addAll strict ∅ answers = .ok metrics) {path : String} (member : path ∈ metrics) :
    ∃ answer ∈ answers, path ∈ answer.1.paths := by
  -- What a strict reading adds without a refusal is what a lenient one adds.
  have lenient : addAll false ∅ answers = .ok metrics := by
    -- Lenient adding is what is claimed already.
    cases strict with
    | false => exact added
    | true =>
      rw [addAll_strict] at added
      split at added
      · cases added
      · exact added
  -- So the path was entered, and whatever is entered is declared.
  rw [addAll_lenient, addValues_lenient] at lenient
  obtain rfl := Except.ok.inj lenient
  -- Before the first entry there was nothing, so the path is one of those entered.
  rcases mem_foldl_insert.mp member with before | entered
  · simp at before
  · have declared := (paths_entries answers).subset entered
    obtain ⟨description, listed, own⟩ := List.mem_flatMap.mp declared
    obtain ⟨answer, given, rfl⟩ := List.mem_map.mp listed
    exact ⟨answer, given, own⟩

end Metrics

/-- Whether health was read once more, after an order and given whether it was before. -/
def Order.leaves (refreshed : Prop) : Order → Prop
  | .survey => False
  | .refreshHealth => True
  | .collect => refreshed

namespace Snapshot

/-- A metric is named exactly if its source is known and its path is one of the source's. -/
theorem mem_metricNames {snapshot : Snapshot} {path host : String} :
    { path, source := host } ∈ snapshot.metricNames ↔
      host ∈ snapshot.hosts ∧ path ∈ snapshot.paths host := by
  -- The names are those of one host after another, each with the host as its source.
  rw [metricNames, List.mem_flatMap]
  constructor
  · rintro ⟨known, listed, member⟩
    obtain ⟨declared, own, same⟩ := List.mem_map.mp member
    obtain ⟨rfl, rfl⟩ := (MetricName.mk.injEq ..).mp same
    exact ⟨listed, own⟩
  · rintro ⟨listed, own⟩
    exact ⟨host, listed, List.mem_map.mpr ⟨path, own, rfl⟩⟩

/-- What keeps the names of a snapshot in order: what was found, and of whom more is known. -/
structure Charted (protocol : Protocol) (snapshot : Snapshot) : Prop where
  /-- Each host answers some of the family's requests. -/
  selection : ∀ host, Catalog.Selection protocol (snapshot.descriptions host)
  /-- Inventories are known of probed hosts alone. -/
  inventory : ∀ host ∈ snapshot.inventory, host ∈ snapshot.hosts
  /-- Health is known of probed hosts alone. -/
  health : ∀ host ∈ snapshot.health, host ∈ snapshot.hosts

/-- What is known of the hosts of a snapshot, and whether their health was read once more. -/
structure Keyed (options : CollectorOptions) (refreshed : Prop) (snapshot : Snapshot) : Prop where
  /-- What a host was found to answer is a selection of the family's requests. -/
  selection : ∀ (host : String) (descriptions : List Description),
    snapshot.capabilities[host]? = some descriptions →
      Catalog.Selection options.protocol descriptions
  /-- Inventories are known of exactly the hosts, where inventories are collected. -/
  inventory : ∀ host, host ∈ snapshot.inventory ↔
    options.collectInventory = true ∧ host ∈ snapshot.hosts
  /-- Health is known of exactly the hosts, where it is collected or was read once more. -/
  health : ∀ host, host ∈ snapshot.health ↔
    (options.collectHealth = true ∨ refreshed) ∧ host ∈ snapshot.hosts

/-- What is known of exactly the hosts is known of no others. -/
theorem Keyed.charted {options : CollectorOptions} {refreshed : Prop} {snapshot : Snapshot}
    (keyed : snapshot.Keyed options refreshed) : snapshot.Charted options.protocol := by
  refine ⟨fun host => ?_, fun host known => ((keyed.inventory host).mp known).2,
    fun host known => ((keyed.health host).mp known).2⟩
  -- A host that was not probed has no descriptions.
  rw [descriptions, Std.TreeMap.getD_eq_getD_getElem?]
  cases known : snapshot.capabilities[host]? with
  | none => exact ⟨[], [], List.nil_sublist _, .inl rfl, rfl⟩
  | some descriptions => exact keyed.selection host descriptions known

/-- Nothing is known at first. -/
theorem keyed_empty (options : CollectorOptions) : Keyed options False .empty where
  selection host descriptions known := by simp [empty] at known
  inventory host := by simp [empty, hosts]
  health host := by simp [empty, hosts]

/-- No path is listed twice with the same source. -/
theorem Charted.metricNames_nodup {protocol : Protocol} {snapshot : Snapshot}
    (charted : snapshot.Charted protocol) : snapshot.metricNames.Nodup := by
  -- Two names differ in the host or in the path.
  rw [metricNames, List.nodup_flatMap]
  constructor
  · -- The names of one host differ in their paths.
    intro host _
    exact (charted.selection host).allPaths_nodup.map fun _ _ same => congrArg MetricName.path same
  · -- The names of two hosts differ in their sources.
    refine snapshot.hosts_nodup.imp fun {host other} differ => ?_
    intro name own others
    obtain ⟨_, _, rfl⟩ := List.mem_map.mp own
    obtain ⟨_, _, same⟩ := List.mem_map.mp others
    exact differ (congrArg MetricName.source same).symm

/-- The metrics of a host are under paths that its descriptions declare. -/
theorem path_of_metricsOf {snapshot : Snapshot} {strict : Bool} {host : String}
    {batch : Except IpmiError (List Response)} {metrics : Metrics}
    (made : snapshot.metricsOf strict host batch = .ok metrics) {path : String}
    (member : path ∈ metrics) : path ∈ snapshot.paths host := by
  cases batch with
  | error error =>
    -- A batch that fails leaves no metrics behind.
    obtain rfl := Except.ok.inj made
    simp at member
  | ok responses =>
    -- The path belongs to a description, and the paths of descriptions come first.
    obtain ⟨answer, given, own⟩ := Metrics.mem_addAll made member
    have declared := List.mem_flatMap.mpr ⟨answer.1, (List.of_mem_zip given).1, own⟩
    simp only [paths, List.mem_append, declared, true_or]

/-- Whatever is reported of a host's inventory is named. -/
theorem Charted.inventory_named {protocol : Protocol} {snapshot : Snapshot}
    (charted : snapshot.Charted protocol) {host : String} {inventory : Inventory}
    (held : snapshot.inventory[host]? = some inventory) {path text : String}
    (member : (path, text) ∈ inventory.toMetrics) :
    { path, source := host } ∈ snapshot.metricNames := by
  -- The host was probed, and the paths of inventories are named for every probed host.
  have listed := charted.inventory host (Std.TreeMap.mem_iff_isSome_getElem?.mpr (by simp [held]))
  have declared := inventory.paths_toMetrics.subset (List.mem_map.mpr ⟨_, member, rfl⟩)
  exact mem_metricNames.mpr ⟨listed, by simp [paths, declared]⟩

/-- Whatever is reported of a host's health is named. -/
theorem Charted.health_named {protocol : Protocol} {snapshot : Snapshot}
    (charted : snapshot.Charted protocol) {host : String} {health : ComponentHealth}
    (held : snapshot.health[host]? = some health) {path text : String}
    (member : (path, text) ∈ health.toMetrics) :
    { path, source := host } ∈ snapshot.metricNames := by
  -- The host was probed, as it is for the inventory, and the domains are named with it.
  have listed := charted.health host (Std.TreeMap.mem_iff_isSome_getElem?.mpr (by simp [held]))
  have declared := health.paths_toMetrics.subset (List.mem_map.mpr ⟨_, member, rfl⟩)
  exact mem_metricNames.mpr ⟨listed, by simp [paths, declared]⟩

end Snapshot

namespace Transport

variable {I : Interface} {α : Type}

/-- Conversations bring something for exactly the hosts that they are held with. -/
theorem ensures_converseWithAll (transport : Transport I)
    (dialogue : String → Dialogue controller α) (hosts : List String) :
    (transport.converseWithAll dialogue hosts).Ensures fun found =>
      ∀ host, host ∈ found ↔ host ∈ hosts := by
  -- The conversations are held under the hosts' names.
  have held : (transport.pacing.hold
      (hosts.map fun host => (host, addressed host (dialogue host)))).Ensures fun found =>
        ∀ host, host ∈ found ↔ host ∈ hosts := by
    -- At either pace, what the conversations end with is found under their names.
    cases transport.pacing with
    | oneByOne =>
      exact Dialogue.ensures_gathered.imp fun found names host => by simp [names]
    | inTurns =>
      exact Dialogue.ensures_takeTurns.imp fun found names host => by simp [names]
  exact held.translate _

end Transport

namespace Collector

variable {I : Interface} {collector : Collector I}

/-- What is gathered of a host was gathered before or is one of the results. -/
theorem mem_of_gather {results : List (String × Except IpmiError Metrics)}
    {found gathered : HostMetrics} (came : gather found results = .ok gathered) {host : String}
    {metrics : Metrics} (held : gathered[host]? = some metrics) :
    found[host]? = some metrics ∨ (host, .ok metrics) ∈ results := by
  -- Gathering ends with the first failure, so all results that were gone through are metrics.
  induction results generalizing found with
  -- No result is left, so the metrics were there before.
  | nil =>
    obtain rfl := Except.ok.inj came
    exact .inl held
  | cons result rest ih =>
    obtain ⟨name, outcome⟩ := result
    -- The first failure ends the gathering.
    cases outcome with
    | error error => cases came
    | ok own =>
      -- The host's result is this one, or it was there before, or it is still to come.
      rcases ih came with before | later
      · by_cases same : name = host
        · subst same
          rw [Std.TreeMap.getElem?_insert_self] at before
          obtain rfl := Option.some.inj before
          exact .inr List.mem_cons_self
        · rw [Std.TreeMap.getElem?_insert, if_neg (by simpa using same)] at before
          exact .inl before
      · exact .inr (List.mem_cons_of_mem _ later)

/-- Whatever a collection comes to is named by the snapshot that it starts from. -/
theorem collected_named {snapshot : Snapshot} {σ : Type} {handler : Dialogue.Handler I σ}
    {memory : σ} {gathered : HostMetrics}
    (came : ((collector.collect snapshot).run handler memory).1 = .ok gathered) {host : String}
    {metrics : Metrics} (held : gathered[host]? = some metrics) {path : String}
    (member : path ∈ metrics) : { path, source := host } ∈ snapshot.metricNames := by
  -- Nothing is gathered before the first host, so the metrics are the result of a host.
  rw [run_collect] at came
  rcases mem_of_gather came held with nothing | result
  · simp at nothing
  · -- The metrics of the host are made of what its batch came to.
    obtain ⟨place, paired⟩ := List.mem_iff_getElem?.mp result
    obtain ⟨listed, made⟩ := List.getElem?_zip_eq_some.mp paired
    rw [List.getElem?_zipWith, listed] at made
    cases batched : ((collector.askAll snapshot).run handler memory).1[place]? with
    | none => simp [batched] at made
    | some batch =>
      simp only [batched, Option.some.injEq] at made
      refine Snapshot.mem_metricNames.mpr ⟨List.mem_of_getElem? listed, ?_⟩
      exact Snapshot.path_of_metricsOf made member

/-- What is read where it is wanted is known of exactly the hosts that it is read of. -/
theorem ensures_whereWanted {α : Type} (wanted : Bool) (transport : Transport I)
    (dialogue : String → Dialogue controller α) (hosts : List String) :
    (whereWanted wanted (transport.converseWithAll dialogue hosts)).Ensures fun found =>
      ∀ host, host ∈ found ↔ wanted = true ∧ host ∈ hosts := by
  -- What is not wanted is not read, so nothing is known of any host.
  cases wanted with
  | false => exact ensures_pure fun host => by simp
  | true =>
    exact (transport.ensures_converseWithAll dialogue hosts).imp fun found names host => by
      rw [names host, and_iff_right rfl]

section Orders

/-- A survey learns of each host what the options ask for. -/
theorem ensures_survey (selects : collector.transport.Selects collector.options.protocol) :
    collector.survey.Ensures (Snapshot.Keyed collector.options False) := by
  -- The steps of a survey each ensure their own part.
  rw [survey_eq]
  refine (selects _ _).bind fun capabilities selected => ?_
  refine (ensures_whereWanted _ _ inventoryOf _).bind fun inventory inventoried => ?_
  refine (ensures_whereWanted _ _ healthOf _).bind fun health examined => ?_
  refine ensures_bind _ fun _ => ensures_pure ⟨fun host descriptions known => ?_, inventoried,
    fun host => by rw [or_false]; exact examined host⟩
  -- What was found of the host was decided about and is thus a selection.
  obtain ⟨decisions, kept⟩ := selected host descriptions known
  exact kept.selection

variable {refreshed : Prop}

/-- Reading health once more learns it of exactly the hosts, and keeps everything else. -/
theorem ensures_refreshHealth {snapshot : Snapshot}
    (keyed : snapshot.Keyed collector.options refreshed) :
    (collector.refreshHealth snapshot).Ensures (Snapshot.Keyed collector.options True) := by
  -- The health that is read replaces the one before, for all hosts alike.
  refine (collector.transport.ensures_converseWithAll healthOf snapshot.hosts).bind
    fun health names => ensures_pure ?_
  exact ⟨keyed.selection, keyed.inventory, fun host => by
    rw [or_true, true_and]; exact names host⟩

/-- Each order leaves it known of each host what the options ask for. -/
theorem ensures_carryOut (selects : collector.transport.Selects collector.options.protocol)
    {progress : Progress}
    (keyed : progress.publication.snapshot.Keyed collector.options refreshed) (order : Order) :
    (collector.carryOut progress order).Ensures fun reached =>
      reached.publication.snapshot.Keyed collector.options (order.leaves refreshed) := by
  -- A survey forgets what was read before it, and a collection changes nothing that is known.
  cases order with
  | survey => exact (ensures_survey selects).bind fun snapshot learned => ensures_pure learned
  | refreshHealth =>
    exact (ensures_refreshHealth keyed).bind fun snapshot learned => ensures_pure learned
  | collect => exact ensures_bind _ fun _ => ensures_pure keyed

/-- Whatever orders are carried out, the names of what is published are in order. -/
theorem ensures_carryOutAll (selects : collector.transport.Selects collector.options.protocol)
    (orders : List Order) :
    (collector.carryOutAll orders).Ensures fun reached =>
      reached.publication.snapshot.Charted collector.options.protocol := by
  -- Whether health was read once more makes no difference to the names.
  have kept : (collector.carryOutAll orders).Ensures fun reached =>
      ∃ refreshed, reached.publication.snapshot.Keyed collector.options refreshed :=
    Dialogue.ensures_foldlM (fun _ order _ ⟨_, keyed⟩ =>
        (ensures_carryOut selects keyed order).imp fun _ keyed => ⟨_, keyed⟩)
      ⟨False, Snapshot.keyed_empty collector.options⟩
  exact kept.imp fun _ ⟨_, keyed⟩ => keyed.charted

end Orders

/-- A collector over a transport that a user can choose, both made for one command family. -/
def connected (connection : Transport.Options) (name : String) (hosts : List String)
    (options : CollectorOptions) : Collector machine :=
  { transport := Transport.connect connection name, hosts,
    options := { options with protocol := connection.protocol } }

/-- The collector that a configuration stands for is made for one command family. -/
theorem connected_config (config : Config) (name : String) :
    config.connect name = connected config.transport name config.hosts config.options := rfl

/--
The metric names of a snapshot cover whatever is reported with it, and none is listed twice.

Whatever orders a collector carried out before, and whatever its machine did, the names cover every
path that a collection then brings of a host, every entry of the host's inventory and every entry
of its health.
-/
theorem metricNames_cover (connection : Transport.Options) (name : String) (hosts : List String)
    (options : CollectorOptions) (orders : List Order) {σ : Type}
    (handler : Dialogue.Handler machine σ) (memory : σ) :
    let collector := connected connection name hosts options
    let snapshot := ((collector.carryOutAll orders).run handler memory).1.publication.snapshot
    snapshot.metricNames.Nodup ∧
    (∀ {τ : Type} (later : Dialogue.Handler machine τ) (remembered : τ) (gathered : HostMetrics),
      ((collector.collect snapshot).run later remembered).1 = .ok gathered →
      ∀ (host : String) (metrics : Metrics), gathered[host]? = some metrics →
        ∀ path ∈ metrics, { path, source := host } ∈ snapshot.metricNames) ∧
    (∀ (host : String) (inventory : Inventory), snapshot.inventory[host]? = some inventory →
      ∀ path text, (path, text) ∈ inventory.toMetrics →
        { path, source := host } ∈ snapshot.metricNames) ∧
    ∀ (host : String) (health : ComponentHealth), snapshot.health[host]? = some health →
      ∀ path text, (path, text) ∈ health.toMetrics →
        { path, source := host } ∈ snapshot.metricNames := by
  intro collector snapshot
  -- What keeps names in order holds at first and survives every order, whatever is answered.
  have selects : collector.transport.Selects collector.options.protocol :=
    Transport.selects_connect connection name
  have charted : snapshot.Charted connection.protocol :=
    (ensures_carryOutAll selects orders).run handler memory
  refine ⟨charted.metricNames_nodup, ?_, ?_, ?_⟩
  -- The three parts follow from the same chart.
  · intro τ later remembered gathered came host metrics held path member
    exact collected_named came held member
  · intro host inventory held path text member
    exact charted.inventory_named held member
  · intro host health held path text member
    exact charted.health_named held member

end Collector

end BmcTelemetry
