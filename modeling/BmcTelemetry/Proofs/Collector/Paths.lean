import BmcTelemetry.Proofs.Collector.Agreement
import BmcTelemetry.Proofs.Dialogue.Reach
import BmcTelemetry.Proofs.Metric.Catalog
import BmcTelemetry.Transport.Direct
import Mathlib.Data.List.Nodup

/-!
Paths: the descriptions of a host keep apart.

The roots of a platform's descriptions are chosen so that no two of them lead to the same path.
Every value that is read from an answer is therefore found in the end, and nothing else is.
-/

namespace BmcTelemetry

namespace Metrics

/-- A lenient reading takes no more than the declared values from an answer, and none twice. -/
theorem names_lenient (description : Description) (response : Response) :
    ((lenient description response).map Prod.fst).Sublist description.format.metrics := by
  -- The answer is decoded or counts as invalid, and either way the names are declared ones.
  rw [lenient]
  split
  · exact Format.names_parse _ _
  · simp only [Format.names_sentinels, List.Sublist.refl]

/-- Every value that a lenient reading takes from the answers, with its path. -/
def entries (answers : List (Description × Response)) : List (String × UInt16) :=
  answers.flatMap fun (description, response) =>
    (lenient description response).map fun (sub, value) => (extendPath description.root sub, value)

/-- The paths of the values are declared by the descriptions, in the same order. -/
theorem paths_entries (answers : List (Description × Response)) :
    ((entries answers).map Prod.fst).Sublist
      ((answers.map Prod.fst).flatMap Description.paths) := by
  -- The paths of one answer come before those of the others, as its description does.
  induction answers with
  | nil => exact List.Sublist.slnil
  | cons answer rest ih =>
    obtain ⟨description, response⟩ := answer
    -- Extending by the root keeps the names of the reading in their order.
    have own : (((lenient description response).map fun (sub, value) =>
        (extendPath description.root sub, value)).map Prod.fst).Sublist description.paths := by
      have named := (names_lenient description response).map (extendPath description.root)
      rwa [List.map_map] at named ⊢
    rw [entries, List.flatMap_cons, List.map_append, List.map_cons, List.flatMap_cons]
    exact own.append ih

/-- With distinct paths, each value is found at its path, and what was there before elsewhere. -/
theorem getElem?_foldl_insert {entries : List (String × UInt16)}
    (distinct : (entries.map Prod.fst).Nodup) (metrics : Metrics) (path : String) :
    (∀ value, (path, value) ∈ entries →
      (entries.foldl (fun found entry => found.insert entry.1 entry.2) metrics)[path]?
        = some value) ∧
    (path ∉ entries.map Prod.fst →
      (entries.foldl (fun found entry => found.insert entry.1 entry.2) metrics)[path]?
        = metrics[path]?) := by
  -- Whatever comes after an entry has another path, so the entry stays.
  induction entries generalizing metrics with
  | nil => exact ⟨fun _ member => absurd member (List.not_mem_nil), fun _ => rfl⟩
  | cons entry rest ih =>
    obtain ⟨first, held⟩ := entry
    -- The path of the entry comes only once, so no later one overwrites it.
    rw [List.map_cons, List.nodup_cons] at distinct
    obtain ⟨later, untouched⟩ := ih distinct.2 (metrics.insert first held)
    rw [List.foldl_cons]
    refine ⟨fun value member => ?_, fun absent => ?_⟩
    -- The entry is the one just inserted, or one that is still to come.
    · rcases List.mem_cons.mp member with same | member
      · cases same
        rw [untouched distinct.1, Std.TreeMap.getElem?_insert_self]
      · exact later value member
    -- The path is neither that of the entry nor one of those behind it.
    · rw [List.map_cons, List.mem_cons, not_or] at absent
      rw [untouched absent.2, Std.TreeMap.getElem?_insert, if_neg]
      simpa using Ne.symm absent.1

/-- Values below roots are added one entry after another. -/
theorem addValues_lenient (metrics : Metrics) (answers : List (Description × Response)) :
    metrics.addValues (answers.map
      fun (description, response) => (description.root, lenient description response))
      = (entries answers).foldl (fun found entry => found.insert entry.1 entry.2) metrics := by
  -- Adding below one root after another is one long insertion.
  rw [addValues, List.foldl_map, entries, List.foldl_flatMap]
  simp only [add, List.foldl_map]

/-- Where no path is declared twice, exactly the values of all answers are found in the end. -/
theorem getElem?_addAll (answers : List (Description × Response))
    (distinct : ((answers.map Prod.fst).flatMap Description.paths).Nodup) :
    ∃ metrics, addAll false ∅ answers = .ok metrics ∧
      ∀ path value, metrics[path]? = some value ↔ (path, value) ∈ entries answers := by
  refine ⟨_, addAll_lenient ∅ answers, fun path value => ?_⟩
  -- The paths that are entered are some of the declared ones, so they are distinct as well.
  obtain ⟨found, absent⟩ := getElem?_foldl_insert (distinct.sublist (paths_entries answers)) ∅ path
  rw [addValues_lenient]
  constructor
  · intro held
    by_cases listed : path ∈ (entries answers).map Prod.fst
    · -- The path has one value, which is the one that is found.
      obtain ⟨⟨_, other⟩, member, rfl⟩ := List.mem_map.mp listed
      rw [found other member] at held
      rwa [← Option.some.inj held]
    -- A path that is not entered is not found, as there was nothing before.
    · rw [absent listed] at held
      simp at held
  · exact found value

/-- A value of the answers belongs to one of the descriptions and is read from its own answer. -/
theorem mem_entries_zip {descriptions : List Description} {responses : List Response}
    {path : String} {value : UInt16} :
    (path, value) ∈ entries (descriptions.zip responses) ↔
      ∃ (index : Nat) (description : Description) (response : Response) (sub : String),
      descriptions[index]? = some description ∧ responses[index]? = some response ∧
        (sub, value) ∈ lenient description response ∧ path = extendPath description.root sub := by
  rw [entries, List.mem_flatMap]
  constructor
  -- The pair stands in one place of both lists.
  · rintro ⟨⟨description, response⟩, listed, member⟩
    obtain ⟨⟨sub, _⟩, read, same⟩ := List.mem_map.mp member
    cases same
    obtain ⟨index, place⟩ := List.mem_iff_getElem?.mp listed
    obtain ⟨described, answered⟩ := List.getElem?_zip_eq_some.mp place
    exact ⟨index, description, response, sub, described, answered, read, rfl⟩
  -- Both lists have the place, and so does their zip.
  · rintro ⟨index, description, response, sub, described, answered, read, rfl⟩
    have place : (descriptions.zip responses)[index]? = some (description, response) :=
      List.getElem?_zip_eq_some.mpr ⟨described, answered⟩
    exact ⟨(description, response), List.mem_of_getElem? place,
      List.mem_map.mpr ⟨(sub, value), read, rfl⟩⟩

/-- Replacing one answer changes nothing at paths that its description does not declare. -/
theorem mem_entries_of_elsewhere {descriptions : List Description}
    {responses others : List Response} {index : Nat}
    (elsewhere : ∀ place, place ≠ index → responses[place]? = others[place]?) {path : String}
    (foreign : ∀ description, descriptions[index]? = some description → path ∉ description.paths)
    {value : UInt16} (member : (path, value) ∈ entries (descriptions.zip responses)) :
    (path, value) ∈ entries (descriptions.zip others) := by
  obtain ⟨place, description, response, sub, described, answered, read, rfl⟩ :=
    mem_entries_zip.mp member
  -- A value that the replaced answer contributed would be at a declared path.
  have other : place ≠ index := by
    rintro rfl
    have named := (names_lenient description response).subset (List.mem_map.mpr ⟨_, read, rfl⟩)
    exact foreign description described (List.mem_map.mpr ⟨sub, named, rfl⟩)
  -- In any other place the two lists have the same answer.
  rw [elsewhere place other] at answered
  exact mem_entries_zip.mpr ⟨place, description, response, sub, described, answered, read, rfl⟩

end Metrics

namespace Collector

variable {I : Interface}

/-- Reports leave nothing behind. -/
theorem reach_reportAll {σ : Type} (handler : Dialogue.Handler I σ) (memory : σ)
    (events : List Event) :
    (reportAll events : Dialogue I Unit).reach handler memory = ((), memory) := by
  -- Each report leaves the memory as it is.
  induction events with
  | nil => rfl
  | cons event rest ih => exact ih

/-- Whenever the batch of a host brings these answers, its collection ends with these metrics. -/
def Collects (collector : Collector I) (snapshot : Snapshot) (host : String)
    (responses : List Response) (metrics : Metrics) : Prop :=
  ∀ {σ : Type} (handler : Dialogue.Handler I σ) (memory : σ),
    ((collector.transport.batch host ((snapshot.descriptions host).map (·.request))).run
      handler memory).1 = .ok responses →
    ((collector.collectHost snapshot host).run handler memory).1 = .ok metrics

/-- What the answers of a batch add up to is what a lenient collection ends with. -/
theorem collects_of_addAll {collector : Collector I} (lenient : collector.options.strict = false)
    {snapshot : Snapshot} {host : String} {responses : List Response} {metrics : Metrics}
    (added : Metrics.addAll false ∅ ((snapshot.descriptions host).zip responses) = .ok metrics) :
    collector.Collects snapshot host responses metrics := by
  -- The batch has ended with these answers, and reports leave them as they are.
  intro σ handler memory answered
  change ((collector.collectHost snapshot host).reach handler memory).1 = _
  change (Dialogue.reach handler _ memory).1 = _ at answered
  simp only [collectHost, Dialogue.reach_bind, answered, reach_reportAll, Dialogue.reach_pure,
    lenient, added]

/--
The descriptions of a host keep apart in a lenient collection.

No two of them share a path. The metrics have exactly the values that each description reads from
its own answer, and another answer to one request changes nothing at the paths of the others.
-/
theorem descriptions_keep_apart {collector : Collector I}
    (lenient : collector.options.strict = false) {protocol : Protocol} {snapshot : Snapshot}
    {host : String} (selection : Catalog.Selection protocol (snapshot.descriptions host))
    (responses : List Response)
    (complete : responses.length = (snapshot.descriptions host).length) :
    (snapshot.descriptions host).Pairwise (fun one other => one.paths.Disjoint other.paths) ∧
    ∃ metrics, collector.Collects snapshot host responses metrics ∧
      (∀ path value, metrics[path]? = some value ↔ ∃ (index : Nat) (description : Description)
          (response : Response) (sub : String),
        (snapshot.descriptions host)[index]? = some description ∧
        responses[index]? = some response ∧
        (sub, value) ∈ Metrics.lenient description response ∧
        path = extendPath description.root sub) ∧
      ∀ (index : Nat) (other : Response), ∃ changed,
        collector.Collects snapshot host (responses.set index other) changed ∧
        ∀ path : String, (∀ description, (snapshot.descriptions host)[index]? = some description →
          path ∉ description.paths) → changed[path]? = metrics[path]? := by
  -- What a platform selects has no path twice.
  have distinct := selection.paths_nodup
  have aligned : ∀ answers : List Response, answers.length = (snapshot.descriptions host).length →
      (((snapshot.descriptions host).zip answers).map Prod.fst).flatMap Description.paths
        = (snapshot.descriptions host).flatMap Description.paths := by
    intro answers same
    rw [List.map_fst_zip (Nat.le_of_eq same.symm)]
  -- The metrics are those of the answers, and again those of the answers with one replaced.
  obtain ⟨metrics, added, found⟩ := Metrics.getElem?_addAll
    ((snapshot.descriptions host).zip responses) (by rwa [aligned _ complete])
  refine ⟨(List.nodup_flatMap.mp distinct).2, metrics, collects_of_addAll lenient added, ?_, ?_⟩
  · intro path value
    rw [found, Metrics.mem_entries_zip]
  · intro index other
    -- Replacing an answer leaves their number as it is.
    have resized : (responses.set index other).length = (snapshot.descriptions host).length := by
      rw [List.length_set, complete]
    obtain ⟨changed, addedAgain, foundAgain⟩ := Metrics.getElem?_addAll
      ((snapshot.descriptions host).zip (responses.set index other)) (by rwa [aligned _ resized])
    refine ⟨changed, collects_of_addAll lenient addedAgain, fun path foreign => ?_⟩
    -- Both collections have the same values at such a path.
    have elsewhere : ∀ place, place ≠ index →
        responses[place]? = (responses.set index other)[place]? := fun place differs =>
      (List.getElem?_set_ne (Ne.symm differs)).symm
    apply Option.ext
    intro value
    rw [foundAgain, found]
    exact ⟨Metrics.mem_entries_of_elsewhere (fun place differs => (elsewhere place differs).symm)
      foreign, Metrics.mem_entries_of_elsewhere elsewhere foreign⟩

section Example

/-- A host that was found to answer the power reading and to have an inlet sensor. -/
def inletSnapshot : Snapshot :=
  { Snapshot.empty with
    capabilities := (∅ : Capabilities).insert "bmc"
      (Catalog.vendor .dcmi ++ [Catalog.inletTemperature 0x31]) }

/-- A lenient collector that hands its requests over as they are. -/
def inletCollector : Collector network :=
  { transport := .direct .dcmi, hosts := ["bmc"],
    options := { protocol := .dcmi, strict := false, collectInventory := true,
                 collectHealth := true } }

/-- A host that answers the power reading and refuses everything else. -/
def powerOnly : Dialogue.Handler network Unit := fun (asked : Addressed) memory =>
  (.ok (if asked.request.netFn = 0x2c then
      .answered [0x00, 0xdc, 0x2c, 0x01, 0x10, 0x00, 0x90, 0x01, 0x28, 0x01]
    else .answered [0xcb]), memory)

/-- A refused sensor reading is reported as invalid and leaves the power reading as it is. -/
theorem descriptions_keep_apart_inlet :
    inletCollector.options.strict = false ∧
      Catalog.Selection .dcmi (inletSnapshot.descriptions "bmc") ∧
      ∃ metrics,
        ((inletCollector.collectHost inletSnapshot "bmc").run powerOnly ()).1 = .ok metrics ∧
        metrics["power/system/cur"]? = some 300 ∧ metrics["thermal/inlet/cur"]? = some 0xffff := by
  -- The one known host has the power reading and an inlet.
  have known : inletSnapshot.descriptions "bmc"
      = Catalog.vendor .dcmi ++ [Catalog.inletTemperature 0x31] := by
    rw [Snapshot.descriptions, inletSnapshot, Std.TreeMap.getD_insert_self]
  have selection : Catalog.Selection .dcmi (inletSnapshot.descriptions "bmc") :=
    ⟨_, _, List.Sublist.refl _, .inr ⟨rfl, 0x31, rfl⟩, known⟩
  have lenient : inletCollector.options.strict = false := rfl
  -- The theorem is applied to the two answers that such a host gives.
  obtain ⟨_, metrics, collects, found, _⟩ := descriptions_keep_apart lenient selection
    [.answered [0x00, 0xdc, 0x2c, 0x01, 0x10, 0x00, 0x90, 0x01, 0x28, 0x01], .answered [0xcb]]
    (by rw [known]; rfl)
  refine ⟨rfl, selection, metrics, collects powerOnly () (by rw [known]; rfl), ?_, ?_⟩
  -- The power reading has the first place, and the sensor the second.
  · refine (found _ _).mpr ⟨0, _, _, "cur", by rw [known]; rfl, rfl, ?_, by decide⟩
    decide
  · refine (found _ _).mpr ⟨1, _, _, "cur", by rw [known]; rfl, rfl, ?_, by decide⟩
    decide

end Example

end Collector

end BmcTelemetry
