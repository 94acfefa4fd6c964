import BmcTelemetry.Proofs.Collector.Agreement
import BmcTelemetry.Proofs.Dialogue.Silence

/-!
Strictness: a strict collection is a lenient one that ends with the first answer it cannot decode.

Both ask for everything before anything is decoded, so they differ in what they come to alone.
-/

namespace BmcTelemetry

/-- What keeps an answer from being decoded: a vouched-for answer is empty or tells of a failure. -/
def Response.refusal? (response : Response) : Option IpmiError :=
  if response.valid then
    match response.completionCode with
    | none => some .zeroLength
    | some code => if code = 0 then none else some (.completionCode code)
  else none

/-- An answer is refused exactly if it is vouched for and empty or has a code other than zero. -/
theorem Response.isSome_refusal? {response : Response} :
    response.refusal?.isSome ↔ response.valid ∧
      (response.data = [] ∨ ∃ code ≠ 0, response.completionCode = some code) := by
  -- What the transport does not vouch for is not looked at, and neither is a payload.
  obtain ⟨data, valid⟩ := response
  cases valid with
  | false => simp [refusal?]
  | true =>
    cases data with
    | nil => simp [refusal?, completionCode]
    -- The first byte is zero, and nothing is refused, or it is not, and that is the refusal.
    | cons code rest => by_cases good : code = 0 <;> simp [refusal?, completionCode, good]

/-- The check in front of every format gives up exactly with what keeps an answer back. -/
theorem Format.validate_eq (response : Response) :
    validate response = match response.refusal? with
      | some error => .error error
      | none => .ok () := by
  -- Both go by the flag first and by the first byte then.
  obtain ⟨data, valid⟩ := response
  cases valid with
  | false => rfl
  | true =>
    cases data with
    | nil => rfl
    | cons code rest =>
      -- A code of zero passes both, and any other is given as the error of both.
      by_cases good : code = 0
      · subst good
        rfl
      · simp [validate, Response.refusal?, Response.completionCode, good]

namespace Metrics

/-- Adding strictly stops at the first refusal and is like adding leniently without one. -/
theorem addAll_strict (metrics : Metrics) (answers : List (Description × Response)) :
    addAll true metrics answers = match answers.findSome? (·.2.refusal?) with
      | some error => .error error
      | none => addAll false metrics answers := by
  -- Up to the first refusal, both modes add the same values.
  induction answers generalizing metrics with
  | nil => rfl
  | cons answer rest ih =>
    obtain ⟨description, response⟩ := answer
    simp only [addAll, contribution, Format.validate_eq, List.findSome?_cons]
    -- The first answer is refused in strict mode, or adds the same in both.
    cases response.refusal? with
    | some error => rfl
    | none => exact ih _

end Metrics

namespace Snapshot

/-- The metrics of a host, given what its batch came to; a batch that fails leaves it without. -/
def metricsOf (snapshot : Snapshot) (strict : Bool) (host : String) :
    Except IpmiError (List Response) → Except IpmiError Metrics
  | .error _ => .ok ∅
  | .ok responses => Metrics.addAll strict ∅ ((snapshot.descriptions host).zip responses)

/-- The answers of a host that are read, given what its batch came to. -/
def readOf (snapshot : Snapshot) (host : String) :
    Except IpmiError (List Response) → List (Description × Response)
  | .error _ => []
  | .ok responses => (snapshot.descriptions host).zip responses

/-- The metrics of all hosts, given what the batch of each one came to. -/
def outcome (snapshot : Snapshot) (strict : Bool)
    (batches : List (Except IpmiError (List Response))) : Except IpmiError HostMetrics :=
  Collector.gather ∅
    (snapshot.hosts.zip (snapshot.hosts.zipWith (snapshot.metricsOf strict) batches))

/-- Every answer that is read, in the order of hosts and, of one host, of its requests. -/
def read (snapshot : Snapshot) (batches : List (Except IpmiError (List Response))) :
    List (Description × Response) :=
  (snapshot.hosts.zip batches).flatMap fun (host, batch) => snapshot.readOf host batch

/-- Strict metrics of a host fail with the first refusal among its answers. -/
theorem metricsOf_strict (snapshot : Snapshot) (host : String)
    (batch : Except IpmiError (List Response)) :
    snapshot.metricsOf true host batch
      = match (snapshot.readOf host batch).findSome? (·.2.refusal?) with
        | some error => .error error
        | none => snapshot.metricsOf false host batch := by
  -- A batch that fails has no answers, so nothing is refused.
  cases batch with
  | error error => rfl
  | ok responses => exact Metrics.addAll_strict ∅ _

/-- Lenient metrics of a host never fail. -/
theorem metricsOf_lenient (snapshot : Snapshot) (host : String)
    (batch : Except IpmiError (List Response)) :
    ∃ metrics, snapshot.metricsOf false host batch = .ok metrics := by
  -- A batch that failed leaves no metrics, and any other is added leniently.
  cases batch with
  | error error => exact ⟨∅, rfl⟩
  | ok responses => exact ⟨_, Metrics.addAll_lenient ∅ _⟩

/-- Gathering strictly fails with the first refusal of all, and is like gathering leniently else. -/
theorem gather_strict (snapshot : Snapshot) (hosts : List String)
    (batches : List (Except IpmiError (List Response))) (found : HostMetrics) :
    ∃ gathered,
      Collector.gather found (hosts.zip (hosts.zipWith (snapshot.metricsOf false) batches))
        = .ok gathered ∧
      Collector.gather found (hosts.zip (hosts.zipWith (snapshot.metricsOf true) batches))
        = match ((hosts.zip batches).flatMap fun (host, batch) =>
            snapshot.readOf host batch).findSome? (·.2.refusal?) with
          | some error => .error error
          | none => .ok gathered := by
  -- Each host is either where the first refusal is, or adds the same metrics in both modes.
  induction hosts generalizing batches found with
  | nil => exact ⟨found, rfl, rfl⟩
  | cons host rest ih =>
    -- Without a batch there is no result for the host either.
    cases batches with
    | nil => exact ⟨found, rfl, rfl⟩
    | cons batch others =>
      obtain ⟨metrics, lenient⟩ := snapshot.metricsOf_lenient host batch
      obtain ⟨gathered, same, strict⟩ := ih others (found.insert host metrics)
      simp only [List.zipWith_cons_cons, List.zip_cons_cons, List.flatMap_cons,
        List.findSome?_append, metricsOf_strict snapshot host batch, lenient, Collector.gather]
      refine ⟨gathered, same, ?_⟩
      -- The first refusal is among this host's answers, or among those of the others.
      cases (snapshot.readOf host batch).findSome? (·.2.refusal?) with
      | some error => rfl
      | none => exact strict

/-- A strict outcome is the lenient one unless an answer that is read is refused. -/
theorem outcome_strict (snapshot : Snapshot) (batches : List (Except IpmiError (List Response))) :
    ∃ gathered, snapshot.outcome false batches = .ok gathered ∧
      snapshot.outcome true batches
        = match (snapshot.read batches).findSome? (·.2.refusal?) with
          | some error => .error error
          | none => .ok gathered :=
  snapshot.gather_strict snapshot.hosts batches ∅

/-- A strict outcome is an error exactly if an answer that is read is refused. -/
theorem outcome_strict_error (snapshot : Snapshot)
    (batches : List (Except IpmiError (List Response))) :
    (∃ error, snapshot.outcome true batches = .error error) ↔
      ∃ answer ∈ snapshot.read batches, answer.2.refusal?.isSome := by
  -- Some answer is refused exactly if there is a first one.
  obtain ⟨gathered, _, strict⟩ := snapshot.outcome_strict batches
  rw [strict, ← List.findSome?_isSome_iff]
  cases (snapshot.read batches).findSome? (·.2.refusal?) with
  | some error => simp
  | none => simp

/-- An answer is read exactly if it answers a request of a host whose batch succeeded. -/
theorem mem_read {snapshot : Snapshot} {batches : List (Except IpmiError (List Response))}
    {answer : Description × Response} :
    answer ∈ snapshot.read batches ↔ ∃ host responses,
      (host, .ok responses) ∈ snapshot.hosts.zip batches ∧
        answer ∈ (snapshot.descriptions host).zip responses := by
  -- The answers read are those of hosts whose batch did not fail.
  rw [read, List.mem_flatMap]
  constructor
  · rintro ⟨⟨host, batch⟩, paired, member⟩
    cases batch with
    | error error => cases member
    | ok responses => exact ⟨host, responses, paired, member⟩
  · rintro ⟨host, responses, paired, member⟩
    exact ⟨(host, .ok responses), paired, member⟩

end Snapshot

namespace Collector

variable {I : Interface}

/-- The same collector in strict or in lenient mode. -/
def inMode (collector : Collector I) (strict : Bool) : Collector I :=
  { collector with options := { collector.options with strict } }

/-- Asks a host for everything that it was found to answer. -/
def ask (collector : Collector I) (snapshot : Snapshot) (host : String) :
    Dialogue I (Except IpmiError (List Response)) :=
  collector.transport.batch host ((snapshot.descriptions host).map (·.request))

/-- Asks every host for everything that it was found to answer. -/
def askAll (collector : Collector I) (snapshot : Snapshot) :
    Dialogue I (List (Except IpmiError (List Response))) :=
  snapshot.hosts.mapM (collector.ask snapshot)

/-- Without its reports, nothing is left of reporting. -/
theorem silenced_reportAll (events : List Event) :
    (reportAll events : Dialogue I Unit).silenced = pure () := by
  induction events with
  | nil => rfl
  -- Each report vanishes by itself.
  | cons event rest ih =>
    change (Dialogue.report event >>= fun _ => reportAll rest).silenced = _
    rw [Dialogue.silenced_bind, Dialogue.silenced_report, pure_bind]
    exact ih

/-- Apart from reports, a host is asked, and its metrics are made of what its batch came to. -/
theorem silenced_collectHost (collector : Collector I) (snapshot : Snapshot) (host : String) :
    (collector.collectHost snapshot host).silenced
      = snapshot.metricsOf collector.options.strict host
          <$> (collector.ask snapshot host).silenced := by
  -- The host is asked once, and whatever is reported about the answers goes.
  rw [collectHost, Dialogue.silenced_bind, map_eq_pure_bind]
  refine congrArg _ (funext fun batch => ?_)
  cases batch with
  -- A failed batch is reported, and its metrics are empty in either form.
  | error error => rfl
  | ok responses =>
    simp only [Dialogue.silenced_bind, silenced_reportAll, pure_bind, Dialogue.silenced_pure]
    rfl

/-- Apart from reports, all hosts are asked before anything is made of the answers. -/
theorem silenced_collect (collector : Collector I) (snapshot : Snapshot) :
    (collector.collect snapshot).silenced
      = snapshot.outcome collector.options.strict <$> (collector.askAll snapshot).silenced := by
  -- What is made of one host's batch may as well be made after all hosts are asked.
  have later : ∀ hosts : List String,
      (hosts.mapM (collector.collectHost snapshot)).silenced
        = hosts.zipWith (snapshot.metricsOf collector.options.strict)
            <$> (hosts.mapM (collector.ask snapshot)).silenced := by
    intro hosts
    simp only [Dialogue.silenced_mapM, silenced_collectHost]
    -- The hosts are gone through in order, once for asking and once for making.
    induction hosts with
    | nil => rfl
    | cons host rest ih =>
      rw [List.mapM_cons, List.mapM_cons, ih]
      simp only [map_eq_pure_bind, bind_assoc, pure_bind, List.zipWith_cons_cons]
  -- The report about the end vanishes with the others.
  have unreported : ∀ gathered : Except IpmiError HostMetrics,
      (do
        if gathered.isOk then Dialogue.report .collectionCompleted
        return gathered : Dialogue I (Except IpmiError HostMetrics)).silenced = pure gathered := by
    intro gathered
    cases gathered <;> rfl
  rw [collect, Dialogue.silenced_bind]
  simp only [unreported, later, askAll, map_eq_pure_bind, bind_assoc, pure_bind]
  rfl

section Runs

variable {σ : Type} (collector : Collector I) (snapshot : Snapshot)
  (handler : Dialogue.Handler I σ) (memory : σ)

/-- A collection asks every host for what it was found to answer, and nothing else. -/
theorem transcript_collect : (collector.collect snapshot).transcript handler memory
    = (collector.askAll snapshot).transcript handler memory := by
  -- The silenced collection maps over the batches, which takes no exchange.
  rw [← Dialogue.transcript_silenced, silenced_collect, Dialogue.transcript_map,
    Dialogue.transcript_silenced]

/-- A collection comes to what is made of the batches of all hosts. -/
theorem run_collect : ((collector.collect snapshot).run handler memory).1
    = snapshot.outcome collector.options.strict
        ((collector.askAll snapshot).run handler memory).1 := by
  change ((collector.collect snapshot).reach handler memory).1
    = snapshot.outcome _ ((collector.askAll snapshot).reach handler memory).1
  -- Silencing leaves results as they are, so both runs can be compared without reports.
  rw [← Dialogue.reach_silenced, silenced_collect, map_eq_pure_bind, Dialogue.reach_bind,
    Dialogue.reach_pure, Dialogue.reach_silenced]

/--
A strict collection is a lenient one that ends with the first answer that it cannot decode.

Both put the same questions. The lenient one always comes to metrics, and the strict one comes to
the same metrics unless a batch that succeeded has an answer that is vouched for and is empty or
has a completion code other than zero. It fails with the first such answer then, in the order of
the sorted hosts and of the requests of each.
-/
theorem strict_agrees :
    ((collector.inMode true).collect snapshot).transcript handler memory
      = ((collector.inMode false).collect snapshot).transcript handler memory ∧
    snapshot.hosts.Pairwise (compare · · = .lt) ∧
    ∃ batches, ((collector.askAll snapshot).run handler memory).1 = batches ∧
    ∃ metrics, (((collector.inMode false).collect snapshot).run handler memory).1 = .ok metrics ∧
      (((collector.inMode true).collect snapshot).run handler memory).1
        = (match (snapshot.read batches).findSome? (·.2.refusal?) with
          | some error => .error error
          | none => .ok metrics) ∧
      ((∃ error, (((collector.inMode true).collect snapshot).run handler memory).1 = .error error)
        ↔ ∃ host responses description response,
          (host, .ok responses) ∈ snapshot.hosts.zip batches ∧
          (description, response) ∈ (snapshot.descriptions host).zip responses ∧
          response.valid ∧
          (response.data = [] ∨ ∃ code ≠ 0, response.completionCode = some code)) := by
  refine ⟨?_, Std.TreeMap.ordered_keys, _, rfl, ?_⟩
  · -- Both transcripts are the one of asking all hosts, whatever the mode.
    rw [transcript_collect, transcript_collect]
    rfl
  obtain ⟨metrics, lenient, strict⟩ :=
    snapshot.outcome_strict ((collector.askAll snapshot).run handler memory).1
  have strictly := run_collect (collector.inMode true) snapshot handler memory
  refine ⟨metrics, (run_collect (collector.inMode false) snapshot handler memory).trans lenient,
    strictly.trans strict, ?_⟩
  -- The answer that an error comes from is one of those that are read, and the other way round.
  rw [strictly]
  refine (snapshot.outcome_strict_error _).trans ?_
  constructor
  -- The answer is read, so it stands in a batch that succeeded.
  · rintro ⟨⟨description, response⟩, member, refused⟩
    obtain ⟨host, responses, paired, place⟩ := Snapshot.mem_read.mp member
    exact ⟨host, responses, description, response, paired, place,
      Response.isSome_refusal?.mp refused⟩
  · rintro ⟨host, responses, description, response, paired, place, refused⟩
    exact ⟨(description, response), Snapshot.mem_read.mpr ⟨host, responses, paired, place⟩,
      Response.isSome_refusal?.mpr refused⟩

end Runs

end Collector

end BmcTelemetry
