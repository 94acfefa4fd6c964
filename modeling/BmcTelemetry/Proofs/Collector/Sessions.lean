import BmcTelemetry.Proofs.Collector.Coverage
import BmcTelemetry.Proofs.Collector.Orders
import Mathlib.Data.List.Induction

/-!
Sessions: what readers see of a collector, whatever calls it gets and whatever is answered.

The invariant of a session says whose inventories and health are known. It depends on the calls so
far only by whether health was read once more since the last survey.
-/

namespace BmcTelemetry

open Dialogue (Ensures ensures_bind ensures_foldlM ensures_pure)

/-- One call to a collector. -/
inductive Call where
  /-- An order to be carried out. -/
  | order (order : Order)
  /-- The question which metrics can be reported. -/
  | metricNames
deriving DecidableEq, Repr

namespace Call

/-- Whether health was read once more since the last survey. -/
def RefreshedSince (calls : List Call) : Prop :=
  ∃ before after, calls = before ++ .order .refreshHealth :: after ∧ .order .survey ∉ after

/-- Whether health was read once more, after a call and given whether it was before. -/
def leaves (refreshed : Prop) : Call → Prop
  | .order given => given.leaves refreshed
  | .metricNames => refreshed

/-- The last call decides, or else those before it do. -/
theorem refreshedSince_append (calls : List Call) (call : Call) :
    RefreshedSince (calls ++ [call]) ↔ call.leaves (RefreshedSince calls) := by
  -- The call is the refresh, or it leaves open what those before it decided.
  constructor
  · rintro ⟨before, after, split, quiet⟩
    -- The refresh is the last call itself, or it stands among those before it.
    rcases List.eq_nil_or_concat after with rfl | ⟨others, last, rfl⟩
    · obtain ⟨_, same⟩ := List.append_inj' split rfl
      obtain rfl := (List.cons.inj same).1
      trivial
    -- The call comes behind the refresh, which leaves it among those before.
    · rw [List.concat_eq_append, ← List.cons_append, ← List.append_assoc] at split
      obtain ⟨rfl, same⟩ := List.append_inj' split rfl
      obtain rfl := (List.cons.inj same).1
      have earlier : RefreshedSince (before ++ .order .refreshHealth :: others) :=
        ⟨before, others, rfl, fun member => quiet (by simp [member])⟩
      -- A survey behind the refresh would contradict it, and no other call matters.
      match call with
      | .order .survey => exact quiet (by simp)
      | .order .refreshHealth => trivial
      | .order .collect => exact earlier
      | .metricNames => exact earlier
  -- Each call says by itself what it leaves.
  · intro left
    match call with
    | .order .survey => exact left.elim
    | .order .refreshHealth => exact ⟨calls, [], rfl, List.not_mem_nil⟩
    -- A call that only reads is added behind the refresh.
    | .order .collect =>
      obtain ⟨before, after, rfl, quiet⟩ := left
      exact ⟨before, after ++ [.order .collect], by simp, by simp [quiet]⟩
    | .metricNames =>
      obtain ⟨before, after, rfl, quiet⟩ := left
      exact ⟨before, after ++ [.metricNames], by simp, by simp [quiet]⟩

end Call

/-- How a session with a collector stands. -/
structure Session where
  /-- How far the collector has come. -/
  progress : Progress
  /-- The names that were told last, once they were. -/
  names : Option (List MetricName)

namespace Session

/-- The beginning, before any call. -/
def initial : Session :=
  { progress := .initial, names := none }

/-- What readers see. -/
def published (session : Session) : Publication :=
  session.progress.publication

end Session

namespace Collector

variable {I : Interface} {collector : Collector I}

/-- Serves a call. -/
def serve (collector : Collector I) (session : Session) : Call → Dialogue I Session
  | .order order => return { session with progress := ← collector.carryOut session.progress order }
  | .metricNames =>
    return { session with names := some session.published.snapshot.metricNames }

/-- Serves calls one after another, from the beginning. -/
def serveAll (collector : Collector I) (calls : List Call) : Dialogue I Session :=
  calls.foldlM collector.serve .initial

/-- Later calls are served from where those before them leave a session. -/
theorem serveAll_append (calls later : List Call) :
    collector.serveAll (calls ++ later)
      = collector.serveAll calls >>= fun session => later.foldlM collector.serve session :=
  List.foldlM_append

/-- What later calls ensure of any session relates a run to its continuation. -/
theorem run_serveAll_append {calls later : List Call} {Holds : Session → Session → Prop}
    (ensures : ∀ session, (later.foldlM collector.serve session).Ensures (Holds session))
    {σ : Type} (handler : Dialogue.Handler I σ) (memory : σ) :
    Holds ((collector.serveAll calls).run handler memory).1
      ((collector.serveAll (calls ++ later)).run handler memory).1 := by
  -- The run of all calls is the run of the first ones and then of the later ones.
  change Holds _ ((collector.serveAll (calls ++ later)).reach handler memory).1
  rw [serveAll_append, Dialogue.reach_bind]
  exact (ensures _).run handler _

section Steps

variable {session : Session}

/-- Each call leaves it known of each host what the options ask for. -/
theorem ensures_serve (selects : collector.transport.Selects collector.options.protocol)
    {refreshed : Prop} (keyed : session.published.snapshot.Keyed collector.options refreshed)
    (call : Call) :
    (collector.serve session call).Ensures fun reached =>
      reached.published.snapshot.Keyed collector.options (call.leaves refreshed) := by
  -- An order leaves what it says, and the question about names changes nothing.
  cases call with
  | order order =>
    exact (ensures_carryOut selects keyed order).bind fun _ keyed => ensures_pure keyed
  | metricNames => exact ensures_pure keyed

/-- Nothing but a survey replaces what was found of the hosts and their inventories. -/
theorem ensures_carryOut_learned {progress : Progress} {order : Order} (other : order ≠ .survey) :
    (collector.carryOut progress order).Ensures fun reached =>
      reached.publication.snapshot.capabilities = progress.publication.snapshot.capabilities ∧
        reached.publication.snapshot.inventory = progress.publication.snapshot.inventory := by
  -- A survey is excluded, so two orders are left.
  cases order with
  | survey => exact absurd rfl other
  | refreshHealth =>
    -- Only the health of the snapshot is another one.
    have kept : (collector.refreshHealth progress.publication.snapshot).Ensures fun snapshot =>
        snapshot.capabilities = progress.publication.snapshot.capabilities ∧
          snapshot.inventory = progress.publication.snapshot.inventory :=
      ensures_bind _ fun _ => ensures_pure ⟨rfl, rfl⟩
    exact kept.bind fun _ same => ensures_pure same
  -- A collection touches nothing of the snapshot.
  | collect => exact ensures_bind _ fun _ => ensures_pure ⟨rfl, rfl⟩

/-- Any call but a survey leaves these in place. -/
theorem ensures_serve_learned {call : Call} (other : call ≠ .order .survey) :
    (collector.serve session call).Ensures fun reached =>
      reached.published.snapshot.capabilities = session.published.snapshot.capabilities ∧
        reached.published.snapshot.inventory = session.published.snapshot.inventory := by
  -- A call is an order other than a survey, or the question about names.
  cases call with
  | order order =>
    have given : order ≠ .survey := fun same => other (congrArg Call.order same)
    exact (ensures_carryOut_learned given).bind fun _ same => ensures_pure same
  | metricNames => exact ensures_pure ⟨rfl, rfl⟩

/-- A call that only reads leaves what readers see in its place. -/
theorem ensures_serve_reading {call : Call} (reads : call = .order .collect ∨ call = .metricNames) :
    (collector.serve session call).Ensures fun reached =>
      reached.published = session.published := by
  rcases reads with rfl | rfl
  -- What is collected is kept apart from what readers see.
  · have kept : (collector.carryOut session.progress .collect).Ensures fun reached =>
        reached.publication = session.published := ensures_bind _ fun _ => ensures_pure rfl
    exact kept.bind fun _ same => ensures_pure same
  · exact ensures_pure rfl

end Steps

/-- Whatever calls are served, it is known of each host what the options ask for. -/
theorem ensures_serveAll (selects : collector.transport.Selects collector.options.protocol)
    (calls : List Call) :
    (collector.serveAll calls).Ensures fun reached =>
      reached.published.snapshot.Keyed collector.options (Call.RefreshedSince calls) := by
  -- The last call is served from what those before it leave.
  induction calls using List.reverseRecOn with
  -- Before any call nothing is known, and nothing was read once more.
  | nil =>
    refine ensures_pure ?_
    have never : ¬ Call.RefreshedSince [] := fun ⟨_, _, split, _⟩ => by simp at split
    rw [show Call.RefreshedSince [] = False from propext (iff_false_intro never)]
    exact Snapshot.keyed_empty collector.options
  | append_singleton calls call ih =>
    rw [serveAll_append]
    -- The session that the calls before it leave has everything known that the call relies on.
    refine ih.bind fun session keyed => ?_
    refine (ensures_serve selects keyed call).bind fun _ served => ensures_pure ?_
    rwa [Call.refreshedSince_append]

/-- Calls without a survey leave in place what was found of the hosts and their inventories. -/
theorem ensures_foldlM_learned {later : List Call} (quiet : .order .survey ∉ later)
    (session : Session) :
    (later.foldlM collector.serve session).Ensures fun reached =>
      reached.published.snapshot.capabilities = session.published.snapshot.capabilities ∧
        reached.published.snapshot.inventory = session.published.snapshot.inventory := by
  -- No call of these is a survey, so each leaves what it found in place.
  refine ensures_foldlM (fun reached call member same => ?_) ⟨rfl, rfl⟩
  have other : call ≠ .order .survey := fun survey => quiet (survey ▸ member)
  exact (ensures_serve_learned other).imp fun _ kept =>
    ⟨kept.1.trans same.1, kept.2.trans same.2⟩

/--
What readers see of a session over a transport that a user can choose.

After any calls, and whatever the machine did, it is known of each host what the options ask for.
What was found of the hosts and their inventories is that of the last survey, nothing before the
first one, and calls that only read publish nothing.
-/
theorem published_invariants (connection : Transport.Options) (name : String) (hosts : List String)
    (options : CollectorOptions) {σ : Type} (handler : Dialogue.Handler machine σ) (memory : σ) :
    let collector := connected connection name hosts options
    let published := fun calls => ((collector.serveAll calls).run handler memory).1.published
    (∀ calls, (published calls).snapshot.Keyed collector.options (Call.RefreshedSince calls)) ∧
    (∀ calls, .order .survey ∉ calls →
      (published calls).snapshot.capabilities = ∅ ∧ (published calls).snapshot.inventory = ∅ ∧
        ∀ host, host ∉ (published calls).snapshot.health) ∧
    (∀ calls later, .order .survey ∉ later →
      (published (calls ++ .order .survey :: later)).snapshot.capabilities
        = (published (calls ++ [.order .survey])).snapshot.capabilities ∧
      (published (calls ++ .order .survey :: later)).snapshot.inventory
        = (published (calls ++ [.order .survey])).snapshot.inventory) ∧
    ∀ calls call, call = .order .collect ∨ call = .metricNames →
      published (calls ++ [call]) = published calls := by
  intro collector published
  -- The transport is one that a user can choose, so it selects among the candidates.
  have selects : collector.transport.Selects collector.options.protocol :=
    Transport.selects_connect connection name
  -- The invariant holds for any calls, and all else follows from it or from the later calls.
  have keyed : ∀ calls,
      (published calls).snapshot.Keyed collector.options (Call.RefreshedSince calls) :=
    fun calls => (ensures_serveAll selects calls).run handler memory
  refine ⟨keyed, fun calls quiet => ?_, fun calls later quiet => ?_, fun calls call reads => ?_⟩
  · -- Without a survey the beginning stays, which has no hosts.
    have learned : (published calls).snapshot.capabilities = ∅ ∧
        (published calls).snapshot.inventory = ∅ :=
      (ensures_foldlM_learned quiet .initial).run handler memory
    refine ⟨learned.1, learned.2, fun host known => ?_⟩
    have listed := (((keyed calls).health host).mp known).2
    rw [Snapshot.hosts, learned.1] at listed
    simp at listed
  -- The survey is the last of the calls in front, and none of the later ones is another.
  · rw [show calls ++ .order .survey :: later = (calls ++ [.order .survey]) ++ later by simp]
    exact run_serveAll_append (ensures_foldlM_learned quiet) handler memory
  -- The call is served from where those before it leave the session.
  · have kept : ∀ session, ([call].foldlM collector.serve session).Ensures fun reached =>
        reached.published = session.published := fun session =>
      (ensures_serve_reading reads).bind fun _ same => ensures_pure same
    exact run_serveAll_append kept handler memory

end Collector

end BmcTelemetry
