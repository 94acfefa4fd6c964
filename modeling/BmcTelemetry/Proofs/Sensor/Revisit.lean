import BmcTelemetry.Proofs.Sensor.Chain
import BmcTelemetry.Proofs.Sensor.Truthful
import Mathlib.Logic.Relation

/-! Revisits: which records a scan accepts twice, whatever the links of the records look like. -/

namespace BmcTelemetry.Sensor

open Dialogue (Course)

/-- The ids of the records that a scan accepted, whether or not it ended early. -/
def acceptedIds : Except PartialScan (List Record) → List UInt16
  | .ok records => records.map (·.header.id)
  | .error scan => scan.records.map (·.header.id)

/-- A record that can be read leads on to its link, unless that is the mark of the end. -/
def Leads (contents : List Stored) (id next : UInt16) : Prop :=
  ∃ stored, named? contents id = some stored ∧ stored.Readable ∧ stored.nextId = next ∧
    next ≠ lastId

/-- The ids that a walk accepted. -/
def Harvest.ids (harvest : Harvest) : List UInt16 :=
  harvest.records.map (·.header.id)

/-- A scan accepts what its walk accepts. -/
theorem acceptedIds_toExcept (harvest : Harvest) : acceptedIds harvest.toExcept = harvest.ids := by
  -- With or without a failure, the accepted records are the same.
  obtain ⟨records, failure⟩ := harvest
  cases failure <;> rfl

/-- A kept record puts its id in front. -/
theorem Harvest.ids_keep (kept : Option Record) (rest : Harvest) :
    (rest.keep kept).ids = (kept.map (·.header.id)).toList ++ rest.ids := by
  cases kept <;> rfl

/-- The record that a stored one describes bears its id. -/
theorem Stored.ids_sensor? (stored : Stored) :
    (stored.sensor?.map (·.header.id)).toList
      = if stored.header.isSensor then [stored.id] else [] := by
  -- Only the record of a sensor describes one.
  unfold Stored.sensor?
  split
  · rfl
  · rfl

/-- A record that has a name is known by its own id, and under no other name but zero. -/
theorem named?_own {contents : List Stored} {id : UInt16} {stored : Stored}
    (named : named? contents id = some stored) :
    named? contents stored.id = some stored ∧ (id = 0 ∨ id = stored.id) := by
  by_cases zero : id = 0
  · -- Zero names the first record.
    rw [named?, if_pos zero] at named
    obtain ⟨rest, rfl⟩ := List.head?_eq_some_iff.mp named
    exact ⟨named?_head_id stored rest, .inl zero⟩
  -- Any other id names the record that begins with it.
  · have same := named?_some_id zero named
    exact ⟨by rwa [same], .inr same.symm⟩

namespace Walk

variable {walk : Walk} {first : Stored} {rest : List Stored} {contents : List Stored}
  {visited : List UInt16} {id : UInt16} {exchanges : List (Exchange controller)}
  {harvest : Harvest}

/-- An accepted record bears the id it was asked for; the first one bears its own. -/
theorem reads_truthful {header : RecordHeader} {record : Record} (paged : 0 < walk.page)
    (nonzero : ∀ stored ∈ first :: rest, stored.id ≠ 0)
    (truthful : ∀ exchange ∈ exchanges,
      Truthful walk.repository (first :: rest) walk.reservation exchange)
    (reads : Reads walk id exchanges (.ok (header, some record))) :
    record.header.id = if id = 0 then first.id else id := by
  -- Only one way of reading a record accepts it.
  cases reads with
  | accepted read sensor body =>
    obtain ⟨headed, headNamed, same⟩ := readHeader_truthful nonzero
      (fun exchange member => truthful exchange (by simp [member])) read
    obtain ⟨_, stored, named, own⟩ := readRecord_truthful paged nonzero
      (fun exchange member => truthful exchange (by simp [member])) body
    by_cases zero : id = 0
    · -- The header under zero tells the first record's id, by which its body is then read.
      rw [if_pos zero] at named ⊢
      rw [zero, named?, if_pos rfl] at headNamed
      obtain rfl : first = headed := by simpa using headNamed
      rw [same, named?_head_id] at named
      obtain rfl : first = stored := by simpa using named
      exact own
    -- The id is not zero, so the body was read under the id itself.
    · rw [if_neg zero] at named ⊢
      rw [own, named?_some_id zero named]

/-- After the first record, a walk accepts different ids, none of which it had visited. -/
theorem visits_fresh (paged : 0 < walk.page) (nonzero : ∀ stored ∈ first :: rest, stored.id ≠ 0)
    (visits : walk.Visits visited id exchanges harvest) :
    0 ∈ visited →
    (∀ exchange ∈ exchanges, Truthful walk.repository (first :: rest) walk.reservation exchange) →
    harvest.ids.Nodup ∧ ∀ accepted ∈ harvest.ids, accepted ∉ visited := by
  -- Zero was visited, so each record is known by its own id, and an id is visited only once.
  induction visits with
  -- A walk that ends here accepts nothing more.
  | revisited seen =>
    intro _ _
    exact ⟨List.nodup_nil, by simp [Harvest.ids, Harvest.stopped]⟩
  | failed fresh reads =>
    intro _ _
    exact ⟨List.nodup_nil, by simp [Harvest.ids, Harvest.stopped]⟩
  -- The last record is accepted if it is that of a sensor, and its id was not visited.
  | @ended visited id exchanges header kept fresh reads last =>
    intro started truthful
    cases kept with
    | none => exact ⟨List.nodup_nil, by simp [Harvest.ids, Harvest.keep, Harvest.complete]⟩
    | some record =>
      have zero : id ≠ 0 := fun zero => fresh (zero ▸ started)
      have same := reads_truthful paged nonzero truthful reads
      rw [if_neg zero] at same
      rw [Harvest.ids_keep]
      simpa [Harvest.ids, Harvest.complete, same] using fresh
  -- The rest of the walk starts with this id visited, and the record is put in front.
  | @onward visited id exchanges others header kept harvest fresh reads more onward ih =>
    intro started truthful
    obtain ⟨distinct, others⟩ := ih (List.mem_cons_of_mem _ started)
      (fun exchange member => truthful exchange (by simp [member]))
    rw [Harvest.ids_keep]
    cases kept with
    | none => exact ⟨distinct, fun accepted member seen =>
        others accepted member (List.mem_cons_of_mem _ seen)⟩
    | some record =>
      have zero : id ≠ 0 := fun zero => fresh (zero ▸ started)
      have same := reads_truthful paged nonzero
        (fun exchange member => truthful exchange (by simp [member])) reads
      rw [if_neg zero] at same
      -- The rest of the walk accepts nothing visited, and this id is visited from now on.
      simp only [Option.map_some, Option.toList_some, List.singleton_append, same]
      refine ⟨List.nodup_cons.mpr ⟨fun again => others id again (by simp), distinct⟩, ?_⟩
      intro accepted member seen
      rcases List.mem_cons.mp member with rfl | later
      · exact fresh seen
      · exact others accepted later (List.mem_cons_of_mem _ seen)

/-- Whatever is read of a served record was not withheld, so all of it is there. -/
theorem reads_readable {header : RecordHeader} {kept : Option Record} (paged : 0 < walk.page)
    (nonzero : ∀ stored ∈ contents, stored.id ≠ 0)
    (served : ∀ exchange ∈ exchanges,
      HandsOut walk.repository contents walk.reservation exchange ∧
        Withholds walk.repository contents walk.reservation exchange)
    (reads : Reads walk id exchanges (.ok (header, kept))) :
    ∃ stored, named? contents id = some stored ∧ stored.Readable := by
  -- A record was read as far as it is kept: the header alone, or the body as well.
  cases reads with
  | skipped read other =>
    obtain ⟨stored, named, hasHeader⟩ :=
      readHeader_withheld (fun exchange member => (served exchange member).2) read
    have same := (readHeader_handsOut named hasHeader
      (fun exchange member => (served exchange member).1) read).1
    obtain rfl := Except.ok.inj same
    -- Of a record that describes no sensor, the header is all there is to read.
    exact ⟨stored, named, hasHeader, by simp [other], by simp [other]⟩
  | accepted read sensor body =>
    obtain ⟨servedHeader, servedBody⟩ := List.forall_mem_append.mp served
    obtain ⟨stored, named, hasHeader⟩ :=
      readHeader_withheld (fun exchange member => (servedHeader exchange member).2) read
    have same := (readHeader_handsOut named hasHeader
      (fun exchange member => (servedHeader exchange member).1) read).1
    obtain rfl := Except.ok.inj same
    -- The body was read by the record's own id, so it is the body of the same record.
    obtain ⟨own, known⟩ := named?_own named
    obtain ⟨other, otherNamed, present⟩ :=
      readRecord_withheld paged (fun exchange member => (servedBody exchange member).2) body
    rw [Stored.bodyId_eq known, own] at otherNamed
    obtain rfl := Option.some.inj otherNamed
    have reaches := (readRecord_truthful paged nonzero (fun exchange member =>
      (servedBody exchange member).1.truthful (servedBody exchange member).2) body).1
    exact ⟨stored, named, hasHeader, fun _ => present, fun _ => reaches⟩

/-- What is read of a record that the controller serves is the record itself, and all of it. -/
theorem reads_served {header : RecordHeader} {kept : Option Record} (paged : 0 < walk.page)
    (nonzero : ∀ stored ∈ contents, stored.id ≠ 0)
    (served : ∀ exchange ∈ exchanges,
      HandsOut walk.repository contents walk.reservation exchange ∧
        Withholds walk.repository contents walk.reservation exchange)
    (reads : Reads walk id exchanges (.ok (header, kept))) :
    ∃ stored, named? contents id = some stored ∧ stored.Readable ∧ header = stored.header ∧
      kept = stored.sensor? := by
  -- Whatever was read of the record was not withheld, so all of it is there.
  obtain ⟨stored, named, readable⟩ := reads_readable paged nonzero served reads
  obtain ⟨own, known⟩ := named?_own named
  -- A record that is all there is handed out as it is stored.
  have same := (reads_handsOut named own known readable paged
    (fun exchange member => (served exchange member).1) reads).1
  obtain ⟨rfl, rfl⟩ := Prod.mk.inj (Except.ok.inj same)
  exact ⟨stored, named, readable, rfl, rfl⟩

/-- A record that the controller serves and that can be read does not end a walk. -/
theorem reads_served_not_error {stored : Stored} {error : IpmiError} (paged : 0 < walk.page)
    (named : named? contents id = some stored) (readable : stored.Readable)
    (served : ∀ exchange ∈ exchanges,
      HandsOut walk.repository contents walk.reservation exchange ∧
        Withholds walk.repository contents walk.reservation exchange) :
    ¬ Reads walk id exchanges (.error error) := by
  intro reads
  obtain ⟨own, known⟩ := named?_own named
  -- Everything is there and handed out, so reading it has another result.
  cases (reads_handsOut named own known readable paged
    (fun exchange member => (served exchange member).1) reads).1

/-- Every record that a walk accepts lies on the links from where the walk started. -/
theorem visits_reach (paged : 0 < walk.page) (nonzero : ∀ stored ∈ contents, stored.id ≠ 0)
    (visits : walk.Visits visited id exchanges harvest) :
    0 ∈ visited →
    (∀ exchange ∈ exchanges, HandsOut walk.repository contents walk.reservation exchange ∧
      Withholds walk.repository contents walk.reservation exchange) →
    ∀ accepted ∈ harvest.ids, Relation.ReflTransGen (Leads contents) id accepted := by
  -- Each record is one link further than the one before, and known by its own id.
  induction visits with
  -- A walk that ends here accepts nothing, so there is nothing to reach.
  | revisited seen => simp [Harvest.ids, Harvest.stopped]
  | failed fresh reads => simp [Harvest.ids, Harvest.stopped]
  | @ended visited id exchanges header kept fresh reads last =>
    intro started served accepted member
    obtain ⟨stored, named, _, rfl, rfl⟩ := reads_served paged nonzero served reads
    have zero : id ≠ 0 := fun zero => fresh (zero ▸ started)
    have own := named?_some_id zero named
    rw [Harvest.ids_keep, Stored.ids_sensor?] at member
    -- Only the record itself can have been kept.
    split at member
    · obtain rfl : accepted = stored.id := by simpa [Harvest.ids, Harvest.complete] using member
      rw [own]
    · simp [Harvest.ids, Harvest.complete] at member
  | @onward visited id exchanges others header kept harvest fresh reads more onward ih =>
    intro started served accepted member
    obtain ⟨stored, named, readable, rfl, rfl⟩ := reads_served paged nonzero
      (fun exchange member => served exchange (by simp [member])) reads
    have zero : id ≠ 0 := fun zero => fresh (zero ▸ started)
    have own := named?_some_id zero named
    have link : Leads contents id stored.nextId := ⟨stored, named, readable, rfl, more⟩
    have onward := ih (List.mem_cons_of_mem _ started)
      (fun exchange member => served exchange (by simp [member]))
    -- The accepted id is this record's own, or one of those behind it.
    rw [Harvest.ids_keep, Stored.ids_sensor?, List.mem_append] at member
    rcases member with here | later
    · split at here
      · obtain rfl := List.mem_singleton.mp here
        rw [own]
      · simp at here
    -- From the link on the id is reached, and the link is one step more.
    · exact .head link (onward accepted later)

/-- A walk meets whatever the links lead to, and accepts the sensors that it meets. -/
theorem visits_closed (paged : 0 < walk.page) (nonzero : ∀ stored ∈ contents, stored.id ≠ 0)
    (visits : walk.Visits visited id exchanges harvest) :
    (∀ exchange ∈ exchanges, HandsOut walk.repository contents walk.reservation exchange ∧
      Withholds walk.repository contents walk.reservation exchange) →
    ∃ met : List UInt16, (id ∈ met ∨ id ∈ visited) ∧
      (∀ name ∈ met, ∀ next, Leads contents name next → next ∈ met ∨ next ∈ visited) ∧
      ∀ name ∈ met, ∀ stored, named? contents name = some stored → stored.Readable →
        stored.header.isSensor → stored.id ∈ harvest.ids := by
  -- The links from what was met lead to what was met: a walk ends where no link leads further.
  induction visits with
  -- The id was visited already, and nothing new is met.
  | revisited seen =>
    intro _
    exact ⟨[], .inr seen, by simp, by simp⟩
  -- A record that cannot be read has no link to follow.
  | @failed visited id exchanges error fresh reads =>
    intro served
    refine ⟨[id], .inl (by simp), fun name member next leads => ?_,
      fun name member stored named readable _ => ?_⟩
    · obtain rfl := List.mem_singleton.mp member
      obtain ⟨stored, named, readable, _⟩ := leads
      exact absurd reads (reads_served_not_error paged named readable served)
    · obtain rfl := List.mem_singleton.mp member
      exact absurd reads (reads_served_not_error paged named readable served)
  -- The last record is met, and it links to the mark of the end.
  | @ended visited id exchanges header kept fresh reads last =>
    intro served
    obtain ⟨stored, named, _, rfl, rfl⟩ := reads_served paged nonzero served reads
    refine ⟨[id], .inl (by simp), fun name member next leads => ?_,
      fun name member other otherNamed _ sensor => ?_⟩
    · obtain rfl := List.mem_singleton.mp member
      obtain ⟨other, otherNamed, _, rfl, more⟩ := leads
      obtain rfl := Option.some.inj (named.symm.trans otherNamed)
      exact absurd last more
    · obtain rfl := List.mem_singleton.mp member
      obtain rfl := Option.some.inj (named.symm.trans otherNamed)
      rw [Harvest.ids_keep, Stored.ids_sensor?, if_pos sensor]
      simp
  | @onward visited id exchanges others header kept harvest fresh reads more onward ih =>
    intro served
    obtain ⟨stored, named, readable, rfl, rfl⟩ := reads_served paged nonzero
      (fun exchange member => served exchange (by simp [member])) reads
    obtain ⟨met, reached, closed, accepts⟩ :=
      ih (fun exchange member => served exchange (by simp [member]))
    -- The record itself is met, and no longer counted among those visited before.
    have counted : ∀ {next : UInt16}, next ∈ met ∨ next ∈ id :: visited →
        next ∈ id :: met ∨ next ∈ visited := by
      intro next before
      rcases before with later | seen
      · exact .inl (List.mem_cons_of_mem _ later)
      · rcases List.mem_cons.mp seen with rfl | seen
        · exact .inl List.mem_cons_self
        · exact .inr seen
    refine ⟨id :: met, .inl (by simp), fun name member next leads => ?_,
      fun name member other otherNamed otherReadable sensor => ?_⟩
    -- The link of this record leads to where the rest starts, and the others are closed already.
    · rcases List.mem_cons.mp member with rfl | later
      · obtain ⟨other, otherNamed, _, rfl, _⟩ := leads
        obtain rfl := Option.some.inj (named.symm.trans otherNamed)
        exact counted reached
      · exact counted (closed name later next leads)
    -- A sensor that is met is this one or one of those behind it.
    · rw [Harvest.ids_keep, Stored.ids_sensor?, List.mem_append]
      rcases List.mem_cons.mp member with rfl | later
      · obtain rfl := Option.some.inj (named.symm.trans otherNamed)
        exact .inl (by simp [sensor])
      · exact .inr (accepts name later other otherNamed otherReadable sensor)

/-- A walk accepts the first record at most once under zero, and all others at most once. -/
theorem visits_erase_nodup (paged : 0 < walk.page)
    (nonzero : ∀ stored ∈ first :: rest, stored.id ≠ 0)
    (truthful : ∀ exchange ∈ exchanges,
      Truthful walk.repository (first :: rest) walk.reservation exchange)
    (visits : walk.Visits [] 0 exchanges harvest) : (harvest.ids.erase first.id).Nodup := by
  -- After the first record, the walk remembers zero and accepts different ids.
  cases visits with
  | revisited seen => exact absurd seen (by simp)
  -- A scan that ends here has accepted nothing.
  | failed fresh reads => simp [Harvest.ids, Harvest.stopped]
  | @ended _ _ _ header kept fresh reads last =>
    rw [Harvest.ids_keep]
    -- The only record is accepted once or not at all.
    cases kept with
    | none => simp [Harvest.ids, Harvest.complete]
    | some record =>
      exact ((List.nodup_singleton record.header.id).erase first.id)
  | @onward _ _ exchanges others header kept harvest fresh reads more onward =>
    obtain ⟨distinct, _⟩ := visits_fresh paged nonzero onward (by simp)
      (fun exchange member => truthful exchange (by simp [member]))
    rw [Harvest.ids_keep]
    cases kept with
    | none => exact distinct.erase first.id
    | some record =>
      -- The record accepted under zero is the first one, and it is the one that is erased.
      have same := reads_truthful paged nonzero
        (fun exchange member => truthful exchange (by simp [member])) reads
      rw [if_pos rfl] at same
      simpa [same] using distinct

/-- A walk repeats an id exactly when links lead from the first record, a sensor, back to it. -/
theorem visits_nodup_iff (paged : 0 < walk.page)
    (nonzero : ∀ stored ∈ first :: rest, stored.id ≠ 0)
    (served : ∀ exchange ∈ exchanges,
      HandsOut walk.repository (first :: rest) walk.reservation exchange ∧
        Withholds walk.repository (first :: rest) walk.reservation exchange)
    (visits : walk.Visits [] 0 exchanges harvest) :
    harvest.ids.Nodup ↔ ¬ (first.header.isSensor ∧
      Relation.TransGen (Leads (first :: rest)) first.id first.id) := by
  have head : named? (first :: rest) 0 = some first := rfl
  have own := named?_head_id first rest
  -- Only a first record that others follow can be met again.
  cases visits with
  | revisited seen => exact absurd seen (by simp)
  | failed fresh reads =>
    -- A first record that cannot be read leads nowhere.
    refine iff_of_true (by simp [Harvest.ids, Harvest.stopped]) fun ⟨_, back⟩ => ?_
    obtain ⟨next, ⟨stored, named, readable, _⟩, _⟩ := Relation.TransGen.head'_iff.mp back
    obtain rfl := Option.some.inj (own.symm.trans named)
    exact reads_served_not_error paged head readable served reads
  -- The first record is the last one, so no link leads from it.
  | @ended _ _ _ header kept fresh reads last =>
    obtain ⟨stored, named, _, rfl, rfl⟩ := reads_served paged nonzero served reads
    obtain rfl := Option.some.inj (head.symm.trans named)
    refine iff_of_true ?_ fun ⟨_, back⟩ => ?_
    · rw [Harvest.ids_keep, Stored.ids_sensor?]
      split
      · exact List.nodup_singleton _
      · exact List.nodup_nil
    · obtain ⟨next, ⟨other, otherNamed, _, rfl, more⟩, _⟩ := Relation.TransGen.head'_iff.mp back
      obtain rfl := Option.some.inj (own.symm.trans otherNamed)
      exact more last
  -- The first record is accepted under zero, and others behind it under their own ids.
  | @onward _ _ exchanges others header kept harvest fresh reads more onward =>
    obtain ⟨stored, named, readable, rfl, rfl⟩ := reads_served paged nonzero
      (fun exchange member => served exchange (by simp [member])) reads
    obtain rfl := Option.some.inj (head.symm.trans named)
    have servedOn : ∀ exchange ∈ others,
        HandsOut walk.repository (first :: rest) walk.reservation exchange ∧
          Withholds walk.repository (first :: rest) walk.reservation exchange :=
      fun exchange member => served exchange (by simp [member])
    obtain ⟨distinct, _⟩ := visits_fresh paged nonzero onward (by simp)
      (fun exchange member => (servedOn exchange member).1.truthful (servedOn exchange member).2)
    rw [Harvest.ids_keep, Stored.ids_sensor?]
    -- Only a sensor's record is accepted, and can be accepted again.
    by_cases sensor : first.header.isSensor
    · rw [if_pos sensor, List.singleton_append, List.nodup_cons]
      simp only [distinct, and_true, sensor, true_and]
      refine not_congr ⟨fun again => ?_, fun back => ?_⟩
      -- It was accepted again behind the first link, so links lead back to it.
      · have link : Leads (first :: rest) first.id first.nextId :=
          ⟨first, own, readable, rfl, more⟩
        exact .head' link (visits_reach paged nonzero onward (by simp) servedOn _ again)
      · -- What was met, and zero with it, is closed under the links, so it contains the first id.
        obtain ⟨met, reached, closed, accepts⟩ := visits_closed paged nonzero onward servedOn
        obtain ⟨next, ⟨other, otherNamed, _, rfl, _⟩, path⟩ :=
          Relation.TransGen.head'_iff.mp back
        obtain rfl := Option.some.inj (own.symm.trans otherNamed)
        have within : ∀ name, Relation.ReflTransGen (Leads (first :: rest)) first.nextId name →
            name ∈ met ∨ name ∈ [0] := by
          intro name path
          induction path with
          | refl => exact reached
          | @tail name next _ leads ih =>
            rcases ih with before | zero
            · exact closed name before next leads
            · -- Zero leads where the first record leads.
              obtain rfl := List.mem_singleton.mp zero
              obtain ⟨other, otherNamed, _, rfl, _⟩ := leads
              obtain rfl := Option.some.inj (head.symm.trans otherNamed)
              exact reached
        rcases within first.id path with again | zero
        · exact accepts first.id again first own readable sensor
        · exact absurd (List.mem_singleton.mp zero) (nonzero first (by simp))
    -- A first record of another kind is accepted under neither of its names.
    · rw [if_neg sensor, List.nil_append]
      exact iff_of_true distinct fun both => sensor both.1

end Walk

/--
No scan repeats an id but the first record's.

That one is repeated exactly when the first record is a sensor's and the links lead back to its
own id, under which the walk does not recognise what it has visited as zero.
-/
theorem scan_repeats_iff {σ : Type} (host : String) (repository : Repository)
    {first : Stored} {rest : List Stored} (nonzero : ∀ stored ∈ first :: rest, stored.id ≠ 0)
    (handler : Dialogue.Handler controller σ) (memory : σ) :
    ((∀ exchange ∈ (scan host repository).transcript handler memory, ∀ reservation,
        Truthful repository (first :: rest) reservation exchange) →
      ((acceptedIds ((scan host repository).run handler memory).1).erase first.id).Nodup) ∧
    ∀ reservation, (∀ exchange ∈ (scan host repository).transcript handler memory,
        HandsOut repository (first :: rest) reservation exchange ∧
          Withholds repository (first :: rest) reservation exchange) →
      ((acceptedIds ((scan host repository).run handler memory).1).Nodup ↔
        ¬ (first.header.isSensor ∧
          Relation.TransGen (Leads (first :: rest)) first.id first.id)) := by
  -- The scan has no walk, or it accepts what its walk accepts.
  have course := course_scan (Dialogue.course_run handler (scan host repository) memory)
  constructor
  · intro truthful
    rcases course with ⟨error, _, ended⟩ | ⟨walk, opening, reads, harvest, started, visits, split,
      ended⟩
    -- Without a walk nothing is accepted.
    · rw [ended]
      simp [acceptedIds]
    -- The opening led to this walk, so that its page is not empty.
    · rw [ended, acceptedIds_toExcept]
      rw [split] at truthful
      rcases course_startWalk started with ⟨_, same, _⟩ |
        ⟨_, _, payload, page, _, _, positive, _, same, _⟩
      · cases same
      obtain rfl := Except.ok.inj same
      exact Walk.visits_erase_nodup positive nonzero
        (fun exchange member => truthful exchange (List.mem_append_right _ member) _) visits
  · intro reservation served
    rcases course with ⟨error, started, _⟩ | ⟨walk, opening, reads, harvest, started, visits,
      split, ended⟩
    · -- A fair controller lets the walk start.
      obtain ⟨page, _, _, same, _⟩ :=
        startWalk_handsOut (fun exchange member => (served exchange member).1) started
      cases same
    -- What is handed out under the reservation of the walk is all that it reads.
    · rw [ended, acceptedIds_toExcept]
      rw [split] at served
      obtain ⟨page, positive, _, same, _⟩ := startWalk_handsOut
        (fun exchange member => (served exchange (List.mem_append_left _ member)).1) started
      obtain rfl := Except.ok.inj same
      exact Walk.visits_nodup_iff positive nonzero
        (fun exchange member => served exchange (List.mem_append_right _ member)) visits

/-- Three sensors, the last of which links back to the second. -/
def innerCycle : List Stored :=
  [⟨[0x01, 0x00, 0x51, 0x02, 0x09, 0x20, 0x00, 0x30, 0x03, 0x01, 0x7f, 0x68, 0x01, 0x6f], 0x0002⟩,
    ⟨[0x02, 0x00, 0x51, 0x02, 0x09, 0x20, 0x00, 0x31, 0x03, 0x01, 0x7f, 0x68, 0x01, 0x6f], 0x0003⟩,
    ⟨[0x03, 0x00, 0x51, 0x02, 0x09, 0x20, 0x00, 0x32, 0x03, 0x01, 0x7f, 0x68, 0x01, 0x6f], 0x0002⟩]

/-- The links of an inner cycle do not lead back to the first record. -/
theorem innerCycle_not_back :
    ¬ Relation.TransGen (Leads innerCycle) 0x0001 0x0001 := by
  -- From the first record on, only the other two are ever reached.
  have onward : ∀ name, Relation.TransGen (Leads innerCycle) 0x0001 name →
      name = 0x0002 ∨ name = 0x0003 := by
    intro name path
    induction path with
    | single leads =>
      obtain ⟨stored, named, _, rfl, _⟩ := leads
      obtain rfl := Option.some.inj named
      exact .inl rfl
    -- The second links to the third, and the third back to the second.
    | tail _ leads ih =>
      obtain ⟨stored, named, _, rfl, _⟩ := leads
      rcases ih with rfl | rfl
      · obtain rfl := Option.some.inj named
        exact .inr rfl
      · obtain rfl := Option.some.inj named
        exact .inl rfl
  intro back
  -- Neither of the two is the first.
  rcases onward _ back with same | same
  · exact absurd same (by decide)
  · exact absurd same (by decide)

/-- A scan into an inner cycle repeats no id. -/
theorem scan_innerCycle :
    (∀ stored ∈ innerCycle, stored.id ≠ 0) ∧
      (∀ exchange ∈ (scan "bmc" .device).transcript
          (Repository.device.serving innerCycle 0x3412 (.answered [0xc1])) (),
        (∀ reservation, Truthful .device innerCycle reservation exchange) ∧
          HandsOut .device innerCycle 0x3412 exchange ∧
          Withholds .device innerCycle 0x3412 exchange) ∧
      (acceptedIds ((scan "bmc" .device).run
        (Repository.device.serving innerCycle 0x3412 (.answered [0xc1])) ()).1).Nodup := by
  -- The chain has no id of zero, and its controller serves all three records.
  have nonzero : ∀ stored ∈ innerCycle, stored.id ≠ 0 := by decide
  have served : ∀ exchange ∈ (scan "bmc" .device).transcript
      (Repository.device.serving innerCycle 0x3412 (.answered [0xc1])) (),
      (∀ reservation, Truthful .device innerCycle reservation exchange) ∧
        HandsOut .device innerCycle 0x3412 exchange ∧
        Withholds .device innerCycle 0x3412 exchange :=
    fun exchange member => ⟨truthful_serve (answer_serving member) (by decide),
      handsOut_serve (answer_serving member), withholds_serve (answer_serving member)⟩
  refine ⟨nonzero, served, ((scan_repeats_iff "bmc" .device nonzero _ ()).2 0x3412
    (fun exchange member => (served exchange member).2)).mpr ?_⟩
  exact fun both => innerCycle_not_back both.2

/-- One sensor that links back to itself. -/
def selfLinked : List Stored :=
  [⟨[0x01, 0x00, 0x51, 0x02, 0x09, 0x20, 0x00, 0x30, 0x03, 0x01, 0x7f, 0x68, 0x01, 0x6f], 0x0001⟩]

/-- A scan from a sensor that links back to itself accepts it twice, as zero and by its own id. -/
theorem scan_selfLinked_repeats :
    (selfLinked.map Stored.id).Nodup ∧ (∀ stored ∈ selfLinked, stored.id ≠ 0 ∧ stored.Sound) ∧
      (∀ exchange ∈ (scan "bmc" .storage).transcript
          (Repository.storage.serving selfLinked 0x3412 (.answered [0xc1])) (),
        HandsOut .storage selfLinked 0x3412 exchange ∧
          Withholds .storage selfLinked 0x3412 exchange) ∧
      ¬ (acceptedIds ((scan "bmc" .storage).run
        (Repository.storage.serving selfLinked 0x3412 (.answered [0xc1])) ()).1).Nodup := by
  -- The scan is computed: the one record is accepted as zero and once more by its id.
  have twice : acceptedIds ((scan "bmc" .storage).run
      (Repository.storage.serving selfLinked 0x3412 (.answered [0xc1])) ()).1 = [1, 1] := rfl
  refine ⟨by decide, fun stored member => ?_, fun exchange member =>
    ⟨handsOut_serve (answer_serving member), withholds_serve (answer_serving member)⟩, ?_⟩
  · obtain rfl := List.mem_singleton.mp member
    exact ⟨by decide, by decide, by decide, fun _ => by decide⟩
  · rw [twice]
    decide

end BmcTelemetry.Sensor
