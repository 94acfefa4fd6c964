import BmcTelemetry.Proofs.Sensor.Opening
import Mathlib.Data.Fintype.Card

/-! Visits: what a walk along the links can do at each record, whatever the controller answers. -/

namespace BmcTelemetry.Sensor

/-- The same walk with one more record in front, if there is one to keep. -/
def Harvest.keep (kept : Option Record) (rest : Harvest) : Harvest :=
  match kept with
  | none => rest
  | some record => rest.after record

namespace Walk

open Dialogue (Course)

variable {walk : Walk}

/-- One record on a walk is read: its header, and the whole of it where it describes a sensor. -/
inductive Reads (walk : Walk) (id : UInt16) :
    List (Exchange controller) → Except IpmiError (RecordHeader × Option Record) → Prop
  /-- The header cannot be read. -/
  | headerFailed {exchanges : List (Exchange controller)} {error : IpmiError}
      (header : Course (walk.readHeader id).outcome exchanges (.error error)) :
      Reads walk id exchanges (.error error)
  /-- The header is that of another kind of record. -/
  | skipped {exchanges : List (Exchange controller)} {header : RecordHeader}
      (read : Course (walk.readHeader id).outcome exchanges (.ok header))
      (other : header.isSensor = false) : Reads walk id exchanges (.ok (header, none))
  /-- The header is that of a sensor, whose record cannot be read. -/
  | bodyFailed {first rest : List (Exchange controller)} {header : RecordHeader}
      {error : IpmiError} (read : Course (walk.readHeader id).outcome first (.ok header))
      (sensor : header.isSensor = true)
      (body : Course (walk.readRecord id header).outcome rest (.error error)) :
      Reads walk id (first ++ rest) (.error error)
  /-- The header is that of a sensor, and so is its record. -/
  | accepted {first rest : List (Exchange controller)} {header : RecordHeader} {record : Record}
      (read : Course (walk.readHeader id).outcome first (.ok header))
      (sensor : header.isSensor = true)
      (body : Course (walk.readRecord id header).outcome rest (.ok record)) :
      Reads walk id (first ++ rest) (.ok (header, some record))

/-- The exchanges and the harvest of a walk from a record on, some ids having been visited. -/
inductive Visits (walk : Walk) :
    List UInt16 → UInt16 → List (Exchange controller) → Harvest → Prop
  /-- A link back to a visited id ends the walk. -/
  | revisited {visited : List UInt16} {id : UInt16} (seen : id ∈ visited) :
      Visits walk visited id [] (.stopped (.protocol (.visitedTwice id)))
  /-- A record that cannot be read ends the walk. -/
  | failed {visited : List UInt16} {id : UInt16} {exchanges : List (Exchange controller)}
      {error : IpmiError} (fresh : id ∉ visited) (reads : Reads walk id exchanges (.error error)) :
      Visits walk visited id exchanges (.stopped error)
  /-- The last link ends the walk. -/
  | ended {visited : List UInt16} {id : UInt16} {exchanges : List (Exchange controller)}
      {header : RecordHeader} {kept : Option Record} (fresh : id ∉ visited)
      (reads : Reads walk id exchanges (.ok (header, kept))) (last : header.nextId = lastId) :
      Visits walk visited id exchanges (Harvest.complete.keep kept)
  /-- Any other link leads on. -/
  | onward {visited : List UInt16} {id : UInt16} {exchanges others : List (Exchange controller)}
      {header : RecordHeader} {kept : Option Record} {harvest : Harvest} (fresh : id ∉ visited)
      (reads : Reads walk id exchanges (.ok (header, kept))) (more : header.nextId ≠ lastId)
      (rest : Visits walk (id :: visited) header.nextId others harvest) :
      Visits walk visited id (exchanges ++ others) (harvest.keep kept)

/-- Once every id was visited, there is none left to visit. -/
theorem mem_of_all_visited {visited : List UInt16} (distinct : visited.Nodup)
    (all : visited.length = idCount) (id : UInt16) : id ∈ visited := by
  by_contra missing
  -- One id more would make more distinct words than there are.
  have longer : (id :: visited).Nodup := List.nodup_cons.mpr ⟨missing, distinct⟩
  have bounded := (longer.map (fun _ _ => UInt16.toFin_inj.mp)).length_le_card
  simp only [List.length_map, List.length_cons, all, idCount, Fintype.card_fin,
    UInt16.size] at bounded
  omega

/-- Reading a record and going on from it is what one step of a walk does. -/
theorem follow_step {host : String} {budget : Nat} {visited : List UInt16} {id : UInt16}
    {exchanges : List (Exchange controller)} {harvest : Harvest} (fresh : id ∉ visited)
    (course : Course (walk.follow host (budget + 1) visited id) exchanges harvest) :
    (∃ error, Reads walk id exchanges (.error error) ∧ harvest = .stopped error) ∨
    ∃ header kept first rest onward, Reads walk id first (.ok (header, kept)) ∧
      Course (if header.nextId = lastId then pure Harvest.complete
        else walk.follow host budget (id :: visited) header.nextId) rest onward ∧
      exchanges = first ++ rest ∧ harvest = onward.keep kept := by
  rw [follow, if_neg fresh, Dialogue.course_bind_iff] at course
  obtain ⟨first, read, others, header, course, rfl⟩ := course
  -- The header decides whether there is more to read of the record.
  cases read with
  | error error =>
    obtain ⟨rfl, rfl⟩ := Dialogue.course_pure_iff.mp course
    exact .inl ⟨error, by simpa using .headerFailed header, rfl⟩
  | ok found =>
    -- A sensor's record is read next, while any other one is noted and passed over.
    by_cases sensor : found.isSensor
    · simp only [sensor, if_true] at course
      rw [Dialogue.course_bind_iff] at course
      obtain ⟨second, read, others, body, course, rfl⟩ := course
      -- The record of the sensor was asked for, and it can fail as well.
      cases read with
      | error error =>
        obtain ⟨rfl, rfl⟩ := Dialogue.course_pure_iff.mp course
        exact .inl ⟨error, by simpa using .bodyFailed header sensor body, rfl⟩
      | ok record =>
        obtain ⟨rest, onward, last, followed, kept, rfl⟩ := Dialogue.course_bind_iff.mp course
        obtain ⟨rfl, rfl⟩ := Dialogue.course_pure_iff.mp kept
        exact .inr ⟨found, some record, _, rest, onward, .accepted header sensor body, followed,
          by simp, rfl⟩
    -- The note about the record takes no exchange.
    · simp only [sensor, Bool.false_eq_true, if_false] at course
      obtain ⟨reported, _, rest, noted, followed, rfl⟩ := Dialogue.course_bind_iff.mp course
      obtain rfl := Dialogue.course_report_iff.mp noted
      exact .inr ⟨found, none, first, rest, harvest, .skipped header (by simpa using sensor),
        followed, rfl, rfl⟩

/-- Every course of a walk visits records one after another. -/
theorem follow_visits {host : String} {budget : Nat} {visited : List UInt16} {id : UInt16}
    {exchanges : List (Exchange controller)} {harvest : Harvest} (distinct : visited.Nodup)
    (counted : visited.length + budget = idCount)
    (course : Course (walk.follow host budget visited id) exchanges harvest) :
    Visits walk visited id exchanges harvest := by
  -- The budget counts the ids that were not visited, so it never runs out before they do.
  induction budget generalizing visited id exchanges harvest with
  | zero =>
    -- The budget is used up, so every id was visited and this one is seen again.
    obtain ⟨rfl, rfl⟩ := Dialogue.course_pure_iff.mp course
    exact .revisited (mem_of_all_visited distinct (by omega) id)
  | succ budget ih =>
    -- An id that was visited ends the walk, whatever the budget.
    by_cases seen : id ∈ visited
    · rw [follow, if_pos seen] at course
      obtain ⟨rfl, rfl⟩ := Dialogue.course_pure_iff.mp course
      exact .revisited seen
    -- Otherwise the record is read, and its link decides whether the walk goes on.
    · rcases follow_step seen course with ⟨error, reads, rfl⟩ |
        ⟨header, kept, first, rest, onward, reads, followed, rfl, rfl⟩
      · exact .failed seen reads
      · by_cases last : header.nextId = lastId
        · rw [if_pos last] at followed
          obtain ⟨rfl, rfl⟩ := Dialogue.course_pure_iff.mp followed
          simpa using Visits.ended seen reads last
        -- The id counts as visited from here on, which takes one off the budget.
        · rw [if_neg last] at followed
          refine .onward seen reads last (ih (List.nodup_cons.mpr ⟨seen, distinct⟩) ?_ followed)
          rw [List.length_cons]
          omega

end Walk

open Dialogue (Course)

/-- A scan fails before its walk begins, or its walk decides what it yields. -/
theorem course_scan {host : String} {repository : Repository}
    {exchanges : List (Exchange controller)} {result : Except PartialScan (List Record)}
    (course : Course (scan host repository) exchanges result) :
    (∃ error, Course (startWalk host repository).outcome exchanges (.error error) ∧
      result = .error ⟨[], error⟩) ∨
    ∃ walk first rest harvest, Course (startWalk host repository).outcome first (.ok walk) ∧
      walk.Visits [] 0 rest harvest ∧ exchanges = first ++ rest ∧
      result = harvest.toExcept := by
  rw [scan, Dialogue.course_bind_iff] at course
  obtain ⟨first, started, rest, opening, course, rfl⟩ := course
  -- A walk that starts has visited nothing, and begins under the name zero.
  cases started with
  -- The opening failed, and nothing was accepted by then.
  | error error =>
    obtain ⟨rfl, rfl⟩ := Dialogue.course_pure_iff.mp course
    exact .inl ⟨error, by simpa using opening, rfl⟩
  | ok walk =>
    -- Making the result of the harvest takes no exchange.
    obtain ⟨second, harvest, last, followed, ended, rfl⟩ := Dialogue.course_bind_iff.mp course
    obtain ⟨rfl, rfl⟩ := Dialogue.course_pure_iff.mp ended
    have visits := Walk.follow_visits List.nodup_nil (by simp) followed
    exact .inr ⟨walk, first, second, harvest, opening, visits, by simp, rfl⟩

end BmcTelemetry.Sensor
