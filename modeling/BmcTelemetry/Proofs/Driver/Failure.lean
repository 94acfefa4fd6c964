import BmcTelemetry.Proofs.Driver.Delivery

/-!
Failure: a batch comes through as a whole or not at all.

A call that fails is put off while the batch goes on, but it counts in the end.
-/

namespace BmcTelemetry.Driver

open Dialogue (Course)

instance : DecidablePred Succeeds
  | ⟨.openDevice _, (.ok () : Except OsError Unit)⟩ => .isTrue rfl
  | ⟨.openDevice _, (.error _ : Except OsError Unit)⟩ => .isFalse fun same => nomatch same
  | ⟨.send _ _ _, (.ok () : Except OsError Unit)⟩ => .isTrue rfl
  | ⟨.send _ _ _, (.error _ : Except OsError Unit)⟩ => .isFalse fun same => nomatch same
  | ⟨.wait, (Readiness.ready : Readiness)⟩ => .isTrue rfl
  | ⟨.wait, (.timedOut : Readiness)⟩ => .isFalse fun same => nomatch same
  | ⟨.wait, (.failed _ : Readiness)⟩ => .isFalse fun same => nomatch same
  | ⟨.receive, (.ok message : Except OsError Message)⟩ => .isTrue ⟨message, rfl⟩
  | ⟨.receive, (.error _ : Except OsError Message)⟩ => .isFalse fun ⟨_, same⟩ => nomatch same

/-- A batch comes through: nothing about it is improper, and no call fails. -/
structure CameThrough (device : String) (requests : List Request)
    (exchanges : List (Exchange kernel)) : Prop where
  /-- The path of the device can be passed on. -/
  clean : Text.holdsZero device = false
  /-- Every request names a command. -/
  proper : ∀ request ∈ requests, 2 ≤ request.data.length
  /-- No call fails. -/
  succeed : ∀ exchange ∈ exchanges, Succeeds exchange

instance (device : String) (requests : List Request) (exchanges : List (Exchange kernel)) :
    Decidable (CameThrough device requests exchanges) :=
  decidable_of_iff (Text.holdsZero device = false ∧
      (∀ request ∈ requests, 2 ≤ request.data.length) ∧ ∀ exchange ∈ exchanges, Succeeds exchange)
    ⟨fun ⟨clean, proper, succeed⟩ => ⟨clean, proper, succeed⟩,
      fun ⟨clean, proper, succeed⟩ => ⟨clean, proper, succeed⟩⟩

/-- Some call in a batch delivers a message under a number. -/
def Answered (exchanges : List (Exchange kernel)) (place : Nat) : Prop :=
  ∃ message ∈ delivered exchanges, message.id = (place : Int)

instance (exchanges : List (Exchange kernel)) (place : Nat) :
    Decidable (Answered exchanges place) :=
  inferInstanceAs (Decidable (∃ message ∈ delivered exchanges, message.id = (place : Int)))

/-- A place is filled exactly if a message came under its number. -/
theorem valid_lastUnder (exchanges : List (Exchange kernel)) (place : Nat) :
    (lastUnder (delivered exchanges) place).valid = decide (Answered exchanges place) := by
  -- The search from the last message on finds one exactly if there is one.
  rw [lastUnder]
  cases found : (delivered exchanges).reverse.find? fun message => message.id == (place : Int) with
  -- The message that was found is delivered under the number.
  | some message =>
    have own := List.find?_some found
    have member := List.mem_reverse.mp (List.mem_of_find?_eq_some found)
    exact (decide_eq_true ⟨message, member, by simpa using own⟩).symm
  | none =>
    -- A message under the number would have been found.
    refine (decide_eq_false ?_).symm
    rintro ⟨message, member, own⟩
    have other := List.find?_eq_none.mp found message (List.mem_reverse.mpr member)
    simp [own] at other

section Loop

variable {addressing : Addressing} {requests : List Request} {progress : Progress}
  {exchanges : List (Exchange kernel)} {ended : Except IpmiError Progress}

/-- A failure that was put off stays until the end, if it is not replaced by another. -/
theorem runs_failed (runs : Runs addressing requests progress exchanges ended)
    (failed : progress.deferred.isSome ∨ ∃ exchange ∈ exchanges, ¬Succeeds exchange) :
    ∃ error, ended.bind Progress.outcome = .error error := by
  -- A failing call either ends the batch or is put off, and no step forgets what was put off.
  induction runs with
  | @drained progress none_left =>
    -- The loop ended by itself, so that an error that was put off is all that can have failed.
    rcases failed with failed | ⟨exchange, member, _⟩
    · obtain ⟨error, deferred⟩ := Option.isSome_iff_exists.mp failed
      exact ⟨error, by simp [Except.bind, Progress.outcome, deferred]⟩
    · cases member
  | @sent progress request result rest ended left next onward ih =>
    -- A send that failed is put off now, and any other failure was before or comes later.
    cases result with
    | error error => exact ih (.inl rfl)
    | ok _ =>
      rcases failed with failed | ⟨exchange, member, fails⟩
      · exact ih (.inl failed)
      · rcases List.mem_cons.mp member with rfl | later
        · exact absurd rfl fails
        · exact ih (.inr ⟨exchange, later, fails⟩)
  | timedOut left blocked => exact ⟨_, rfl⟩
  | failed left blocked => exact ⟨_, rfl⟩
  | @taken progress result rest ended left blocked onward ih =>
    -- A message that could not be taken is put off now, and any other failure was before or comes
    -- later.
    cases result with
    | error error => exact ih (.inl rfl)
    | ok message =>
      rcases failed with failed | ⟨exchange, member, fails⟩
      · exact ih (.inl failed)
      · rcases List.mem_cons.mp member with rfl | member
        · exact absurd rfl fails
        · rcases List.mem_cons.mp member with rfl | later
          · exact absurd ⟨message, rfl⟩ fails
          · exact ih (.inr ⟨exchange, later, fails⟩)

/-- A batch with an improper request, or with an improper device, ends in an error. -/
theorem batch_improper {device : String} {result : Except IpmiError (List Response)}
    (course : Course (batch device addressing requests).outcome exchanges result)
    (improper : ¬(Text.holdsZero device = false ∧
      ∀ request ∈ requests, 2 ≤ request.data.length)) :
    ∃ error, result = .error error := by
  -- Requests are looked at first, so the device matters only where they are all in order.
  by_cases proper : ∀ request ∈ requests, 2 ≤ request.data.length
  -- All requests are in order, so that it is the path that cannot be passed on.
  · have unclean : Text.holdsZero device = true :=
      (Bool.not_eq_false _).mp fun clean => improper ⟨clean, proper⟩
    exact ⟨_, (course_batch_refused unclean proper course).2⟩
  -- The batch looks at the requests first, whatever the path is.
  · obtain ⟨request, short⟩ := Classical.not_forall.mp proper
    obtain ⟨member, short⟩ := Classical.not_imp.mp short
    exact ⟨_, (course_batch_short ⟨request, member, Nat.not_le.mp short⟩ course).2⟩

/-- A batch comes through with what its messages leave in the places, or it ends in an error. -/
theorem batch_through_or_failed {device : String} {result : Except IpmiError (List Response)}
    (course : Course (batch device addressing requests).outcome exchanges result) :
    (CameThrough device requests exchanges ∧
      result = .ok ((List.range requests.length).map (lastUnder (delivered exchanges)))) ∨
    ¬CameThrough device requests exchanges ∧ ∃ error, result = .error error := by
  -- What is improper ends the batch with an error, before the loop or even before the device.
  by_cases inOrder : Text.holdsZero device = false ∧ ∀ request ∈ requests, 2 ≤ request.data.length
  · obtain ⟨clean, proper⟩ := inOrder
    rcases course_batch clean proper course with ⟨error, rfl, rfl⟩ | ⟨rest, ended, rfl, runs, rfl⟩
    · -- The call that opens the device is the one that failed.
      have fails : ¬Succeeds (opening device (.error error)) := fun same => nomatch same
      exact .inr ⟨fun through => fails (through.succeed _ (List.mem_singleton_self _)), _, rfl⟩
    · by_cases succeed : ∀ exchange ∈ rest, Succeeds exchange
      -- No call fails, so that nothing was put off and the places are the result.
      · obtain ⟨final, rfl, clear, answers⟩ := runs_succeeds runs succeed
        refine .inl ⟨⟨clean, proper, List.forall_mem_cons.mpr ⟨rfl, succeed⟩⟩, ?_⟩
        change final.outcome = _
        rw [Progress.outcome, clear, answers, foldl_put_start]
        rfl
      -- A call that fails leaves an error, at once or at the end.
      · have through : ¬CameThrough device requests (opening device (.ok ()) :: rest) :=
          fun through => succeed (List.forall_mem_cons.mp through.succeed).2
        obtain ⟨exchange, fails⟩ := Classical.not_forall.mp succeed
        exact .inr ⟨through, runs_failed runs (.inr ⟨exchange, Classical.not_imp.mp fails⟩)⟩
  · exact .inr ⟨fun through => inOrder ⟨through.clean, through.proper⟩,
      batch_improper course inOrder⟩

end Loop

end BmcTelemetry.Driver
