import BmcTelemetry.Proofs.Inventory.Image

/-!
Searching for the product area: the steps it takes, how each can fail, and what is found.

The device is asked for its size, its common header and the area's own header. Each answer has to
come, to succeed and to be long enough, and what they tell has to fit together.
-/

namespace BmcTelemetry.Inventory

open Dialogue (Course)

/-- An exchange in which an inventory device tells its size and how places on it are addressed. -/
structure TellsSize (exchange : Exchange controller) (size unit : Nat) : Prop where
  /-- The device is asked about its area. -/
  asked : exchange.request = areaRequest
  /-- The size is a word, and a flag tells whether an address counts pairs of bytes. -/
  told : ∃ payload, exchange.Carries 3 payload ∧ size = (payload.wordAt 0).toNat ∧
    unit = (payload.byteAt 2).toNat % 2 + 1

/-- An exchange in which the common header of a device tells where its product area starts. -/
structure TellsStart (exchange : Exchange controller) (start : Nat) : Prop where
  /-- The first eight bytes of the device are asked for. -/
  asked : exchange.request = ProductArea.readRequest 0 8
  /-- The start is told in multiples of eight bytes. -/
  told : ∃ payload, exchange.Carries 9 payload ∧ start = (payload.byteAt 5).toNat * 8

/-- An exchange in which a product area tells its own size. -/
structure TellsLength (exchange : Exchange controller) (area : ProductArea) : Prop where
  /-- The first two bytes of the area are asked for. -/
  asked : exchange.request = ProductArea.readRequest (area.start / area.unit) 2
  /-- The size is told in multiples of eight bytes. -/
  told : ∃ payload, exchange.Carries 3 payload ∧ area.size = (payload.byteAt 2).toNat * 8

/-- The exchanges that a search for the product area takes, and what comes of it. -/
inductive Search : List (Exchange controller) → Except IpmiError ProductArea → Prop
  /-- The size of the device is not told. -/
  | unsized {info : Exchange controller} {error : IpmiError} (asked : info.request = areaRequest)
    (denied : info.Denies 3 .inventoryArea error) : Search [info] (.error error)
  /-- The device has no bytes. -/
  | empty {info : Exchange controller} {unit : Nat} (sized : TellsSize info 0 unit) :
    Search [info] (.error (.protocol (.inventorySize 0)))
  /-- The start of the area is not told. -/
  | unplaced {info header : Exchange controller} {inventorySize unit : Nat} {error : IpmiError}
    (sized : TellsSize info inventorySize unit) (nonempty : 0 < inventorySize)
    (asked : header.request = ProductArea.readRequest 0 8)
    (denied : header.Denies 9 .commonHeader error) : Search [info, header] (.error error)
  /-- The size of the area is not told. -/
  | unmeasured {info header own : Exchange controller} {inventorySize unit start : Nat}
    {error : IpmiError} (sized : TellsSize info inventorySize unit) (nonempty : 0 < inventorySize)
    (placed : TellsStart header start)
    (asked : own.request = ProductArea.readRequest (start / unit) 2)
    (denied : own.Denies 3 .productHeader error) : Search [info, header, own] (.error error)
  /-- The area is empty, or ends past the end of the device. -/
  | misfit {info header own : Exchange controller} {inventorySize : Nat} {area : ProductArea}
    (sized : TellsSize info inventorySize area.unit) (nonempty : 0 < inventorySize)
    (placed : TellsStart header area.start) (measured : TellsLength own area)
    (outside : area.size = 0 ∨ inventorySize < area.start + area.size) :
    Search [info, header, own] (.error (.protocol (.productSize area.size)))
  /-- The area is found. -/
  | found {info header own : Exchange controller} {inventorySize : Nat} {area : ProductArea}
    (sized : TellsSize info inventorySize area.unit) (nonempty : 0 < inventorySize)
    (placed : TellsStart header area.start) (measured : TellsLength own area)
    (inside : 0 < area.size ∧ area.start + area.size ≤ inventorySize) :
    Search [info, header, own] (.ok area)

section Searching

variable {exchanges : List (Exchange controller)} {result : Except IpmiError ProductArea}

/-- The product area is searched for in three steps, until one of them fails. -/
theorem search_of_course (course : Course ProductArea.locate.outcome exchanges result) :
    Search exchanges result := by
  rw [ProductArea.locate] at course
  -- The first step is denied, or its answer goes on to tell the size of the device.
  rcases Controller.course_fetch_bind course with ⟨info, error, rfl, asked, denied, rfl⟩ |
    ⟨info, payload, rest, rfl, asked, carries, course⟩
  · exact .unsized asked denied
  have sized : TellsSize info (payload.wordAt 0).toNat ((payload.byteAt 2).toNat % 2 + 1) :=
    ⟨asked, payload, carries, rfl, rfl⟩
  -- A device without bytes ends the search before anything else is asked for.
  by_cases zero : (payload.wordAt 0).toNat = 0
  · rw [if_pos zero] at course
    obtain ⟨rfl, rfl⟩ := Attempt.course_fail_iff.mp course
    rw [zero] at sized ⊢
    exact .empty sized
  have nonempty := Nat.pos_of_ne_zero zero
  rw [if_neg zero] at course
  -- The second step tells the start of the area, unless it is denied.
  rcases Controller.course_fetch_bind course with ⟨header, error, rfl, asked, denied, rfl⟩ |
    ⟨header, start, rest, rfl, asked, carries, course⟩
  · exact .unplaced sized nonempty asked denied
  have placed : TellsStart header ((start.byteAt 5).toNat * 8) := ⟨asked, start, carries, rfl⟩
  -- The third step tells the size of the area, unless it is denied.
  rcases Controller.course_fetch_bind course with ⟨own, error, rfl, asked, denied, rfl⟩ |
    ⟨own, size, rest, rfl, asked, carries, course⟩
  · exact .unmeasured sized nonempty placed asked denied
  -- All that the three answers tell makes up an area, which may still not fit the device.
  let area : ProductArea := ⟨(start.byteAt 5).toNat * 8, (size.byteAt 2).toNat * 8,
    (payload.byteAt 2).toNat % 2 + 1⟩
  have measured : TellsLength own area := ⟨asked, size, carries, rfl⟩
  -- The area is turned down when it is empty or too long, and found otherwise.
  by_cases outside : area.size = 0 ∨ (payload.wordAt 0).toNat < area.start + area.size
  · rw [if_pos outside] at course
    obtain ⟨rfl, rfl⟩ := Attempt.course_fail_iff.mp course
    exact .misfit sized nonempty placed measured outside
  · rw [if_neg outside] at course
    obtain ⟨rfl, rfl⟩ := Attempt.course_pure_iff.mp course
    have inside : 0 < area.size ∧ area.start + area.size ≤ (payload.wordAt 0).toNat := by omega
    exact .found sized nonempty placed measured inside

/-- An area that three answers tell is found if it is not empty and fits the device. -/
theorem course_locate_measured {info header own : Exchange controller} {inventorySize : Nat}
    {area : ProductArea} (sized : TellsSize info inventorySize area.unit)
    (nonempty : 0 < inventorySize) (placed : TellsStart header area.start)
    (measured : TellsLength own area) :
    Course ProductArea.locate.outcome [info, header, own]
      (if area.size = 0 ∨ inventorySize < area.start + area.size then
        .error (.protocol (.productSize area.size))
      else .ok area) := by
  -- Each part of the area is what its own answer tells.
  obtain ⟨start, size, unit⟩ := area
  obtain ⟨asked, payload, carries, rfl, rfl⟩ := sized
  obtain ⟨headerAsked, header, headerCarries, rfl⟩ := placed
  obtain ⟨ownAsked, own, ownCarries, rfl⟩ := measured
  -- Each step goes on from the payload of its answer.
  refine Controller.course_carried asked carries ?_
  rw [if_neg (Nat.ne_of_gt nonempty)]
  refine Controller.course_carried headerAsked headerCarries ?_
  refine Controller.course_carried ownAsked ownCarries ?_
  dsimp only
  -- After the third answer nothing more is asked for, whichever way it goes.
  split
  · exact Attempt.course_fail_iff.mpr ⟨rfl, rfl⟩
  · exact Attempt.course_pure_iff.mpr ⟨rfl, rfl⟩

/-- Whatever is answered in a search may be answered. -/
theorem Search.course (search : Search exchanges result) :
    Course ProductArea.locate.outcome exchanges result := by
  -- The answers in front of the last one carry a payload, and the last one decides how it ends.
  cases search with
  | unsized asked denied => exact Controller.course_denied asked denied
  | empty sized =>
    -- The size is zero, so the first branch is taken.
    obtain ⟨asked, payload, carries, zero, _⟩ := sized
    refine Controller.course_carried asked carries ?_
    rw [if_pos zero.symm, ← zero]
    exact Attempt.course_fail_iff.mpr ⟨rfl, rfl⟩
  | unplaced sized nonempty headerAsked denied =>
    -- The size is told and not zero, so the header comes next.
    obtain ⟨asked, payload, carries, rfl, rfl⟩ := sized
    refine Controller.course_carried asked carries ?_
    rw [if_neg (Nat.ne_of_gt nonempty)]
    exact Controller.course_denied headerAsked denied
  | unmeasured sized nonempty placed ownAsked denied =>
    -- Both the size and the start are told, so the area's own header comes next.
    obtain ⟨asked, payload, carries, rfl, rfl⟩ := sized
    obtain ⟨headerAsked, header, headerCarries, rfl⟩ := placed
    refine Controller.course_carried asked carries ?_
    rw [if_neg (Nat.ne_of_gt nonempty)]
    refine Controller.course_carried headerAsked headerCarries ?_
    exact Controller.course_denied ownAsked denied
  | misfit sized nonempty placed measured outside =>
    -- An area that was measured is compared with the device, and does not fit it here.
    have course := course_locate_measured sized nonempty placed measured
    rwa [if_pos outside] at course
  | found sized nonempty placed measured inside =>
    -- The same comparison, and here the area fits.
    have course := course_locate_measured sized nonempty placed measured
    rwa [if_neg (by omega)] at course

/-- A search takes three exchanges at most. -/
theorem Search.length_le (search : Search exchanges result) : exchanges.length ≤ 3 := by
  -- Every way a search can go lists its exchanges.
  cases search <;> simp

end Searching

end BmcTelemetry.Inventory
