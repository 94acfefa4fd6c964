import BmcTelemetry.Proofs.Inventory.Paging
import BmcTelemetry.Proofs.Inventory.Reading

/-!
Sources of an inventory: which answers make a read fail, and which ones each value is read from.

The product area has to be found first, in three steps, and a step that fails ends the read. From
there on nothing can make it fail, and each value comes from answers of its own.
-/

namespace BmcTelemetry.Inventory

open Dialogue (Course)

/-- The fields of an area, as an inventory holds them. -/
structure DecodedFrom (inventory : Inventory) (area : Bytes) : Prop where
  /-- The first field names the manufacturer. -/
  manufacturer : inventory.manufacturer = ProductArea.field? area 0
  /-- The second field names the product. -/
  productName : inventory.productName = ProductArea.field? area 1
  /-- The fifth field is the serial number. -/
  serial : inventory.serial = ProductArea.field? area 4

/-- The exchanges of a read that finds the product area, by what they are about. -/
structure Sources where
  /-- The exchanges about the product area. -/
  product : List (Exchange controller)
  /-- The exchange about the device id. -/
  deviceId : Exchange controller
  /-- The exchange about the network address. -/
  lanAddress : Exchange controller

namespace Sources

/-- All exchanges, in their order. -/
def exchanges (sources : Sources) : List (Exchange controller) :=
  sources.product ++ [sources.deviceId, sources.lanAddress]

/-- Exchanges fall into sources in one way only. -/
theorem exchanges_inj {sources others : Sources} (same : sources.exchanges = others.exchanges) :
    sources = others := by
  -- The last two exchanges are one each, so the split can only be in one place.
  obtain ⟨product, deviceId, lanAddress⟩ := sources
  obtain ⟨product', deviceId', lanAddress'⟩ := others
  obtain ⟨rfl, last⟩ := List.append_inj' same rfl
  cases last
  rfl

/-- The answers of the last two exchanges are those about the device id and the network address. -/
theorem answers_eq {sources : Sources} {front : List (Except IpmiError Response)}
    {first second : Except IpmiError Response}
    (same : sources.exchanges.map (·.answer) = front ++ [first, second]) :
    sources.product.map (·.answer) = front ∧ sources.deviceId.answer = first ∧
      sources.lanAddress.answer = second := by
  -- Two answers stand at the end on either side, so the parts in front of them match as well.
  rw [exchanges, List.map_append] at same
  obtain ⟨product, last⟩ := List.append_inj' same rfl
  obtain ⟨deviceId, last⟩ := List.cons.inj last
  exact ⟨product, deviceId, (List.cons.inj last).1⟩

/-- The values of an inventory, each read from exchanges of its own. -/
structure Give (sources : Sources) (host : String) (inventory : Inventory) : Prop where
  /-- The product area is found, and its fields are decoded from what is read of it. -/
  product : ∃ found area pages bytes, sources.product = found ++ pages ∧
    Search found (.ok area) ∧ Course (area.read host) pages bytes ∧ DecodedFrom inventory bytes
  /-- The device id is asked for after that. -/
  deviceIdAsked : sources.deviceId.request = Controller.deviceIdRequest
  /-- The firmware revision is read from the device id. -/
  firmwareVersion : sources.deviceId.Tells 4 firmwareVersion? inventory.firmwareVersion
  /-- The network address is asked for at the end. -/
  lanAddressAsked : sources.lanAddress.request = Controller.lanAddressRequest
  /-- The network address is read from its own answer. -/
  lanAddress : sources.lanAddress.Tells 7 lanAddress? inventory.lanAddress

section Giving

variable {sources others : Sources} {host : String} {inventory other : Inventory}

/-- Finding an area and reading it takes all exchanges about the product area. -/
theorem Give.course_product (gives : sources.Give host inventory) :
    ∃ bytes, Course (ProductArea.locate >>= fun area => ExceptT.lift (area.read host)).outcome
      sources.product (.ok bytes) ∧ DecodedFrom inventory bytes := by
  -- The search comes first and the pages follow, as the exchanges about the area do.
  obtain ⟨found, area, pages, bytes, own, search, read, decoded⟩ := gives.product
  refine ⟨bytes, Attempt.course_bind_ok_iff.mpr ?_, decoded⟩
  exact ⟨found, area, pages, search.course,
    Attempt.course_liftDialogue_iff.mpr ⟨bytes, read, rfl⟩, own⟩

/-- The same answers about the product area give the same texts. -/
theorem Give.product_eq (gives : sources.Give host inventory) (again : others.Give host other)
    (same : sources.product.map (·.answer) = others.product.map (·.answer)) :
    inventory.manufacturer = other.manufacturer ∧ inventory.productName = other.productName ∧
      inventory.serial = other.serial := by
  obtain ⟨bytes, course, decoded⟩ := gives.course_product
  obtain ⟨bytes', course', decoded'⟩ := again.course_product
  -- The area is found in one place and its pages come to the same bytes.
  obtain ⟨_, read⟩ := Controller.course_unique course course' (same ▸ List.prefix_rfl)
  obtain rfl := Except.ok.inj read
  refine ⟨?_, ?_, ?_⟩
  -- Each text is the same field of the same bytes.
  · rw [decoded.manufacturer, decoded'.manufacturer]
  · rw [decoded.productName, decoded'.productName]
  · rw [decoded.serial, decoded'.serial]

end Giving

end Sources

section Reading

variable {host : String} {exchanges : List (Exchange controller)}

/-- A read fails where the search for the product area does, or gives what its sources hold. -/
theorem course_read {result : Except IpmiError Inventory}
    (course : Course (Inventory.read host).outcome exchanges result) :
    (∃ error, Search exchanges (.error error) ∧ result = .error error) ∨
      ∃ (sources : Sources) (inventory : Inventory), exchanges = sources.exchanges ∧
        sources.Give host inventory ∧ result = .ok inventory := by
  rw [Inventory.read, Attempt.course_bind_iff] at course
  -- The search is the only part that can fail, so a failure of the read is one of the search.
  rcases course with ⟨error, failed, rfl⟩ | ⟨found, area, rest, located, course, rfl⟩
  · exact .inl ⟨error, search_of_course failed, rfl⟩
  rw [Attempt.course_report_bind_iff, Attempt.course_liftDialogue_bind_iff] at course
  obtain ⟨pages, bytes, rest, read, course, rfl⟩ := course
  -- Neither of the two requests that are left can make it fail.
  rw [Attempt.course_liftDialogue_bind_iff] at course
  obtain ⟨first, firmwareVersion, rest, tried, course, rfl⟩ := course
  obtain ⟨deviceId, rfl, deviceIdAsked, firmwareTold⟩ := Controller.tells_tryFetch tried
  rw [Attempt.course_liftDialogue_bind_iff] at course
  obtain ⟨second, lanAddress, rest, tried, course, rfl⟩ := course
  obtain ⟨lan, rfl, lanAsked, lanTold⟩ := Controller.tells_tryFetch tried
  obtain ⟨rfl, rfl⟩ := Attempt.course_pure_iff.mp course
  -- The exchanges split as they were made, and each value goes with its own.
  refine .inr ⟨⟨found ++ pages, deviceId, lan⟩, _, (List.append_assoc _ _ _).symm, ?_, rfl⟩
  exact ⟨⟨found, area, pages, bytes, rfl, search_of_course located, read, rfl, rfl, rfl⟩,
    deviceIdAsked, firmwareTold, lanAsked, lanTold⟩

/-- A read fails exactly where the search for the product area does. -/
theorem course_read_error_iff {error : IpmiError} :
    Course (Inventory.read host).outcome exchanges (.error error) ↔
      Search exchanges (.error error) := by
  constructor
  · intro course
    -- A read that fails came to an end within the search.
    rcases course_read course with ⟨_, search, same⟩ | ⟨_, _, _, _, same⟩
    · cases same
      exact search
    · cases same
  -- A failing search ends the read, which then asks for nothing more.
  · intro search
    exact Attempt.course_bind_iff.mpr (.inl ⟨error, search.course, rfl⟩)

/-- A read that does not fail gives what its sources hold. -/
theorem sources_of_course {inventory : Inventory}
    (course : Course (Inventory.read host).outcome exchanges (.ok inventory)) :
    ∃ sources : Sources, exchanges = sources.exchanges ∧ sources.Give host inventory := by
  -- A failing search would have made the read fail.
  rcases course_read course with ⟨_, _, same⟩ | ⟨sources, _, split, gives, same⟩
  · cases same
  · cases same
    exact ⟨sources, split, gives⟩

end Reading

/--
A read of an inventory fails exactly when the search for the product area does, and then asks for
nothing more.

Whatever the other requests come to, it ends with an inventory. Between any two reads, each value
is the same when the answers of its own source are, whatever becomes of the other sources.
-/
theorem read_sources (host : String) {σ τ : Type} (handler : Dialogue.Handler controller σ)
    (memory : σ) (otherHandler : Dialogue.Handler controller τ) (otherMemory : τ) :
    let exchanges := (Inventory.read host).outcome.transcript handler memory
    let result := ((Inventory.read host).outcome.run handler memory).1
    let others := (Inventory.read host).outcome.transcript otherHandler otherMemory
    let otherResult := ((Inventory.read host).outcome.run otherHandler otherMemory).1
    (∀ error, result = .error error ↔
        ∃ front, front <+: exchanges ∧ Search front (.error error)) ∧
      (∀ front error, front <+: exchanges → Search front (.error error) → front = exchanges) ∧
      ((∃ inventory, result = .ok inventory) ↔
        ∀ front error, front <+: exchanges → ¬ Search front (.error error)) ∧
      (∀ inventory, result = .ok inventory →
        ∃ sources : Sources, exchanges = sources.exchanges ∧ sources.Give host inventory) ∧
      ∀ (inventory other : Inventory) (sources otherSources : Sources),
        result = .ok inventory → otherResult = .ok other →
        exchanges = sources.exchanges → others = otherSources.exchanges →
          (sources.product.map (·.answer) = otherSources.product.map (·.answer) →
            inventory.manufacturer = other.manufacturer ∧
              inventory.productName = other.productName ∧ inventory.serial = other.serial) ∧
          (sources.deviceId.answer = otherSources.deviceId.answer →
            inventory.firmwareVersion = other.firmwareVersion) ∧
          (sources.lanAddress.answer = otherSources.lanAddress.answer →
            inventory.lanAddress = other.lanAddress) := by
  intro exchanges result others otherResult
  -- Both runs are courses of the same read, each with answers of its own.
  have course : Course (Inventory.read host).outcome exchanges result :=
    Dialogue.course_run handler _ memory
  have otherCourse : Course (Inventory.read host).outcome others otherResult :=
    Dialogue.course_run otherHandler _ otherMemory
  clear_value exchanges result others otherResult
  -- A read that got the answers of a failing search so far has come to its end.
  have ended : ∀ front error, front <+: exchanges → Search front (.error error) →
      front = exchanges ∧ result = .error error := by
    intro front error begins search
    obtain ⟨rfl, rfl⟩ := Controller.course_unique (course_read_error_iff.mpr search) course
      (begins.map _)
    exact ⟨rfl, rfl⟩
  have fails : ∀ error, result = .error error ↔
      ∃ front, front <+: exchanges ∧ Search front (.error error) := by
    intro error
    constructor
    -- The whole transcript is such a search.
    · rintro rfl
      exact ⟨exchanges, List.prefix_rfl, course_read_error_iff.mp course⟩
    · rintro ⟨front, begins, search⟩
      exact (ended front error begins search).2
  refine ⟨fails, fun front error begins search => (ended front error begins search).1, ?_, ?_, ?_⟩
  -- Either the read succeeds and no search failed on the way, or it fails and one did.
  · cases result with
    | ok inventory =>
      refine iff_of_true ⟨inventory, rfl⟩ fun front error begins search => ?_
      cases (fails error).mpr ⟨front, begins, search⟩
    | error error =>
      obtain ⟨front, begins, search⟩ := (fails error).mp rfl
      refine iff_of_false ?_ fun never => never front error begins search
      rintro ⟨inventory, same⟩
      cases same
  · rintro inventory rfl
    exact sources_of_course course
  · rintro inventory other sources otherSources rfl rfl split otherSplit
    -- There is only one way to split the exchanges of a read, so these sources give the values.
    obtain ⟨own, again, gives⟩ := sources_of_course course
    obtain rfl := Sources.exchanges_inj (split.symm.trans again)
    obtain ⟨otherOwn, otherAgain, otherGives⟩ := sources_of_course otherCourse
    obtain rfl := Sources.exchanges_inj (otherSplit.symm.trans otherAgain)
    -- Each value is told by the answers of its own source, so equal answers give equal values.
    refine ⟨fun same => gives.product_eq otherGives same, fun same => ?_, fun same => ?_⟩
    · exact gives.firmwareVersion.unique otherGives.firmwareVersion same
    · exact gives.lanAddress.unique otherGives.lanAddress same

/-- Surroundings that hand out an image, and one answer to whatever else is asked but not lost. -/
def losing (lost : Request) (image : Bytes) (otherwise : Response) :
    Dialogue.Handler controller Unit :=
  fun (request : Request) memory =>
    if request = lost then (.error .zeroLength, memory)
    else servingImage image true otherwise request memory

/-- Without an answer about the device id, the firmware revision is missing and nothing else. -/
theorem read_sources_deviceIdLost :
    let otherwise := Response.answered [0x00, 0x20, 0x81, 0x02, 0x45, 0x51, 0xbf, 0x00]
    ∃ inventory other,
      ((Inventory.read "bmc").outcome.run (servingImage paddedImage true otherwise) ()).1
        = .ok inventory ∧
      ((Inventory.read "bmc").outcome.run
        (losing Controller.deviceIdRequest paddedImage otherwise) ()).1 = .ok other ∧
      inventory.firmwareVersion = some "2.45" ∧ other.firmwareVersion = none ∧
      (inventory.manufacturer = other.manufacturer ∧
        inventory.productName = other.productName ∧ inventory.serial = other.serial) ∧
      inventory.lanAddress = other.lanAddress := by
  intro otherwise
  -- Both reads are computed, one of them with the answer about the device id lost.
  have served : ∃ inventory, ((Inventory.read "bmc").outcome.run
      (servingImage paddedImage true otherwise) ()).1 = .ok inventory ∧
        inventory.firmwareVersion = some "2.45" :=
    ⟨⟨"Intel", "S2600WF", "BQWF12345", "2.45", "81:02:45:51:BF:00"⟩, by decide +kernel, rfl⟩
  have lost : ∃ other, ((Inventory.read "bmc").outcome.run
      (losing Controller.deviceIdRequest paddedImage otherwise) ()).1 = .ok other ∧
        other.firmwareVersion = none :=
    ⟨⟨"Intel", "S2600WF", "BQWF12345", none, "81:02:45:51:BF:00"⟩, by decide +kernel, rfl⟩
  obtain ⟨inventory, result, firmwareVersion⟩ := served
  obtain ⟨other, otherResult, missing⟩ := lost
  -- The theorem is used once for the sources of each of the two reads.
  obtain ⟨_, _, _, given, apart⟩ := read_sources "bmc"
    (servingImage paddedImage true otherwise) ()
    (losing Controller.deviceIdRequest paddedImage otherwise) ()
  obtain ⟨_, _, _, otherGiven, _⟩ := read_sources "bmc"
    (losing Controller.deviceIdRequest paddedImage otherwise) ()
    (servingImage paddedImage true otherwise) ()
  obtain ⟨sources, split, _⟩ := given inventory result
  obtain ⟨otherSources, otherSplit, _⟩ := otherGiven other otherResult
  -- Of the answers only the last but one differs.
  have answers : sources.exchanges.map (·.answer) = (sources.exchanges.map (·.answer)).take 6
      ++ [.ok otherwise, .ok otherwise] := by
    rw [← split]
    decide +kernel
  have otherAnswers : otherSources.exchanges.map (·.answer)
      = (sources.exchanges.map (·.answer)).take 6 ++ [.error .zeroLength, .ok otherwise] := by
    rw [← split, ← otherSplit]
    decide +kernel
  obtain ⟨product, _, lan⟩ := Sources.answers_eq answers
  obtain ⟨otherProduct, _, otherLan⟩ := Sources.answers_eq otherAnswers
  obtain ⟨texts, _, address⟩ := apart inventory other sources otherSources result otherResult
    split otherSplit
  exact ⟨inventory, other, result, otherResult, firmwareVersion, missing,
    texts (product.trans otherProduct.symm), address (lan.trans otherLan.symm)⟩

end BmcTelemetry.Inventory
