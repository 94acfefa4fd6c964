import BmcTelemetry.Inventory.Reading
import BmcTelemetry.Proofs.Inventory.Search

/-!
Paging through a product area: which pages are asked for, and what is written of the answers.

Sizes, places and counts all come from answers that nobody vouches for. Whatever they are, every
page lies inside the area, and so does every byte that is written.
-/

namespace BmcTelemetry

open Dialogue (Course)

namespace Controller

section Trying

variable {α : Type} {request : Request} {least : Nat} {step : Step}
  {unavailable : IpmiError → Event} {read : Bytes → Option α}
  {exchanges : List (Exchange controller)} {found : Option α}

/-- Trying to fetch is one exchange, and what is found is read from its answer alone. -/
theorem tells_tryFetch
    (course : Course (tryFetch request least step unavailable read) exchanges found) :
    ∃ exchange, exchanges = [exchange] ∧ exchange.request = request ∧
      exchange.Tells least read found := by
  obtain ⟨first, reply, rest, sent, onward, rfl⟩ := Dialogue.course_bind_iff.mp course
  obtain rfl := Dialogue.course_query_iff.mp sent
  -- What is made of the answer takes no exchange in any case.
  cases reply with
  -- Without a response there is nothing to read a value from.
  | error error =>
    obtain ⟨rfl, rfl⟩ := Dialogue.course_report_bind_pure_iff.mp onward
    refine ⟨_, rfl, rfl, fun value => ?_⟩
    simp [Exchange.Carries, Exchange.answer]
  | ok response =>
    -- A response may still be a refusal, or too short for what is read of it.
    cases carried : response.requirePayload least step with
    | error error =>
      simp only [carried] at onward
      obtain ⟨rfl, rfl⟩ := Dialogue.course_pure_iff.mp onward
      refine ⟨_, rfl, rfl, fun value => ?_⟩
      simp [Exchange.carries_iff step, Exchange.answer, Except.bind, carried]
    | ok payload =>
      -- The payload is enough, so the value is what is read from it.
      simp only [carried] at onward
      obtain ⟨rfl, rfl⟩ := Dialogue.course_pure_iff.mp onward
      refine ⟨_, rfl, rfl, fun value => ?_⟩
      simp [Exchange.carries_iff step, Exchange.answer, Except.bind, carried]

/-- Trying to fetch is one exchange, whatever becomes of it. -/
theorem course_tryFetch
    (course : Course (tryFetch request least step unavailable read) exchanges found) :
    exchanges.map (·.request) = [request] := by
  obtain ⟨exchange, rfl, asked, _⟩ := tells_tryFetch course
  rw [List.map_singleton, asked]

end Trying

end Controller

namespace Inventory

namespace ProductArea

/-- An area that lies inside an inventory device, at places that its units can address. -/
structure Within (area : ProductArea) (inventorySize : Nat) : Prop where
  /-- The area has a header at least. -/
  nonempty : 8 ≤ area.size
  /-- The area ends no later than the device. -/
  inside : area.start + area.size ≤ inventorySize
  /-- Both its start and its size are told by one byte, in multiples of eight. -/
  small : area.start ≤ 8 * 255 ∧ area.size ≤ 8 * 255
  /-- The device is no larger than a word can tell. -/
  told : inventorySize < 65536
  /-- An address counts bytes or pairs of bytes. -/
  unit : area.unit = 1 ∨ area.unit = 2
  /-- The area starts at a multiple of eight bytes. -/
  aligned : area.start % 8 = 0

/-- The requests by which an area was found, and what its device says about its own size. -/
structure FoundBy (area : ProductArea) (exchanges : List (Exchange controller))
    (inventorySize : Nat) : Prop where
  /-- The size of the device, its header and the area's own header are asked for. -/
  requests : exchanges.map (·.request)
    = [areaRequest, readRequest 0 8, readRequest (area.start / area.unit) 2]
  /-- The first answer tells the size of the device. -/
  declared : ∃ info payload, exchanges.head? = some info ∧ info.Carries 3 payload ∧
    inventorySize = (payload.wordAt 0).toNat

/-- An area that is found lies inside its device. -/
theorem course_locate {exchanges : List (Exchange controller)} {area : ProductArea}
    (course : Course locate.outcome exchanges (.ok area)) :
    ∃ inventorySize, area.FoundBy exchanges inventorySize ∧ area.Within inventorySize := by
  -- Only one way of the search ends with an area.
  cases search_of_course course with
  | @found info header own inventorySize _ sized nonempty placed measured inside =>
    obtain ⟨asked, payload, carries, size, unit⟩ := sized
    obtain ⟨headerAsked, first, _, start⟩ := placed
    obtain ⟨ownAsked, second, _, length⟩ := measured
    -- All that is told is bytes and words, which bounds every number of the area.
    have bounded := (payload.wordAt 0).toNat_lt
    have startByte := (first.byteAt 5).toNat_lt
    have sizeByte := (second.byteAt 2).toNat_lt
    refine ⟨inventorySize, ⟨?_, info, payload, rfl, carries, size⟩, ?_⟩
    · simp only [List.map_cons, List.map_nil, asked, headerAsked, ownAsked]
    · exact ⟨by omega, inside.2, by omega, by omega, by omega, by omega⟩

/-- The exchanges that read pages one after another into a buffer, and what the buffer becomes. -/
inductive ReadsPages (area : ProductArea) :
    List Nat → Bytes → List (Exchange controller) → Bytes → Prop
  /-- No page is left to read. -/
  | finished (buffer : Bytes) : ReadsPages area [] buffer [] buffer
  /-- A page without an answer that can be used ends the read. -/
  | stopped {index : Nat} {rest : List Nat} {exchange : Exchange controller} (buffer : Bytes)
      (asked : exchange.request = area.pageRequest index)
      (failed : ∀ page, ¬ exchange.Carries 1 page) :
      ReadsPages area (index :: rest) buffer [exchange] buffer
  /-- The bytes of any other page are written into the buffer. -/
  | page {index : Nat} {rest : List Nat} {exchange : Exchange controller}
      {others : List (Exchange controller)} {buffer page bytes : Bytes}
      (asked : exchange.request = area.pageRequest index) (carries : exchange.Carries 1 page)
      (onward : ReadsPages area rest (buffer.patch index (area.pageBytes index page)) others bytes) :
      ReadsPages area (index :: rest) buffer (exchange :: others) bytes

variable {area : ProductArea}

/-- Every course of a read goes from page to page. -/
theorem course_readPages {host : String} {starts : List Nat} {buffer bytes : Bytes}
    {exchanges : List (Exchange controller)}
    (course : Course (area.readPages host starts buffer) exchanges bytes) :
    area.ReadsPages starts buffer exchanges bytes := by
  -- A page is left for an answer that is missing or too short, and the rest is not asked for.
  induction starts generalizing buffer exchanges with
  | nil =>
    obtain ⟨rfl, rfl⟩ := Dialogue.course_pure_iff.mp course
    exact .finished _
  | cons index rest ih =>
    -- The page is asked for in any case, and its answer decides whether the read goes on.
    rw [readPages, Dialogue.course_bind_iff] at course
    obtain ⟨first, reply, others, sent, course, rfl⟩ := course
    obtain rfl := Dialogue.course_query_iff.mp sent
    cases reply with
    -- Without a response the rest is left out.
    | error error =>
      obtain ⟨rfl, rfl⟩ := Dialogue.course_report_bind_pure_iff.mp course
      refine .stopped _ rfl ?_
      rintro page ⟨_, answered, _⟩
      cases answered
    | ok response =>
      -- A response is only of use with a payload that has at least the count of bytes.
      cases carried : response.requirePayload 1 .productPage with
      | error error =>
        -- A payload that is refused or too short ends the read as well.
        simp only [carried] at course
        obtain ⟨rfl, rfl⟩ := Dialogue.course_report_bind_pure_iff.mp course
        refine .stopped _ rfl ?_
        -- An answer that carried a page would have a payload that is long enough.
        rintro page ⟨valid, answered, enough⟩
        obtain rfl := Except.ok.inj answered
        cases carried.symm.trans (Response.requirePayload_ok_iff.mpr ⟨rfl, enough⟩)
      | ok page =>
        -- The bytes of the page go into the buffer, and the read goes on with what it is then.
        simp only [carried] at course
        obtain ⟨whole, enough⟩ := Response.requirePayload_ok_iff.mp carried
        refine .page rfl ⟨response.valid, ?_, enough⟩ (ih course)
        change Except.ok response = _
        rw [← whole]

namespace ReadsPages

variable {starts : List Nat} {buffer bytes : Bytes} {exchanges : List (Exchange controller)}

/-- Pages are asked for in their order, until one of them fails. -/
theorem requests_prefix (reads : area.ReadsPages starts buffer exchanges bytes) :
    exchanges.map (·.request) <+: starts.map area.pageRequest := by
  -- Whatever becomes of a page, it was the next one to be asked for.
  induction reads with
  | finished => exact List.nil_prefix
  | stopped buffer asked failed =>
    rw [List.map_cons, List.map_cons, asked]
    exact (List.prefix_cons_inj _).mpr List.nil_prefix
  | page asked carries onward ih =>
    rw [List.map_cons, List.map_cons, asked]
    exact (List.prefix_cons_inj _).mpr ih

end ReadsPages

/-- The number of bytes of a page that are written: as many as it counts, has and has room for. -/
def written (area : ProductArea) (index : Nat) (page : Bytes) : Nat :=
  min (min (page.byteAt 0).toNat (page.length - 1)) (area.size - index)

/-- The bytes that are written are all there in the page. -/
theorem length_pageBytes (area : ProductArea) (index : Nat) (page : Bytes) :
    (area.pageBytes index page).length = area.written index page := by
  -- No more bytes are taken than follow the count.
  change (List.take (area.written index page) (page.drop 1)).length = _
  rw [List.length_take, List.length_drop, written]
  omega

/-- Writing pages never changes the size of the buffer. -/
theorem ReadsPages.length_eq {starts : List Nat} {buffer bytes : Bytes}
    {exchanges : List (Exchange controller)}
    (reads : area.ReadsPages starts buffer exchanges bytes) (sized : buffer.length = area.size)
    (inside : ∀ index ∈ starts, index ≤ area.size) : bytes.length = area.size := by
  -- What is written of a page has room behind the start of the page.
  induction reads with
  | finished => exact sized
  -- A read that ends leaves the buffer as it is.
  | stopped => exact sized
  | @page index rest exchange others buffer page bytes asked carries onward ih =>
    obtain ⟨own, later⟩ := List.forall_mem_cons.mp inside
    -- The page is cut at the end of the area, so it is written inside the buffer.
    refine ih ?_ later
    rw [Bytes.length_patch, length_pageBytes, sized, written]
    omega

/-- The pages of an area start at every multiple of the page size that lies inside. -/
theorem getElem?_pageStarts (area : ProductArea) (number index : Nat) :
    area.pageStarts[number]? = some index ↔ index = 16 * number ∧ index < area.size := by
  rw [pageStarts, List.getElem?_map, pageSize]
  -- Rounding up counts the last page even when it is not full.
  by_cases within : number < (area.size + 15) / 16
  -- Such a page is listed, and it starts inside the area.
  · rw [List.getElem?_range within]
    simp
    omega
  -- Behind the last page there is none, and a start there would lie outside.
  · rw [List.getElem?_eq_none (by simpa using within)]
    simp
    omega

/-- A page that is asked for, and what becomes of its answer. -/
structure AsksPage (area : ProductArea) (number : Nat) (exchange : Exchange controller) :
    Prop where
  /-- The page starts inside the area. -/
  inside : 16 * number < area.size
  /-- The place of the page and that of the next one are words. -/
  narrow : area.start + 16 * number < 65536 ∧ 16 * number + 16 < 65536
  /-- The page is asked for by its address and its size. -/
  asked : exchange.request = readRequest ((area.start + 16 * number) / area.unit)
    (min 16 (area.size - 16 * number))
  /-- The address that is sent stands for exactly the place of the page. -/
  addressed : (exchange.request.data.wordAt 3).toNat * area.unit = area.start + 16 * number
  /-- The count that is sent is that of the bytes of the page. -/
  counted : (exchange.request.data.byteAt 5).toNat = min 16 (area.size - 16 * number)
  /-- Whatever is answered, no byte is read past its end or written past the end of the area. -/
  written_inside : ∀ page, exchange.Carries 1 page →
    1 + area.written (16 * number) page ≤ page.length ∧
      16 * number + area.written (16 * number) page ≤ area.size

/-- Every page that can be asked for lies inside the area, at an address of its own. -/
theorem Within.asksPage {inventorySize number : Nat} {exchange : Exchange controller}
    (within : area.Within inventorySize) (inside : 16 * number < area.size)
    (asked : exchange.request = area.pageRequest (16 * number)) : area.AsksPage number exchange := by
  have small := within.small
  have aligned := within.aligned
  -- Places are even, so that they can be addressed either way.
  have even : area.unit ∣ area.start + 16 * number := by
    rcases within.unit with bytes | pairs
    · exact bytes ▸ Nat.one_dvd _
    · exact pairs ▸ Nat.dvd_of_mod_eq_zero (by omega)
  -- As places are multiples of the unit, the division by it loses nothing.
  have scaled := Nat.div_mul_cancel even
  have reached := Nat.div_le_self (area.start + 16 * number) area.unit
  have request : exchange.request = readRequest ((area.start + 16 * number) / area.unit)
      (min 16 (area.size - 16 * number)) := by
    rw [asked, pageRequest, Nat.min_comm, pageSize]
  -- Both numbers fit the fields of the request that they are sent in.
  obtain ⟨address, count⟩ := readRequest_data
    (show (area.start + 16 * number) / area.unit < 65536 by omega)
    (show min 16 (area.size - 16 * number) < 256 by omega)
  refine ⟨inside, by omega, request, ?_, ?_, fun page carries => ?_⟩
  · rw [request, address, scaled]
  · rw [request, count]
  -- What is written is bounded by what the page has and by the room that is left.
  · obtain ⟨_, _, nonempty⟩ := carries
    rw [written]
    omega

/-- The reading of an area from page to page. -/
structure Paged (area : ProductArea) (exchanges : List (Exchange controller)) (bytes : Bytes) :
    Prop where
  /-- The pages are written, one after another, into a buffer as large as the area. -/
  reads : area.ReadsPages area.pageStarts (List.replicate area.size 0) exchanges bytes
  /-- There are no more pages than it takes to cover the area. -/
  few : exchanges.length ≤ (area.size + 15) / 16
  /-- Each page lies inside the area. -/
  pages : ∀ number exchange, exchanges[number]? = some exchange → area.AsksPage number exchange
  /-- The buffer ends up as large as the area. -/
  sized : bytes.length = area.size

/-- Every reading of an area inside its device goes from page to page. -/
theorem Within.paged {inventorySize : Nat} {host : String} {bytes : Bytes}
    {exchanges : List (Exchange controller)} (within : area.Within inventorySize)
    (course : Course (area.read host) exchanges bytes) : area.Paged exchanges bytes := by
  have reads := course_readPages course
  have follows := reads.requests_prefix
  refine ⟨reads, ?_, fun number exchange found => ?_, ?_⟩
  -- The requests begin those for the pages, of which there are as many as cover the area.
  · have shorter := follows.length_le
    simpa [pageStarts, pageSize] using shorter
  · -- The request of this number is the one for the page of this number.
    have listed : (exchanges.map (·.request))[number]? = some exchange.request := by
      rw [List.getElem?_map, found]
      rfl
    -- The requests begin those for all pages, so the place in one list is the one in the other.
    obtain ⟨rest, whole⟩ := follows
    have expected : (area.pageStarts.map area.pageRequest)[number]? = some exchange.request := by
      rw [← whole, List.getElem?_append_left (List.getElem?_eq_some_iff.mp listed).1, listed]
    rw [List.getElem?_map, Option.map_eq_some_iff] at expected
    obtain ⟨index, start, asked⟩ := expected
    obtain ⟨rfl, inside⟩ := (getElem?_pageStarts area number index).mp start
    exact within.asksPage inside asked.symm
  -- Every page starts inside the area, which is all that writing it needs.
  · refine reads.length_eq List.length_replicate fun index listed => ?_
    obtain ⟨number, found⟩ := List.getElem?_of_mem listed
    exact Nat.le_of_lt ((getElem?_pageStarts area number index).mp found).2

end ProductArea

/--
Reading an inventory stays inside the product area, whatever the controller answers.

If the area is found, it lies inside the device; the pages that follow tile it as far as they go,
and what is decoded is as large as the area.
-/
theorem read_paged (host : String) {σ : Type} (handler : Dialogue.Handler controller σ)
    (memory : σ) :
    let exchanges := (Inventory.read host).outcome.transcript handler memory
    let result := ((Inventory.read host).outcome.run handler memory).1
    (∃ error, Course ProductArea.locate.outcome exchanges (.error error) ∧
        result = .error error) ∨
      ∃ found area inventorySize pages others bytes inventory,
        exchanges = found ++ pages ++ others ∧
        Course ProductArea.locate.outcome found (.ok area) ∧
        area.FoundBy found inventorySize ∧ area.Within inventorySize ∧ area.Paged pages bytes ∧
        others.map (·.request) = [Controller.deviceIdRequest, Controller.lanAddressRequest] ∧
        result = .ok inventory ∧ inventory.manufacturer = ProductArea.field? bytes 0 ∧
        inventory.productName = ProductArea.field? bytes 1 ∧
        inventory.serial = ProductArea.field? bytes 4 := by
  intro exchanges result
  have course : Course (Inventory.read host).outcome exchanges result :=
    Dialogue.course_run handler _ memory
  clear_value exchanges result
  rw [Inventory.read, Attempt.course_bind_iff] at course
  -- If the search fails the read fails with it, and nothing else is asked for.
  rcases course with ⟨error, failed, rfl⟩ | ⟨found, area, rest, located, course, rfl⟩
  · exact .inl ⟨error, failed, rfl⟩
  -- The area that is found lies inside the device, and its pages are read next.
  obtain ⟨inventorySize, foundBy, within⟩ := ProductArea.course_locate located
  rw [Attempt.course_report_bind_iff, Attempt.course_liftDialogue_bind_iff] at course
  obtain ⟨pages, bytes, others, read, course, rfl⟩ := course
  -- The two requests that are left have nothing to do with the area.
  rw [Attempt.course_liftDialogue_bind_iff] at course
  obtain ⟨first, firmwareVersion, last, device, course, rfl⟩ := course
  rw [Attempt.course_liftDialogue_bind_iff] at course
  obtain ⟨second, lanAddress, none, lan, course, rfl⟩ := course
  obtain ⟨rfl, rfl⟩ := Attempt.course_pure_iff.mp course
  refine .inr ⟨found, area, inventorySize, pages, first ++ (second ++ []), bytes, _,
    (List.append_assoc _ _ _).symm, located, foundBy, within, within.paged read, ?_, rfl, rfl, rfl,
    rfl⟩
  -- Each of the last two is one exchange, with a request that is always the same.
  rw [List.append_nil, List.map_append, Controller.course_tryFetch device,
    Controller.course_tryFetch lan]
  rfl

end Inventory

end BmcTelemetry
