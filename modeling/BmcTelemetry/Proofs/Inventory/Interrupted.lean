import BmcTelemetry.Proofs.Inventory.Gaps
import BmcTelemetry.Proofs.Inventory.Sources

/-!
Interrupted reads: what is decoded of an area when one of its pages fails.

The pages in front of the failing one are in the buffer, as the image has them. A field that ends
within them is found in its place and decodes as it would in the whole area.
-/

namespace BmcTelemetry.Inventory

open Dialogue (Course)

namespace ProductArea

/-- As long as pages bring something, the next one is asked for. -/
theorem ReadsPages.asks_next {area : ProductArea} {starts : List Nat} {buffer bytes : Bytes}
    {exchanges : List (Exchange controller)}
    (reads : area.ReadsPages starts buffer exchanges bytes) {number : Nat}
    (inside : number < starts.length)
    (bring : ∀ earlier exchange, earlier < number → exchanges[earlier]? = some exchange →
      ∃ page, exchange.Carries 1 page) :
    ∃ exchange, exchanges[number]? = some exchange := by
  -- The number counts exchanges from the front, so each page that is read lowers it by one.
  induction reads generalizing number with
  | finished buffer => simp at inside
  -- A read that stops has still asked for the page it stops at.
  | @stopped index rest exchange buffer asked failed =>
    cases number with
    | zero => exact ⟨exchange, rfl⟩
    | succ number =>
      -- The page that ends the read lies in front, and such a page brings something.
      obtain ⟨page, brings⟩ := bring 0 exchange (Nat.succ_pos number) rfl
      exact absurd brings (failed page)
  -- A page that brings something is followed by the rest of the read.
  | @page index rest first others buffer page bytes asked carries onward ih =>
    cases number with
    | zero => exact ⟨first, rfl⟩
    | succ number =>
      refine ih (by simpa using inside) fun earlier exchange before listed => ?_
      exact bring (earlier + 1) exchange (by omega) listed

/-- A page that brings all of its bytes. -/
structure Full (area : ProductArea) (contents : Bytes) (index : Nat) (page : Bytes) : Prop where
  /-- As many bytes are written as the page has. -/
  count : area.written index page = min 16 (area.size - index)
  /-- The contents have the same bytes in this place. -/
  own : area.pageBytes index page = contents.slice index (area.written index page)

/-- Up to a page that fails, the buffer holds what the contents have there. -/
theorem Paged.take_eq {area : ProductArea} {contents bytes : Bytes}
    {exchanges : List (Exchange controller)} (paged : area.Paged exchanges bytes) {number : Nat}
    (inside : 16 * number < area.size)
    (full : ∀ other exchange, exchanges[other]? = some exchange → other ≠ number →
      ∃ page, exchange.Carries 1 page ∧ area.Full contents (16 * other) page)
    (fails : ∀ exchange, exchanges[number]? = some exchange → ∀ page, ¬ exchange.Carries 1 page) :
    bytes.take (16 * number) = contents.take (16 * number) := by
  -- A full page brings what the contents have, and the failing one brings nothing at all.
  have truthful : area.Truthful contents area.pageStarts exchanges := by
    intro other index exchange page started listed carries
    obtain ⟨rfl, within⟩ := (getElem?_pageStarts area _ _).mp started
    -- The failing page carries nothing, so a page that is carried has another number.
    have different : other ≠ number := fun same => fails exchange (same ▸ listed) page carries
    obtain ⟨own, brings, whole⟩ := full other exchange listed different
    obtain rfl := carries.unique brings
    have count := whole.count
    exact ⟨by omega, by omega, by omega, whole.own⟩
  -- Every page in front of the failing one is asked for, and comes with all of its bytes.
  have received : ∀ place < 16 * number, area.Received area.pageStarts exchanges place := by
    intro place before
    have started : area.pageStarts[place / 16]? = some (16 * (place / 16)) :=
      (getElem?_pageStarts area _ _).mpr ⟨rfl, by omega⟩
    -- The pages in front of it are full, so none of them ended the read.
    obtain ⟨exchange, listed⟩ := paged.reads.asks_next (List.getElem?_eq_some_iff.mp started).1
      fun earlier exchange sooner found => by
        obtain ⟨page, brings, _⟩ := full earlier exchange found (by omega)
        exact ⟨page, brings⟩
    obtain ⟨page, brings, whole⟩ := full _ exchange listed (by omega)
    have count := whole.count
    exact ⟨_, _, exchange, page, started, listed, brings, by omega, by omega⟩
  -- Compare the two fronts byte by byte.
  apply List.ext_getElem?
  intro place
  by_cases before : place < 16 * number
  -- In front of the failing page every byte was received.
  · rw [List.getElem?_take_of_lt before, List.getElem?_take_of_lt before]
    exact (paged.getElem?_eq truthful (by omega)).1 (received place before)
  · -- From the failing page on nothing is compared.
    rw [List.getElem?_take_eq_none (by omega), List.getElem?_take_eq_none (by omega)]

end ProductArea

/-- An image of an inventory device that holds an area of so many units where its header says. -/
structure HoldsArea (image : Bytes) (units : UInt8) : Prop where
  /-- The size of the image can be told. -/
  small : image.length ≤ 65535
  /-- The area states its own size. -/
  stated : image.byteAt ((image.byteAt 4).toNat * 8 + 1) = units
  /-- The area is not empty. -/
  nonempty : 0 < units.toNat
  /-- The area ends no later than the image. -/
  inside : (image.byteAt 4).toNat * 8 + units.toNat * 8 ≤ image.length

/-- What an image holds in its product area. -/
def heldArea (image : Bytes) (units : UInt8) : Bytes :=
  image.slice ((image.byteAt 4).toNat * 8) (units.toNat * 8)

namespace HoldsArea

variable {image : Bytes} {word : Bool} {units : UInt8} {host : String}
  {exchanges : List (Exchange controller)} {result : Except IpmiError Inventory}

/-- The area is as large as it says. -/
theorem length_heldArea (holds : HoldsArea image units) :
    (heldArea image units).length = units.toNat * 8 :=
  Bytes.length_slice holds.inside

/-- The area is found where it is. -/
theorem locates (holds : HoldsArea image units) (word : Bool) :
    ProductArea.locate.Succeeds
      (fun exchanges => ∀ exchange ∈ exchanges, ServesImage image word exchange)
      (areaOf image word units) :=
  succeeds_locate holds.small holds.nonempty holds.inside holds.stated

/-- A page that is served comes with all of its bytes. -/
theorem full (holds : HoldsArea image units) {number : Nat} {exchange : Exchange controller}
    (asks : (areaOf image word units).AsksPage number exchange)
    (serves : ServesImage image word exchange) :
    ∃ page, exchange.Carries 1 page ∧
      (areaOf image word units).Full (heldArea image units) (16 * number) page := by
  -- The page is asked for as one of the area, by its place in it.
  have asked : exchange.request = (areaOf image word units).pageRequest (16 * number) := by
    rw [asks.asked, ProductArea.pageRequest, ProductArea.pageSize, Nat.min_comm]
  obtain ⟨page, carries, bytes⟩ := handsPages_image holds.small holds.inside (16 * number) exchange
    (Nat.mul_mod_right 16 number) asks.inside serves asked
  -- The slice does not run over the end, so that it has as many bytes as are asked for.
  have count := ProductArea.length_pageBytes (areaOf image word units) (16 * number) page
  have measured := holds.length_heldArea
  have size : (areaOf image word units).size = units.toNat * 8 := rfl
  have inside := asks.inside
  rw [bytes, ProductArea.pageSize, Bytes.length_slice
    (by change _ ≤ (heldArea image units).length; omega)] at count
  refine ⟨page, carries, by omega, ?_⟩
  rw [bytes, ← count]
  rfl

/-- An area that is served as a whole is decoded as the image holds it. -/
theorem course_whole (holds : HoldsArea image units)
    (course : Course (Inventory.read host).outcome exchanges result)
    (serves : ∀ exchange ∈ exchanges, ServesImage image word exchange) :
    ∃ inventory, result = .ok inventory ∧ DecodedFrom inventory (heldArea image units) := by
  -- The area is found, since all that the search needs is served.
  rcases course_read course with ⟨error, failed, _⟩ | ⟨sources, inventory, rfl, gives, rfl⟩
  · cases holds.locates word _ _ serves failed.course
  obtain ⟨front, _⟩ := List.forall_mem_append.mp serves
  -- The pages are served as well, so the buffer is the held area.
  obtain ⟨found, area, pages, bytes, own, search, read, decoded⟩ := gives.product
  rw [own] at front
  obtain ⟨first, back⟩ := List.forall_mem_append.mp front
  -- Any read of an area that is served in full comes to what it holds.
  obtain rfl := Except.ok.inj (holds.locates word _ _ first search.course)
  have returns : ((areaOf image word units).read host).Returns
      (fun exchanges => ∀ exchange ∈ exchanges, ServesImage image word exchange)
      (heldArea image units) :=
    returns_read host (handsPages_image holds.small holds.inside) holds.length_heldArea
  obtain rfl := returns _ _ back read
  exact ⟨inventory, rfl, decoded⟩

/-- An area of which one page fails is decoded from bytes that are right up to this page. -/
theorem course_interrupted (holds : HoldsArea image units)
    (course : Course (Inventory.read host).outcome exchanges result) {number : Nat}
    (inside : 16 * number < units.toNat * 8)
    (serves : ∀ place exchange, exchanges[place]? = some exchange → place ≠ 3 + number →
      ServesImage image word exchange)
    (fails : ∀ exchange, exchanges[3 + number]? = some exchange →
      ∀ page, ¬ exchange.Carries 1 page) :
    ∃ inventory bytes, result = .ok inventory ∧ DecodedFrom inventory bytes ∧
      bytes.length = (heldArea image units).length ∧
      bytes.take (16 * number) = (heldArea image units).take (16 * number) := by
  -- The first three exchanges find the area, and the failing one comes later.
  have early : ∀ {first : List (Exchange controller)}, first <+: exchanges → first.length ≤ 3 →
      ∀ exchange ∈ first, ServesImage image word exchange := by
    intro first begins few exchange member
    obtain ⟨place, listed⟩ := List.getElem?_of_mem member
    have sooner := (List.getElem?_eq_some_iff.mp listed).1
    obtain ⟨rest, rfl⟩ := begins
    refine serves place exchange ?_ (by omega)
    rw [List.getElem?_append_left sooner, listed]
  rcases course_read course with ⟨error, failed, _⟩ | ⟨sources, inventory, rfl, gives, rfl⟩
  -- A search that failed would have failed within the first three exchanges, which are served.
  · cases holds.locates word _ _ (early List.prefix_rfl failed.length_le) failed.course
  obtain ⟨found, area, pages, bytes, own, search, read, decoded⟩ := gives.product
  -- The exchanges are those of the search, of the pages and the two at the end.
  have whole : sources.exchanges = found ++ (pages ++ [sources.deviceId, sources.lanAddress]) := by
    rw [Sources.exchanges, own, List.append_assoc]
  rw [whole] at early serves fails
  obtain rfl := Except.ok.inj
    (holds.locates word _ _ (early (List.prefix_append _ _) search.length_le) search.course)
  obtain ⟨_, foundBy, within⟩ := ProductArea.course_locate search.course
  -- A search that finds an area takes all of its three steps.
  have three : found.length = 3 := by
    have asked := congrArg List.length foundBy.requests
    rwa [List.length_map] at asked
  -- An exchange of the read has its place behind the three that find the area.
  have paged := within.paged read
  have later : ∀ {other : Nat} {exchange : Exchange controller}, pages[other]? = some exchange →
      (found ++ (pages ++ [sources.deviceId, sources.lanAddress]))[3 + other]? = some exchange := by
    intro other exchange listed
    rw [List.getElem?_append_right (by omega), three, Nat.add_sub_cancel_left,
      List.getElem?_append_left (List.getElem?_eq_some_iff.mp listed).1, listed]
  refine ⟨inventory, bytes, rfl, decoded, ?_, paged.take_eq inside ?_ ?_⟩
  -- The buffer keeps its size through all pages.
  · rw [holds.length_heldArea]
    exact paged.sized
  -- Any other page is one that is served, and so it is full.
  · intro other exchange listed different
    exact holds.full (paged.pages other exchange listed)
      (serves (3 + other) exchange (later listed) (by omega))
  -- The failing page is the failing exchange, behind the three of the search.
  · exact fun exchange listed => fails exchange (later listed)

end HoldsArea

/--
A page that fails leaves the fields in front of it as they are.

The inventory is found in any case. Each of its texts whose field ends before the failing page is
the one that a whole read gives. Of an area nothing matters for a field but what comes up to its
end, and how long the area is.
-/
theorem interrupted_keeps_fields (host : String) {image : Bytes} {units : UInt8} {word : Bool}
    (holds : HoldsArea image units) {σ τ : Type} {whole : Dialogue.Handler controller σ}
    {fresh : σ} {broken : Dialogue.Handler controller τ} {memory : τ} {number : Nat}
    (inside : 16 * number < units.toNat * 8)
    (servesAll : ∀ exchange ∈ (Inventory.read host).outcome.transcript whole fresh,
      ServesImage image word exchange)
    (serves : ∀ place exchange,
      ((Inventory.read host).outcome.transcript broken memory)[place]? = some exchange →
        place ≠ 3 + number → ServesImage image word exchange)
    (fails : ∀ exchange,
      ((Inventory.read host).outcome.transcript broken memory)[3 + number]? = some exchange →
        ∀ page, ¬ exchange.Carries 1 page) :
    (∃ complete partly, ((Inventory.read host).outcome.run whole fresh).1 = .ok complete ∧
        ((Inventory.read host).outcome.run broken memory).1 = .ok partly ∧
        (ProductArea.EndsBy (heldArea image units) 0 (16 * number) → ∃ text,
          complete.manufacturer = some text ∧ partly.manufacturer = some text) ∧
        (ProductArea.EndsBy (heldArea image units) 1 (16 * number) → ∃ text,
          complete.productName = some text ∧ partly.productName = some text) ∧
        (ProductArea.EndsBy (heldArea image units) 4 (16 * number) → ∃ text,
          complete.serial = some text ∧ partly.serial = some text)) ∧
      ∀ (left right : Bytes) (limit index : Nat), left.length = right.length →
        left.take limit = right.take limit → ProductArea.EndsBy left index limit →
          ∃ text, ProductArea.field? left index = some text ∧
            ProductArea.field? right index = some text := by
  refine ⟨?_, fun left right limit index sized common ends =>
    ProductArea.field?_congr sized common ends⟩
  -- The whole read comes to the held area, and the interrupted one to its front at least.
  obtain ⟨complete, run, decoded⟩ := holds.course_whole (Dialogue.course_run whole _ fresh) servesAll
  obtain ⟨partly, bytes, runPartly, decodedPartly, sized, common⟩ :=
    holds.course_interrupted (Dialogue.course_run broken _ memory) inside serves fails
  -- Both are decoded from areas of one length that agree up to the failing page.
  refine ⟨complete, partly, run, runPartly, ?_, ?_, ?_⟩
  · rw [decoded.manufacturer, decodedPartly.manufacturer]
    exact ProductArea.field?_congr sized.symm common.symm
  · rw [decoded.productName, decodedPartly.productName]
    exact ProductArea.field?_congr sized.symm common.symm
  · rw [decoded.serial, decodedPartly.serial]
    exact ProductArea.field?_congr sized.symm common.symm

/-- Surroundings that hand out an image, but refuse one request. -/
def refusing (lost : Request) (image : Bytes) (word : Bool) :
    Dialogue.Handler controller Unit :=
  fun (request : Request) memory =>
    if request = lost then (.ok (.answered [0xcb]), memory)
    else servingImage image word (.answered [0xc1]) request memory

/-- The one request fails, and the parts that others ask for are handed out. -/
theorem refusing_answer {lost : Request} {image : Bytes} {word : Bool} {α : Type}
    {dialogue : Dialogue controller α} {exchange : Exchange controller}
    (member : exchange ∈ dialogue.transcript (refusing lost image word) ()) :
    (exchange.request = lost → ∀ page, ¬ exchange.Carries 1 page) ∧
      (exchange.request ≠ lost → ServesImage image word exchange) := by
  -- Every answer is what the surroundings give for its request.
  obtain ⟨_, answered⟩ := Dialogue.transcript_answered _ dialogue () exchange member
  change exchange.answer = (refusing lost image word exchange.request ()).1 at answered
  constructor
  -- The one request gets a refusal, which carries no page.
  · rintro same page ⟨valid, succeeded, _⟩
    rw [refusing, if_pos same, succeeded] at answered
    cases answered
  -- Any other request is answered from the image.
  · intro other
    rw [refusing, if_neg other] at answered
    exact servesImage_serve answered

/-- The third page is refused, with the serial number in it and the other two texts before it. -/
theorem interrupted_keeps_fields_thirdPage :
    HoldsArea paddedImage 5 ∧ ∃ complete partly,
      ((Inventory.read "bmc").outcome.run
        (servingImage paddedImage true (.answered [0xc1])) ()).1 = .ok complete ∧
      ((Inventory.read "bmc").outcome.run
        (refusing ((areaOf paddedImage true 5).pageRequest 32) paddedImage true) ()).1
          = .ok partly ∧
      (∃ text, complete.manufacturer = some text ∧ partly.manufacturer = some text) ∧
      (∃ text, complete.productName = some text ∧ partly.productName = some text) := by
  have holds : HoldsArea paddedImage 5 :=
    ⟨by decide +kernel, by decide +kernel, by decide, by decide +kernel⟩
  -- The requests of the interrupted read are computed, and each stands in one place.
  have requests : ((Inventory.read "bmc").outcome.transcript
      (refusing ((areaOf paddedImage true 5).pageRequest 32) paddedImage true) ()).map (·.request)
        = [areaRequest, ProductArea.readRequest 0 8, ProductArea.readRequest 8 2,
          ProductArea.readRequest 8 16, ProductArea.readRequest 16 16,
          ProductArea.readRequest 24 8, Controller.deviceIdRequest,
          Controller.lanAddressRequest] := by
    decide +kernel
  -- The sixth exchange asks for the third page, and no other one does.
  have lost : ∀ {place : Nat} {exchange : Exchange controller},
      ((Inventory.read "bmc").outcome.transcript
        (refusing ((areaOf paddedImage true 5).pageRequest 32) paddedImage true) ())[place]?
          = some exchange →
        (exchange.request = (areaOf paddedImage true 5).pageRequest 32 ↔ place = 3 + 2) := by
    intro place exchange listed
    have inside := (List.getElem?_eq_some_iff.mp listed).1
    rw [← List.length_map (·.request), requests] at inside
    have asked := congrArg (·[place]?) requests
    simp only [List.getElem?_map, listed, Option.map_some] at asked
    rw [← Option.some_inj, asked]
    -- What is left compares each of eight places with the one request.
    clear listed asked
    revert place
    decide +kernel
  obtain ⟨⟨complete, partly, run, runPartly, manufacturer, productName, _⟩, _⟩ :=
    interrupted_keeps_fields "bmc" holds (show 16 * 2 < (5 : UInt8).toNat * 8 by decide)
      (fun exchange member => servesImage_serve (answer_servingImage member))
      (fun place exchange listed different =>
        (refusing_answer (List.mem_of_getElem? listed)).2
          fun same => different ((lost listed).mp same))
      (fun exchange listed =>
        (refusing_answer (List.mem_of_getElem? listed)).1 ((lost listed).mpr rfl))
  -- The first two fields start at the bytes 3 and 11, and have seven bytes each.
  refine ⟨holds, complete, partly, run, runPartly, manufacturer ?_, productName ?_⟩
  · exact ⟨3, 0xc7, by decide +kernel, by decide +kernel, by decide⟩
  · exact ⟨11, 0xc7, by decide +kernel, by decide +kernel, by decide⟩

end BmcTelemetry.Inventory
