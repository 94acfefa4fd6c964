import BmcTelemetry.Inventory.Reading
import BmcTelemetry.Proofs.Dialogue.Returns
import BmcTelemetry.Proofs.Inventory.Image
import BmcTelemetry.Proofs.Sensor.Slices

/-!
Reading an inventory: what a controller holds in its product area is what is found.

The image may hold anything else, and may be addressed by bytes or by pairs of bytes.
-/

namespace BmcTelemetry

open Dialogue (Course)

namespace Controller

variable {rule : Exchange controller → Prop} {request : Request} {α : Type}

/-- What is fetched and leads to a value, whatever exactly it is, is fetched with that value. -/
theorem succeeds_fetch_bind {least : Nat} {step : Step} {next : Bytes → Attempt controller α}
    {value : α} (carried : ∀ exchange, rule exchange → exchange.request = request →
      ∃ payload, exchange.Carries least payload ∧
        (next payload).Succeeds (fun exchanges => ∀ exchange ∈ exchanges, rule exchange) value) :
    (fetch request least step >>= next).Succeeds
      (fun exchanges => ∀ exchange ∈ exchanges, rule exchange) value := by
  intro exchanges result fair course
  -- The fetch fails or yields a payload, which the one exchange decides.
  rcases Attempt.course_bind_iff.mp course with ⟨error, failed, rfl⟩ |
    ⟨first, fetched, rest, asked, onward, rfl⟩
  · -- The answer carries enough, so that fetching it cannot fail.
    obtain ⟨exchange, rfl, requested, carries⟩ := course_fetch failed
    obtain ⟨payload, enough, _⟩ := carried exchange (fair exchange (by simp)) requested
    cases (carries payload).mpr enough
  -- The payload that was fetched is the one that leads to the value.
  · obtain ⟨exchange, rfl, requested, carries⟩ := course_fetch asked
    obtain ⟨payload, enough, further⟩ := carried exchange (fair exchange (by simp)) requested
    obtain rfl := Except.ok.inj ((carries payload).mpr enough)
    exact further rest result (fun other member => fair other (by simp [member])) onward

end Controller

namespace Inventory

section Serving

variable {image : Bytes} {word : Bool}

/-- Where an image holds its product area, and how it is addressed. -/
def areaOf (image : Bytes) (word : Bool) (units : UInt8) : ProductArea :=
  { start := (image.byteAt 4).toNat * 8, size := units.toNat * 8, unit := unitSize word }

/-- An area that fills its place lies inside the image, and states its own size there. -/
theorem area_inside {texts : ProductTexts} {version units language : UInt8} {rest : Bytes}
    (measured : (texts.area version units language rest).length = units.toNat * 8)
    (placed : image.slice ((image.byteAt 4).toNat * 8) (units.toNat * 8)
      = texts.area version units language rest) :
    0 < units.toNat ∧ (image.byteAt 4).toNat * 8 + units.toNat * 8 ≤ image.length ∧
      image.byteAt ((image.byteAt 4).toNat * 8 + 1) = units := by
  -- The slice is as long as the area, so that the image has all of it.
  have filled := congrArg List.length placed
  rw [measured, Bytes.slice, List.length_take, List.length_drop] at filled
  -- The header alone takes three bytes, so that the area is not empty.
  have nonempty : 3 ≤ (texts.area version units language rest).length := by
    rw [ProductTexts.area, List.length_append]
    exact Nat.le_add_right 3 _
  refine ⟨by omega, by omega, ?_⟩
  -- The second byte of the area states its units.
  rw [← Bytes.byteAt_slice image (show 1 < units.toNat * 8 by omega), placed]
  rfl

/-- The place and the size of the area are found in the headers. -/
theorem succeeds_locate {units : UInt8} (small : image.length ≤ 65535)
    (nonempty : 0 < units.toNat)
    (inside : (image.byteAt 4).toNat * 8 + units.toNat * 8 ≤ image.length)
    (stated : image.byteAt ((image.byteAt 4).toNat * 8 + 1) = units) :
    ProductArea.locate.Succeeds
      (fun exchanges => ∀ exchange ∈ exchanges, ServesImage image word exchange)
      (areaOf image word units) := by
  rw [ProductArea.locate]
  -- The size of the image and the way of addressing are asked for first.
  refine Controller.succeeds_fetch_bind fun exchange serves asked => ?_
  obtain ⟨flags, more, flag, carries⟩ := serves.described asked
  refine ⟨_, carries, ?_⟩
  have size : ((Bytes.ofWord (UInt16.ofNat image.length) ++ flags :: more).wordAt 0).toNat
      = image.length := by
    rw [Bytes.wordAt_ofWord]
    exact UInt16.toNat_ofNat_of_lt' (show image.length < 65536 by omega)
  have unit : ((Bytes.ofWord (UInt16.ofNat image.length) ++ flags :: more).byteAt 2).toNat % 2 + 1
      = unitSize word := congrArg (· + 1) flag
  simp only [size, unit]
  rw [if_neg (by omega)]
  -- The common header is at the very front, and names the start of the area.
  refine Controller.succeeds_fetch_bind fun exchange serves asked => ?_
  have header := serves.carries small 0 8 (Nat.dvd_zero _) (by omega) (by decide) (by decide)
    (by rwa [Nat.zero_div])
  refine ⟨_, header, ?_⟩
  have named : Bytes.byteAt (UInt8.ofNat 8 :: image.slice 0 8) 5 = image.byteAt (0 + 4) :=
    Bytes.byteAt_slice image (show 4 < 8 by decide)
  rw [Nat.zero_add] at named
  simp only [named]
  -- The area has a header of its own, with its size.
  refine Controller.succeeds_fetch_bind fun exchange serves asked => ?_
  have header := serves.carries small ((image.byteAt 4).toNat * 8) 2 (unitSize_dvd (by omega))
    (by omega) (by decide) (by decide) asked
  refine ⟨_, header, ?_⟩
  have size : Bytes.byteAt (UInt8.ofNat 2 :: image.slice ((image.byteAt 4).toNat * 8) 2) 2
      = units := (Bytes.byteAt_slice image (show 1 < 2 by decide)).trans stated
  simp only [size]
  rw [if_neg (by omega)]
  exact Attempt.succeeds_pure _

end Serving

section Pages

variable {rule : Exchange controller → Prop} {area : ProductArea} {contents : Bytes}

/-- Each page is handed out with the bytes that the contents have there. -/
def HandsPages (rule : Exchange controller → Prop) (area : ProductArea) (contents : Bytes) : Prop :=
  ∀ index exchange, index % ProductArea.pageSize = 0 → index < area.size → rule exchange →
    exchange.request = area.pageRequest index → ∃ page, exchange.Carries 1 page ∧
      area.pageBytes index page
        = contents.slice index (min (area.size - index) ProductArea.pageSize)

/-- Pages that are handed out one after another fill up the buffer with the contents. -/
theorem returns_readPages (host : String) (hands : HandsPages rule area contents)
    (sized : contents.length = area.size) {place stop : Nat} {parts : List Sensor.Slice}
    (tiled : Sensor.Tiles ProductArea.pageSize place parts stop) (ends : stop = area.size)
    (paged : ∀ part ∈ parts, part.offset % ProductArea.pageSize = 0) :
    ∀ {buffer : Bytes}, buffer.length = area.size → buffer.take place = contents.take place →
      (area.readPages host (parts.map (·.offset)) buffer).Returns
        (fun exchanges => ∀ exchange ∈ exchanges, rule exchange) contents := by
  -- After each page, what is common to the buffer and the contents reaches to the next one.
  induction tiled with
  | nil =>
    -- The page that comes next is asked for at the end of the area, so that the buffer is full.
    intro buffer filled common
    have whole : buffer = contents := by
      rwa [List.take_of_length_le (by omega), List.take_of_length_le (by omega)] at common
    rw [whole]
    exact Dialogue.returns_pure contents
  | @cons offset count stop rest positive fits tiled ih =>
    intro buffer filled common
    -- The page starts inside the area, since the tiles end where it does.
    have within := tiled.le
    have start : offset % ProductArea.pageSize = 0 := paged _ List.mem_cons_self
    -- Whatever the controller answers to the page is what the rule allows.
    refine Dialogue.returns_query_bind fun reply fair => ?_
    obtain ⟨page, ⟨valid, answered, enough⟩, bytes⟩ := hands offset _ start (by omega) fair rfl
    change reply = _ at answered
    subst answered
    have read : Response.requirePayload ⟨0x00 :: page, valid⟩ 1 .productPage = .ok page :=
      Response.requirePayload_ok_iff.mpr ⟨rfl, enough⟩
    simp only [read, bytes]
    -- The page reaches to the next one or to the end of the area.
    have size : ((contents.slice offset
        (min (area.size - offset) ProductArea.pageSize))).length
          = min (area.size - offset) ProductArea.pageSize := Bytes.length_slice (by omega)
    -- The buffer keeps its length, and the page extends what it has in common with the contents.
    refine ih ends (fun part member => paged part (List.mem_cons_of_mem _ member)) ?_ ?_
    · rw [Bytes.length_patch, size]
      omega
    · -- A page is at least as long as the part of the area that it stands for.
      have more := Bytes.take_patch common
        (show offset + min (area.size - offset) ProductArea.pageSize ≤ contents.length by omega)
        (by omega)
      have reaches := congrArg (List.take (offset + count)) more
      rwa [List.take_take, List.take_take, Nat.min_eq_left (by omega)] at reaches

/-- The whole area is read as it is. -/
theorem returns_read (host : String) (hands : HandsPages rule area contents)
    (sized : contents.length = area.size) :
    (area.read host).Returns (fun exchanges => ∀ exchange ∈ exchanges, rule exchange) contents := by
  -- The pages are tiles of the page size, from the front to the end of the area.
  have tiled : Sensor.Tiles ProductArea.pageSize 0
      (Sensor.slices area.size ProductArea.pageSize) area.size :=
    Sensor.slices_tile (by decide) area.size
  have starts : area.pageStarts
      = (Sensor.slices area.size ProductArea.pageSize).map (·.offset) := by
    rw [ProductArea.pageStarts, Sensor.slices, List.map_map]
    rfl
  rw [ProductArea.read, starts]
  -- An empty buffer has nothing in common with the contents yet, and needs nothing.
  refine returns_readPages host hands sized tiled rfl (fun part member => ?_)
    (List.length_replicate ..) rfl
  obtain ⟨index, _, rfl⟩ := List.mem_map.mp member
  exact Nat.mul_mod_left index _

end Pages

/-- A page that comes with the number of its bytes is taken as a whole where there is room. -/
theorem pageBytes_counted {area : ProductArea} {index : Nat} {bytes : Bytes}
    (short : bytes.length ≤ 255) (fits : bytes.length ≤ area.size - index) :
    area.pageBytes index (counted bytes) = bytes := by
  -- A byte can tell a count up to 255.
  have count : (UInt8.ofNat bytes.length).toNat = bytes.length := Bytes.toNat_byte short
  -- The page is cut by the count, by what is there and by the room, none of which is shorter.
  change List.take (min (min (UInt8.ofNat bytes.length).toNat (bytes.length + 1 - 1)) _) bytes = _
  exact List.take_of_length_le (by omega)

/-- An image that is handed out in parts is handed out in pages of its area. -/
theorem handsPages_image {image : Bytes} {word : Bool} {units : UInt8}
    (small : image.length ≤ 65535)
    (inside : (image.byteAt 4).toNat * 8 + units.toNat * 8 ≤ image.length) :
    HandsPages (ServesImage image word) (areaOf image word units)
      (image.slice ((image.byteAt 4).toNat * 8) (units.toNat * 8)) := by
  intro index exchange paged within serves asked
  simp only [areaOf, ProductArea.pageRequest, ProductArea.pageSize] at paged within asked ⊢
  -- The place and the size are named, so that only numbers are compared from here on.
  generalize (image.byteAt 4).toNat = start at inside asked ⊢
  generalize units.toNat = size at inside within asked ⊢
  -- A page inside the area is a part inside the image, at an even place.
  obtain ⟨valid, answered, enough⟩ := serves.carries small (start * 8 + index)
    (min (size * 8 - index) 16) (unitSize_dvd (by omega)) (by omega) (by omega) (by omega) asked
  have length : (image.slice (start * 8 + index) (min (size * 8 - index) 16)).length
      = min (size * 8 - index) 16 := Bytes.length_slice (by omega)
  refine ⟨_, ⟨valid, answered, by omega⟩, ?_⟩
  -- The count in front of the page is the number of its bytes.
  have page : UInt8.ofNat (min (size * 8 - index) 16)
        :: image.slice (start * 8 + index) (min (size * 8 - index) 16)
      = counted (image.slice (start * 8 + index) (min (size * 8 - index) 16)) := by
    rw [counted, length]
  -- The slice of the area is the slice of the image at the area's place.
  rw [Bytes.slice_slice image (by omega), page]
  exact pageBytes_counted (by omega) (by rw [length]; exact Nat.min_le_left _ _)

/--
An inventory is read as the image holds it.

The image is served under either way of addressing. Nothing is asked of the answers to any other
request, so that the controller may refuse them or fail to answer at all.
-/
theorem read_product (host : String) {image : Bytes} {texts : ProductTexts} {word : Bool}
    (holds : HoldsProduct image texts) {σ : Type} {handler : Dialogue.Handler controller σ}
    {memory : σ}
    (serves : ∀ exchange ∈ (Inventory.read host).outcome.transcript handler memory,
      ServesImage image word exchange) :
    ∃ inventory, ((Inventory.read host).outcome.run handler memory).1 = .ok inventory ∧
      inventory.manufacturer = some (Field.trimmed texts.manufacturer) ∧
      inventory.productName = some (Field.trimmed texts.productName) ∧
      inventory.serial = some (Field.trimmed texts.serial) := by
  obtain ⟨version, units, language, rest, measured, placed⟩ := holds.placed
  obtain ⟨nonempty, inside, stated⟩ := area_inside measured placed
  -- The area is found and then read, whatever the device does with other requests.
  have locates : ProductArea.locate.Succeeds
      (fun exchanges => ∀ exchange ∈ exchanges, ServesImage image word exchange)
      (areaOf image word units) := succeeds_locate holds.small nonempty inside stated
  have reads : ((areaOf image word units).read host).Returns
      (fun exchanges => ∀ exchange ∈ exchanges, ServesImage image word exchange)
      (image.slice ((image.byteAt 4).toNat * 8) (units.toNat * 8)) :=
    returns_read host (handsPages_image holds.small inside) (Bytes.length_slice inside)
  -- What remains is to follow the run through its two parts.
  have course := Dialogue.course_run handler (Inventory.read host).outcome memory
  generalize (Inventory.read host).outcome.transcript handler memory = exchanges at course serves
  generalize ((Inventory.read host).outcome.run handler memory).1 = result at course ⊢
  rw [Inventory.read] at course
  rcases Attempt.course_bind_iff.mp course with ⟨error, failed, _⟩ |
    ⟨first, area, others, located, course, rfl⟩
  -- The headers lead to the area, so that finding it cannot fail.
  · cases locates _ _ serves failed
  obtain ⟨front, back⟩ := List.forall_mem_append.mp serves
  obtain rfl := Except.ok.inj (locates _ _ front located)
  obtain ⟨pages, bytes, after, read, course, rfl⟩ :=
    Attempt.course_liftDialogue_bind_iff.mp (Attempt.course_report_bind_iff.mp course)
  obtain rfl := reads _ _ (List.forall_mem_append.mp back).1 read
  -- Whatever else is asked for has an answer or none, and the inventory is put together.
  obtain ⟨_, firmwareVersion, _, _, course, _⟩ := Attempt.course_liftDialogue_bind_iff.mp course
  obtain ⟨_, lanAddress, _, _, course, _⟩ := Attempt.course_liftDialogue_bind_iff.mp course
  obtain ⟨_, rfl⟩ := Attempt.course_pure_iff.mp course
  have fields := ProductTexts.field?_area holds.holdable version units language rest
  -- The fields of the area that was read are those of the texts, three of which are kept.
  refine ⟨_, rfl, ?_⟩
  rw [placed]
  exact ⟨fields 0, fields 1, fields 4⟩

/-- Texts with blanks around some of them, with one that is empty and one that is not all ASCII. -/
def paddedTexts : ProductTexts :=
  { manufacturer := " Intel ", productName := "S2600WF", partNumber := "", version := "é",
    serial := "BQWF12345\n" }

/-- An image with the texts in its second half, after bytes of no meaning and before another. -/
def paddedImage : Bytes :=
  [0x01, 0x00, 0x00, 0x00, 0x02, 0x00, 0x00, 0xfd] ++ List.replicate 8 0xaa
    ++ paddedTexts.area 0x01 0x05 0x19 [0x00, 0x00, 0x00, 0x00, 0x5e] ++ [0x55]

/-- The texts are found by pairs of bytes, without an answer to any other request. -/
theorem read_product_padded :
    HoldsProduct paddedImage paddedTexts ∧
      (∀ exchange ∈ (Inventory.read "bmc").outcome.transcript
        (servingImage paddedImage true (.answered [0xc1])) (),
        ServesImage paddedImage true exchange) ∧
      ∃ inventory, ((Inventory.read "bmc").outcome.run
          (servingImage paddedImage true (.answered [0xc1])) ()).1 = .ok inventory ∧
        inventory.manufacturer = some "Intel" ∧ inventory.productName = some "S2600WF" ∧
        inventory.serial = some "BQWF12345" := by
  -- Every text is short and has no zero character in it.
  have holdable : ∀ text ∈ paddedTexts.all, Field.Holdable text := fun text member =>
    have facts : ∀ text ∈ paddedTexts.all, text.utf8ByteSize ≤ 63 ∧ '\x00' ∉ text.toList := by
      decide
    ⟨(facts text member).1, (facts text member).2⟩
  -- The area states five units, which it fills with what follows its last field.
  have holds : HoldsProduct paddedImage paddedTexts :=
    ⟨by decide +kernel, holdable, 0x01, 0x05, 0x19, [0x00, 0x00, 0x00, 0x00, 0x5e],
      by decide +kernel, by decide +kernel⟩
  -- The surroundings serve this image whatever they are asked.
  have serves : ∀ exchange ∈ (Inventory.read "bmc").outcome.transcript
      (servingImage paddedImage true (.answered [0xc1])) (),
      ServesImage paddedImage true exchange :=
    fun exchange member => servesImage_serve (answer_servingImage member)
  -- Blanks are taken from the ends of two texts, and there are none in the third.
  have trimmed : Field.trimmed paddedTexts.manufacturer = "Intel" ∧
      Field.trimmed paddedTexts.productName = "S2600WF" ∧
      Field.trimmed paddedTexts.serial = "BQWF12345" := by
    decide
  obtain ⟨inventory, read, manufacturer, productName, serial⟩ := read_product "bmc" holds serves
  rw [trimmed.1] at manufacturer
  rw [trimmed.2.1] at productName
  rw [trimmed.2.2] at serial
  exact ⟨holds, serves, inventory, read, manufacturer, productName, serial⟩

end Inventory

end BmcTelemetry
