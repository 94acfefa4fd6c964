import BmcTelemetry.Proofs.Controller
import BmcTelemetry.Proofs.Inventory.Product

/-! Images of inventory devices: where one holds its product area, and how it is handed out. -/

namespace BmcTelemetry.Inventory

/-- The request for the size of an inventory device and the way of addressing it. -/
def areaRequest : Request := .direct [0x0a, 0x10, 0x00]

/-- The number of bytes that one unit of an address spans. -/
def unitSize (word : Bool) : Nat :=
  word.toNat + 1

/-- Even places can be addressed either way. -/
theorem unitSize_dvd {word : Bool} {place : Nat} (even : place % 2 = 0) :
    unitSize word ∣ place := by
  -- Every place can be addressed by bytes, and an even one by pairs of bytes.
  cases word with
  | false => exact Nat.one_dvd place
  | true => exact Nat.dvd_of_mod_eq_zero even

/-- Bytes with their number in front. -/
def counted (bytes : Bytes) : Bytes :=
  UInt8.ofNat bytes.length :: bytes

/-- An image of an inventory device that holds a product area where its header says. -/
structure HoldsProduct (image : Bytes) (texts : ProductTexts) : Prop where
  /-- The size of the image can be told. -/
  small : image.length ≤ 65535
  /-- Every text fits into its field. -/
  holdable : ∀ text ∈ texts.all, Field.Holdable text
  /-- The area states its own size, and lies at the place that the common header names. -/
  placed : ∃ version units language rest,
    (texts.area version units language rest).length = units.toNat * 8 ∧
      image.slice ((image.byteAt 4).toNat * 8) (units.toNat * 8)
        = texts.area version units language rest

/-- A controller tells the size of an image and hands out any part of it, as far as it goes. -/
structure ServesImage (image : Bytes) (word : Bool) (exchange : Exchange controller) : Prop where
  /-- The size comes with a flag for the way of addressing. -/
  described : exchange.request = areaRequest → ∃ flags more, flags.toNat % 2 = word.toNat ∧
    exchange.Carries 3 (Bytes.ofWord (UInt16.ofNat image.length) ++ flags :: more)
  /-- A part comes with the number of its bytes. -/
  part : ∀ address count, address < 65536 → count < 256 →
    exchange.request = ProductArea.readRequest address count →
    address * unitSize word < image.length →
    exchange.Carries 1 (counted (image.slice (address * unitSize word) count))

/-- What a controller with such an image answers, each request on its own. -/
def serveImage (image : Bytes) (word : Bool) (otherwise : Response) (request : Request) :
    Response :=
  let address := (request.data.wordAt 3).toNat
  let count := (request.data.byteAt 5).toNat
  if request = areaRequest then
    .answered (0x00 :: (Bytes.ofWord (UInt16.ofNat image.length) ++ [UInt8.ofNat word.toNat]))
  else if request = ProductArea.readRequest address count then
    if address * unitSize word < image.length then
      .answered (0x00 :: counted (image.slice (address * unitSize word) count))
    else .answered [0xc9]
  else otherwise

/-- A request for part of an image tells which part it asks for. -/
theorem readRequest_data {address count : Nat} (reached : address < 65536) (short : count < 256) :
    ((ProductArea.readRequest address count).data.wordAt 3).toNat = address ∧
      ((ProductArea.readRequest address count).data.byteAt 5).toNat = count := by
  -- Network function, command and device stand in front of the address and the count.
  have placed : (ProductArea.readRequest address count).data.wordAt 3 = UInt16.ofNat address :=
    Bytes.wordAt_ofWord (UInt16.ofNat address) [UInt8.ofNat count]
  -- Address and count are in the range of the bytes that they are written to.
  rw [placed]
  exact ⟨UInt16.toNat_ofNat_of_lt' reached, UInt8.toNat_ofNat_of_lt' short⟩

section Serving

variable {image : Bytes} {word : Bool} {exchange : Exchange controller}

/-- Such a controller hands out its image. -/
theorem servesImage_serve {otherwise : Response}
    (served : exchange.answer = .ok (serveImage image word otherwise exchange.request)) :
    ServesImage image word exchange := by
  -- The two requests are told apart by their data, and each has its own way of being answered.
  refine ⟨fun asked => ?_, fun address count reached short asked inside => ?_⟩
  · -- The flag for the way of addressing is the only one that is set.
    rw [asked, serveImage, if_pos rfl] at served
    exact ⟨UInt8.ofNat word.toNat, [], by cases word <;> rfl, true, served, by
      rw [List.length_append, Bytes.length_ofWord]
      exact Nat.le_refl 3⟩
  · -- The request tells its own place and size, and is not the one for the size of the image.
    obtain ⟨addressRead, countRead⟩ := readRequest_data reached short
    have notArea : ProductArea.readRequest address count ≠ areaRequest := by
      intro same
      have commands : some (0x11 : UInt8) = some 0x10 :=
        congrArg (fun request : Request => request.data[1]?) same
      exact absurd commands (by decide)
    rw [asked] at served
    simp only [serveImage, addressRead, countRead, if_neg notArea, if_true, if_pos inside]
      at served
    exact ⟨true, served, Nat.le_add_left 1 _⟩

/-- A part inside the image is handed out with all of its bytes. -/
theorem ServesImage.carries (serves : ServesImage image word exchange)
    (small : image.length ≤ 65535) (place count : Nat) (aligned : unitSize word ∣ place)
    (inside : place + count ≤ image.length) (nonempty : 0 < count) (short : count < 256)
    (asked : exchange.request = ProductArea.readRequest (place / unitSize word) count) :
    exchange.Carries (count + 1) (UInt8.ofNat count :: image.slice place count) := by
  -- The place is a multiple of the unit, so that the address leads back to it.
  have scaled : place / unitSize word * unitSize word = place := Nat.div_mul_cancel aligned
  have reached : place / unitSize word < 65536 := by
    have bound := Nat.div_le_self place (unitSize word)
    omega
  have length : (image.slice place count).length = count := Bytes.length_slice inside
  -- The answer is the one for this part, with as many bytes as were asked for.
  obtain ⟨valid, answered, _⟩ := serves.part _ count reached short asked (by omega)
  rw [scaled, counted, length] at answered
  exact ⟨valid, answered, by rw [List.length_cons, length]⟩

end Serving

/-- Surroundings in which a transport delivers every answer of such a controller. -/
def servingImage (image : Bytes) (word : Bool) (otherwise : Response) :
    Dialogue.Handler controller Unit :=
  fun request memory => (.ok (serveImage image word otherwise request), memory)

/-- Every exchange in such surroundings is the controller's answer. -/
theorem answer_servingImage {α : Type} {image : Bytes} {word : Bool} {otherwise : Response}
    {dialogue : Dialogue controller α} {exchange : Exchange controller}
    (member : exchange ∈ dialogue.transcript (servingImage image word otherwise) ()) :
    exchange.answer = .ok (serveImage image word otherwise exchange.request) := by
  -- The surroundings answer each request by itself, whatever was asked before.
  obtain ⟨_, answered⟩ := Dialogue.transcript_answered _ dialogue () exchange member
  exact answered

end BmcTelemetry.Inventory
