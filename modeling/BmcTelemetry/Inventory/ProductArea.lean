import BmcTelemetry.Controller
import BmcTelemetry.Inventory.Field

/-! The product area of an inventory device: where it lies, how it is read and what it holds. -/

namespace BmcTelemetry.Inventory

/-- Where a product area lies on the inventory device. -/
structure ProductArea where
  /-- The first byte of the area. -/
  start : Nat
  /-- The number of bytes of the area. -/
  size : Nat
  /-- The number of bytes that one unit of an address spans. -/
  unit : Nat
deriving DecidableEq, Repr

namespace ProductArea

/-- The most bytes asked for at once. -/
def pageSize : Nat := 16

/-- The request for bytes of the inventory device from an address on, in its units. -/
def readRequest (address count : Nat) : Request :=
  (Request.direct [0x0a, 0x11, 0x00, 0x00, 0x00, 0x00]).patched 3
    (Bytes.ofWord (UInt16.ofNat address) ++ [UInt8.ofNat count])

/-- Finds the product area from the device's size, its common header and the area's own header. -/
def locate : Attempt controller ProductArea := do
  let info ← Controller.fetch (.direct [0x0a, 0x10, 0x00]) 3 .inventoryArea
  let inventorySize := (info.wordAt 0).toNat
  if inventorySize = 0 then
    Attempt.fail (.protocol (.inventorySize inventorySize))
  else
    -- The lowest flag tells whether an address counts bytes or pairs of bytes.
    let unit := (info.byteAt 2).toNat % 2 + 1
    let header ← Controller.fetch (readRequest 0 8) 9 .commonHeader
    -- Past the count, the fifth byte of the header is the start in multiples of eight bytes.
    let start := (header.byteAt 5).toNat * 8
    let area ← Controller.fetch (readRequest (start / unit) 2) 3 .productHeader
    let size := (area.byteAt 2).toNat * 8
    if size = 0 ∨ inventorySize < start + size then
      Attempt.fail (.protocol (.productSize size))
    else
      return { start, size, unit }

/-- The places in the area at which its pages start. -/
def pageStarts (area : ProductArea) : List Nat :=
  (List.range ((area.size + (pageSize - 1)) / pageSize)).map (· * pageSize)

/-- The request for the page at a place in the area. -/
def pageRequest (area : ProductArea) (index : Nat) : Request :=
  readRequest ((area.start + index) / area.unit) (min (area.size - index) pageSize)

/-- The bytes that a page's answer really carries: its count, its length and the room decide. -/
def pageBytes (area : ProductArea) (index : Nat) (page : Bytes) : Bytes :=
  page.slice 1 (min (min (page.byteAt 0).toNat (page.length - 1)) (area.size - index))

/-- Reads the pages at the given places one after another, until one of them fails. -/
def readPages (area : ProductArea) (host : String) : List Nat → Bytes → Dialogue controller Bytes
  | [], buffer => return buffer
  | index :: rest, buffer => do
    match ← Controller.send (area.pageRequest index) with
    | .error error =>
      Dialogue.report (.pageFailed host index error)
      return buffer
    | .ok response =>
      match response.requirePayload 1 .productPage with
      | .error error =>
        Dialogue.report (.pageStopped host index error)
        return buffer
      | .ok page => area.readPages host rest (buffer.patch index (area.pageBytes index page))

/-- Reads the whole area; what a failing page leaves out stays zero. -/
def read (area : ProductArea) (host : String) : Dialogue controller Bytes :=
  area.readPages host area.pageStarts (List.replicate area.size 0)

/-- The places of up to so many fields that follow one another from a place on. -/
def fieldStarts (area : Bytes) : Nat → Nat → List Nat
  | 0, _ => []
  | count + 1, place =>
    match area[place]? with
    -- The area ends before the next field.
    | none => []
    | some typeLength =>
      place :: fieldStarts area count (place + Field.declared typeLength + 1)

/-- The text of one of the five fields that follow the area's header. -/
def field? (area : Bytes) (index : Nat) : Option String :=
  (fieldStarts area 5 3)[index]?.map fun place => Field.decode (area.drop place)

end ProductArea

end BmcTelemetry.Inventory
