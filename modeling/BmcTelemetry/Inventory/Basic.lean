import BmcTelemetry.Bytes
import BmcTelemetry.Text.Hex

/-! The inventory of a platform and the metrics under which it is reported. -/

namespace BmcTelemetry

/-- What a platform says about itself; a value that could not be read is absent. -/
structure Inventory where
  /-- Who made the product. -/
  manufacturer : Option String
  /-- What the product is called. -/
  productName : Option String
  /-- The serial number of the product. -/
  serial : Option String
  /-- The firmware revision of the controller. -/
  firmwareVersion : Option String
  /-- The network address of the controller. -/
  lanAddress : Option String
deriving DecidableEq, Repr

namespace Inventory

/-- The inventory of which nothing is known. -/
def unknown : Inventory :=
  { manufacturer := none, productName := none, serial := none, firmwareVersion := none,
    lanAddress := none }

/-- Every metric path of an inventory with the value that is reported there. -/
def entries (inventory : Inventory) : List (String × Option String) :=
  [("inventory/firmware_version", inventory.firmwareVersion),
   ("inventory/bmc_mac", inventory.lanAddress),
   ("inventory/product_manufacturer", inventory.manufacturer),
   ("inventory/product_name", inventory.productName),
   ("inventory/product_serial", inventory.serial)]

/-- The metric paths of an inventory. -/
def metrics : List String :=
  unknown.entries.map (·.1)

/-- The metrics of an inventory, absent values left out. -/
def toMetrics (inventory : Inventory) : List (String × String) :=
  inventory.entries.filterMap fun (path, value) => value.map fun text => (path, text)

/-- The firmware revision in a device id; its minor part is in binary-coded decimals. -/
def firmwareVersion? (payload : Bytes) : Option String :=
  match payload[2]?, payload[3]? with
  | some major, some minor =>
    -- The top bit of the major part says whether the device is ready.
    some (toString (major.toNat % 128) ++ "."
      ++ toString (minor.toNat / 16 * 10 + minor.toNat % 16))
  | _, _ => none

/-- The network address in a network configuration parameter, after its revision byte. -/
def lanAddress? (payload : Bytes) : Option String :=
  if payload.length < 7 then none
  else some (":".intercalate ((payload.slice 1 6).map Hex.upperByte))

end Inventory

end BmcTelemetry
