import BmcTelemetry.Collector.Basic
import BmcTelemetry.Transport.Connection

/-! The configuration of the program: how hosts are reached and what is collected from them. -/

namespace BmcTelemetry

/-- How controllers are reached. -/
structure IpmiSettings where
  /-- The way of reaching controllers. -/
  mode : Transport.Mode := .localTool
  /-- The command family to probe for. -/
  protocol : Protocol := .ipmi
  /-- The device of the kernel driver. -/
  device : String := "/dev/ipmi0"
  /-- The command-line tool. -/
  tool : String := "ipmitool"
  /-- The channel of a bridge for all bridged requests. -/
  channel : UInt8 := 0
  /-- The slave of a bridge for all bridged requests; zero stands for no such bridge. -/
  slave : UInt8 := 0
  /-- The hosts to reach over the network. -/
  hosts : List String := []
  /-- The user of sessions over the network. -/
  user : String := ""
  /-- The password of sessions over the network. -/
  password : String := ""
deriving DecidableEq, Repr

/-- What is collected, and how often. -/
structure CollectorSettings where
  /-- The seconds between two collections. -/
  updateInterval : Float := 10.0
  /-- Whether a collection ends with the first answer that cannot be decoded. -/
  strictValidation : Bool := false
  /-- Whether inventories are read. -/
  collectInventory : Bool := true
  /-- Whether health is read. -/
  collectHealth : Bool := true
deriving Repr

/-- The configuration of the program. -/
structure Config where
  /-- How controllers are reached. -/
  ipmi : IpmiSettings := {}
  /-- What is collected, and how often. -/
  collector : CollectorSettings := {}
  /-- The level from which on events are shown. -/
  logLevel : String := "info"
deriving Repr

namespace Config

/-- The choices that make up the transport. -/
def transport (config : Config) : Transport.Options :=
  let settings := config.ipmi
  { mode := settings.mode, protocol := settings.protocol, device := settings.device,
    tool :=
      { program := settings.tool,
        bridge := { channel := Int16.ofNat settings.channel.toNat, slave := settings.slave } },
    credentials := { user := settings.user, password := settings.password } }

/-- The choices that make up the collector. -/
def options (config : Config) : CollectorOptions :=
  { protocol := config.ipmi.protocol, strict := config.collector.strictValidation,
    collectInventory := config.collector.collectInventory,
    collectHealth := config.collector.collectHealth }

/-- The hosts to collect from; a transport that reaches one machine needs none. -/
def hosts (config : Config) : List String :=
  match config.ipmi.mode with
  | .remoteTool => config.ipmi.hosts
  | .localTool | .kernelDriver => []

/-- The collector that a configuration stands for, on a machine of the given name. -/
def connect (config : Config) (name : String) : Collector machine :=
  { transport := Transport.connect config.transport name, hosts := config.hosts,
    options := config.options }

end Config

end BmcTelemetry
