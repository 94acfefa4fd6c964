import BmcTelemetry.Config.Basic
import BmcTelemetry.Json.Printer
import BmcTelemetry.Json.Reader
import BmcTelemetry.Json.Record

/-! Configurations as JSON documents. -/

namespace BmcTelemetry

open Json (Codec RecordField)

/-- The fields of the settings on how controllers are reached. -/
def IpmiSettings.fields : List (RecordField IpmiSettings) :=
  [.of "mode" (.choice Transport.Mode.all Transport.Mode.name) (·.mode)
    fun mode settings => { settings with mode },
   .of "protocol" (.choice Protocol.all Protocol.name) (·.protocol)
    fun protocol settings => { settings with protocol },
   .of "device" .text (·.device) fun device settings => { settings with device },
   .of "tool" .text (·.tool) fun tool settings => { settings with tool },
   .of "channel" .byte (·.channel) fun channel settings => { settings with channel },
   .of "slave" .byte (·.slave) fun slave settings => { settings with slave },
   .of "hosts" (.list .text) (·.hosts) fun hosts settings => { settings with hosts },
   .of "user" .text (·.user) fun user settings => { settings with user },
   .of "password" .text (·.password) fun password settings => { settings with password }]

/-- The fields of the settings on what is collected. -/
def CollectorSettings.fields : List (RecordField CollectorSettings) :=
  [.of "update_interval" .float (·.updateInterval)
    fun updateInterval settings => { settings with updateInterval },
   .of "strict_validation" .bool (·.strictValidation)
    fun strictValidation settings => { settings with strictValidation },
   .of "collect_inventory" .bool (·.collectInventory)
    fun collectInventory settings => { settings with collectInventory },
   .of "collect_health" .bool (·.collectHealth)
    fun collectHealth settings => { settings with collectHealth }]

namespace Config

/-- The fields of a configuration. -/
def fields : List (RecordField Config) :=
  [.of "ipmi" (.record IpmiSettings.fields {}) (·.ipmi) fun ipmi config => { config with ipmi },
   .of "collector" (.record CollectorSettings.fields {}) (·.collector)
    fun collector config => { config with collector },
   .of "log_level" .text (·.logLevel) fun logLevel config => { config with logLevel }]

/-- A configuration as a document. -/
def codec : Codec Config := .record fields {}

/-- The configuration that a text spells, if it spells one. -/
def ofText? (text : List Char) : Option Config :=
  (Json.read text).bind codec.decode

/-- The text in which a configuration is saved. -/
def toText (config : Config) : String :=
  (codec.encode config).pretty

end Config

end BmcTelemetry
