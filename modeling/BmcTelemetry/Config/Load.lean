import BmcTelemetry.Config.Document
import BmcTelemetry.Config.Overrides

/-! Loading a configuration: the file, then the environment, then the checks. -/

namespace BmcTelemetry

/-- What is found at the path of a configuration. -/
inductive ConfigFile where
  /-- Nothing. -/
  | missing
  /-- Something that cannot be read as a file. -/
  | sealed
  /-- A file with its content. -/
  | holding (content : Bytes)
deriving DecidableEq, Repr

/-- Why there is no usable configuration. -/
inductive ConfigError where
  /-- There is no text to be had from the file. -/
  | unreadable
  /-- The text spells no configuration. -/
  | malformed
  /-- Hosts have to be named and none is. -/
  | hostsMissing
  /-- The interval between collections is no positive number. -/
  | intervalNotPositive (interval : Float)
deriving Repr

/-- The wording of an error. -/
def ConfigError.message : ConfigError → String
  | .unreadable => "stream did not contain valid UTF-8"
  | .malformed => "malformed document"
  | .hostsMissing => "oob mode requires at least one host in ipmi.hosts"
  | .intervalNotPositive interval =>
    "collector.update_interval must be positive, got " ++ Decimal.shown interval

namespace Config

/-- The configuration in a file; without a file, everything is at its default. -/
def ofFile : ConfigFile → Except ConfigError Config
  | .missing => .ok {}
  -- What is there and cannot be read must not pass for a missing file.
  | .sealed => .error .unreadable
  | .holding content =>
    match Utf8.decode? content with
    | none => .error .unreadable
    | some text =>
      match ofText? text with
      | none => .error .malformed
      | some config => .ok config

/-- The file that a configuration is saved as. -/
def toFile (config : Config) : ConfigFile :=
  .holding config.toText.toUTF8.data.toList

/-- What is wrong with a configuration, if anything. -/
def fault? (config : Config) : Option ConfigError :=
  let interval := config.collector.updateInterval
  if config.ipmi.mode = .remoteTool ∧ config.ipmi.hosts = [] then some .hostsMissing
  -- What is not a number compares with nothing.
  else if interval.isNaN ∨ interval ≤ 0 then some (.intervalNotPositive interval)
  else none

/-- The same configuration, if nothing is wrong with it. -/
def checked (config : Config) : Except ConfigError Config :=
  match config.fault? with
  | some fault => .error fault
  | none => .ok config

/-- A configuration with settings from the environment in place. -/
def overridden (config : Config) (overrides : Overrides) : Config :=
  { config with ipmi := overrides.apply config.ipmi }

/-- The configuration that a run works with. -/
def load (file : ConfigFile) (overrides : Overrides) : Except ConfigError Config := do
  let config ← ofFile file
  (config.overridden overrides).checked

/-- What is reported about reading the file at a path; a file counts as read before the checks. -/
def readingEvents (path : String) (file : ConfigFile) : List Event :=
  match ofFile file with
  | .error _ => []
  | .ok _ => [if file = .missing then .configMissing path else .configLoaded path]

end Config

end BmcTelemetry
