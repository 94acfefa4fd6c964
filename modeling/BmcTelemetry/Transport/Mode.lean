/-! The ways of reaching a controller that a user can choose from. -/

namespace BmcTelemetry.Transport

/-- A way of reaching controllers. -/
inductive Mode where
  /-- The command-line tool talks to this machine's own controller. -/
  | localTool
  /-- The command-line tool talks to controllers over the network. -/
  | remoteTool
  /-- The kernel driver talks to this machine's own controller. -/
  | kernelDriver
deriving DecidableEq, Repr

namespace Mode

/-- All modes. -/
def all : List Mode := [.localTool, .remoteTool, .kernelDriver]

/-- The name by which a mode is configured. -/
def name : Mode → String
  | .localTool => "legacy_inband"
  | .remoteTool => "oob"
  | .kernelDriver => "legacy_inband_openipmi"

/-- The name of a mode in log lines. -/
def label : Mode → String
  | .localTool => "LegacyInband"
  | .remoteTool => "Oob"
  | .kernelDriver => "LegacyInbandOpenipmi"

end Mode

end BmcTelemetry.Transport
