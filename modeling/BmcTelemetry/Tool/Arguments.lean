import BmcTelemetry.Request

/-! The arguments by which the command-line tool is told what to send and where. -/

namespace BmcTelemetry

/-- The channel and slave that a bridged request is forwarded to. -/
structure Bridge where
  /-- The channel. -/
  channel : Int16
  /-- The slave address; zero stands for no bridging. -/
  slave : UInt8
deriving DecidableEq, Repr

/-- Whether there is anything to bridge to. -/
def Bridge.isSet (bridge : Bridge) : Bool :=
  bridge.slave != 0

/-- The command-line tool as it is configured. -/
structure Tool where
  /-- The program to run. -/
  program : String
  /-- The bridge for all bridged requests; when unset, each request's own target is used. -/
  bridge : Bridge
deriving DecidableEq, Repr

namespace Tool

/-- The target of a bridged request, absent when it goes straight to the controller. -/
def bridgeFor (tool : Tool) (request : Request) : Option Bridge :=
  let own : Bridge := { channel := request.channel, slave := request.slave }
  if tool.bridge.isSet then some tool.bridge
  else if own.isSet then some own
  else none

/-- The arguments that name a bridging target. -/
def bridgeArguments (bridge : Bridge) : List String :=
  ["-b", toString bridge.channel.toInt, "-t", Hex.markedByte bridge.slave]

/-- The arguments for a request, after those that choose the session. -/
def rawArguments (tool : Tool) (bridged : Bool) (request : Request) : List String :=
  let target := if bridged then tool.bridgeFor request else none
  (target.map bridgeArguments).getD [] ++ "raw" :: request.data.map Hex.markedByte

/-- Arguments as they may be shown: what follows the password flag is hidden. -/
def masked : List String → List String
  | [] => []
  | [last] => [last]
  | flag :: value :: rest =>
    if flag = "-P" then flag :: "****" :: masked rest else flag :: masked (value :: rest)

end Tool

end BmcTelemetry
