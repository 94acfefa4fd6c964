import BmcTelemetry.Bytes
import BmcTelemetry.Text.Hex

/-! Requests: a network function, a command and their data, addressed to a controller. -/

namespace BmcTelemetry

/-- One raw request, with the channel and slave it is forwarded to when bridged. -/
structure Request where
  /-- Network function, command and request data, in this order. -/
  data : Bytes
  /-- Channel of the bridging target. -/
  channel : Int16
  /-- Slave address of the bridging target; zero stands for the controller itself. -/
  slave : UInt8
deriving DecidableEq, Repr

namespace Request

/-- A request addressed to the controller itself. -/
def direct (data : Bytes) : Request :=
  { data, channel := 0, slave := 0 }

/-- The same request with some of its bytes written over from an offset on. -/
def patched (request : Request) (offset : Nat) (bytes : Bytes) : Request :=
  { request with data := request.data.patch offset bytes }

/-- The network function, zero when there is no byte for it. -/
def netFn (request : Request) : UInt8 :=
  request.data[0]?.getD 0

/-- The command, zero when there is no byte for it. -/
def command (request : Request) : UInt8 :=
  request.data[1]?.getD 0

/-- A one-line rendering of all fields. -/
def describe (request : Request) : String :=
  "IpmiRequest \x7b data: \"" ++ Hex.spaced request.data ++ "\", channel: "
    ++ toString request.channel.toInt ++ ", slave: " ++ Hex.markedByte request.slave ++ " \x7d"

end Request

end BmcTelemetry
