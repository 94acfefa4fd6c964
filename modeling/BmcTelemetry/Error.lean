import BmcTelemetry.OsError
import BmcTelemetry.Text.Hex

/-! Everything that can go wrong between a request and the value read from its answer. -/

namespace BmcTelemetry

/-- A step of a conversation that needs an answer of a certain length. -/
inductive Step where
  | inventoryArea
  | commonHeader
  | productHeader
  | productPage
  | deviceId
  | lanAddress
  | reservation
  | recordPage
deriving DecidableEq, Repr

/-- How a step is named in messages. -/
def Step.label : Step → String
  | .inventoryArea => "FRU inventory area info"
  | .commonHeader => "FRU common header"
  | .productHeader => "FRU product info header"
  | .productPage => "FRU product info page"
  | .deviceId => "device id"
  | .lanAddress => "BMC MAC"
  | .reservation => "reserve SDR repository"
  | .recordPage => "get SDR"

/-- A malformed or out-of-range answer met while following a structure on the controller. -/
inductive ProtocolFault where
  /-- A step was answered without even a completion code. -/
  | emptyResponse (step : Step)
  /-- A step was answered with fewer payload bytes than it needs. -/
  | shortPayload (step : Step) (expected received : Nat)
  /-- The inventory area is reported to have no bytes. -/
  | inventorySize (size : Nat)
  /-- The product area is empty or ends past the inventory area. -/
  | productSize (size : Nat)
  /-- The device id ends before its revision byte. -/
  | deviceRevisionMissing
  /-- The device id ends before its support byte. -/
  | deviceSupportMissing
  /-- The device keeps sensor records in neither kind of repository. -/
  | noRepository
  /-- A sensor record ends before its header does. -/
  | headerTooShort (size : Nat)
  /-- A record whose header promised a sensor holds another type. -/
  | unexpectedRecordType (id : UInt16) (type : UInt8)
  /-- A sensor record ends before its sensor fields do. -/
  | recordTooShort (id : UInt16) (size : Nat)
  /-- A read of a record starts past what one byte can address. -/
  | offsetOutOfRange (id : UInt16) (offset : Nat)
  /-- The record links lead back to a record seen before. -/
  | visitedTwice (id : UInt16)
  /-- The kernel driver accepted a batch and gave nothing back. -/
  | noDriverResponse
  /-- A fault described by the other side. -/
  | reported (text : String)
deriving DecidableEq, Repr

/-- The wording of a protocol fault. -/
def ProtocolFault.message : ProtocolFault → String
  | .emptyResponse step => step.label ++ ": empty response"
  | .shortPayload step expected received =>
    step.label ++ ": expected at least " ++ toString expected ++ " payload bytes, got "
      ++ toString received
  | .inventorySize size => toString size ++ " : Invalid fruInventoryAreaSize"
  | .productSize size => toString size ++ " : Invalid fruProductInfoSize"
  | .deviceRevisionMissing => "device id: missing device revision"
  | .deviceSupportMissing => "device id: missing additional device support"
  | .noRepository => "Fail to find a valuable SDR"
  | .headerTooShort size => "SDR header too short (" ++ toString size ++ " bytes)"
  | .unexpectedRecordType id type =>
    "SDR " ++ Hex.markedWord id ++ ": unexpected record type " ++ Hex.markedByte type
  | .recordTooShort id size =>
    "SDR " ++ Hex.markedWord id ++ ": record too short (" ++ toString size ++ " bytes)"
  | .offsetOutOfRange id offset =>
    "SDR " ++ Hex.markedWord id ++ ": offset " ++ toString offset ++ " out of range"
  | .visitedTwice id => "SDR record " ++ Hex.markedWord id ++ " visited twice"
  | .noDriverResponse => "driver returned no response"
  | .reported text => text

/-- The reason why a request gave no usable answer. -/
inductive IpmiError where
  /-- The driver rejected the call itself. -/
  | invalidCall (code : Int)
  /-- The driver failed inside the operating system. -/
  | system (code : Int) (number : Int) (text : String)
  /-- Reaching the device or starting the tool failed. -/
  | io (error : OsError)
  /-- The command-line tool is not installed. -/
  | toolUnavailable (program : String)
  /-- An answer flagged valid carried no bytes at all. -/
  | zeroLength
  /-- The controller answered with a completion code other than zero. -/
  | completionCode (code : UInt8)
  /-- An answer broke the structure that the conversation follows. -/
  | protocol (fault : ProtocolFault)
  /-- The requested feature does not exist on this platform. -/
  | unsupported (text : String)
deriving DecidableEq, Repr

/-- A coarse class of errors, for callers that decide whether to go on. -/
inductive ErrorKind where
  | transport
  | validation
  | protocol
  | toolUnavailable
deriving DecidableEq, Repr

namespace IpmiError

/-- The wording of an error. -/
def message : IpmiError → String
  | .invalidCall code => toString code ++ " : Invalid call"
  | .system code number text =>
    toString code ++ " : System error [" ++ toString number ++ " : " ++ text ++ "]"
  | .io error => "io error: " ++ error.message
  | .toolUnavailable program => program ++ " not found in PATH"
  | .zeroLength => "Zero length response"
  | .completionCode code => "Unexpected error code : " ++ toString code.toNat
  | .protocol fault => "protocol error: " ++ fault.message
  | .unsupported text => "unsupported: " ++ text

/-- The class an error belongs to. -/
def kind : IpmiError → ErrorKind
  -- The request did not reach the controller.
  | .invalidCall _ | .system _ _ _ | .io _ | .unsupported _ => .transport
  | .toolUnavailable _ => .toolUnavailable
  -- The answer arrived and says that it carries nothing.
  | .zeroLength | .completionCode _ => .validation
  | .protocol _ => .protocol

end IpmiError

end BmcTelemetry
