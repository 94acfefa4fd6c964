import BmcTelemetry.Error
import BmcTelemetry.Level
import BmcTelemetry.Metric.Format
import BmcTelemetry.Text.Quoted

/-! Events: what a conversation reports about itself while it runs, in text safe for a terminal. -/

namespace BmcTelemetry

namespace Text

/-- Whether a character stands for a command to a terminal in the upper half of the controls. -/
def isUpperControl (char : Char) : Bool :=
  0x80 ≤ char.toNat && char.toNat ≤ 0x9F

/-- A character that a terminal shows; line ends, tabs and idle controls stay as they are. -/
def disarmChar (char : Char) : List Char :=
  -- The bell, the backspace, the form feed, the escape and the delete character.
  if char.toNat ∈ [0x07, 0x08, 0x0C, 0x1B, 0x7F] then
    ['\\', 'x'] ++ Hex.byteChars (UInt8.ofNat char.toNat)
  else if isUpperControl char then codePoint char
  else [char]

/-- A text that a terminal shows without acting on it. -/
def disarmed (text : String) : String :=
  String.ofList (text.toList.flatMap disarmChar)

end Text

/-- Something worth a log line. -/
inductive Event where
  /-- The tool is about to be run, with its arguments as they may be shown. -/
  | toolStarted (program : String) (shown : List String)
  /-- The tool could not be found. -/
  | toolMissing (program : String)
  /-- The tool reported failure, with its complaint. -/
  | toolFailed (program complaint : String)
  /-- A request is about to be sent through the tool on this machine. -/
  | localRequest (data : Bytes)
  /-- A request is about to be sent through the tool to a host. -/
  | remoteRequest (host : String) (data : Bytes)
  /-- The kernel driver delivered a message. -/
  | driverAnswered (id size : Nat)
  /-- A request of a batch is too short to name a command. -/
  | requestTooShort (index : Nat)
  /-- A candidate was answered as not supported. -/
  | candidateUnsupported (root host : String)
  /-- Probing a candidate failed. -/
  | candidateFailed (root host : String) (error : IpmiError)
  /-- Probing all candidates at once failed. -/
  | probeFailed (device : String) (error : IpmiError)
  /-- Probing of a host ended, with the number of requests kept and of candidates. -/
  | probed (host : String) (kept candidates : Nat)
  /-- The controller does not report an inlet sensor. -/
  | inletUnreported (host : String) (size : Nat)
  /-- Asking for the inlet sensor failed. -/
  | inletQueryFailed (host : String) (error : IpmiError)
  /-- The inlet sensor was found. -/
  | inletDiscovered (host : String) (sensor : UInt8)
  /-- The record of the inlet sensor does not reach its number. -/
  | inletRecordShort (host : String)
  /-- Reading the record of the inlet sensor failed. -/
  | inletRecordFailed (host : String) (error : IpmiError)
  /-- The product area was found. -/
  | productAreaFound (host : String) (start size : Nat)
  /-- The answer to a page of the product area cannot be used. -/
  | pageStopped (host : String) (index : Nat) (error : IpmiError)
  /-- A page of the product area could not be asked for. -/
  | pageFailed (host : String) (index : Nat) (error : IpmiError)
  /-- The device id could not be asked for. -/
  | deviceIdUnavailable (host : String) (error : IpmiError)
  /-- The network address could not be asked for. -/
  | lanAddressUnavailable (host : String) (error : IpmiError)
  /-- A record walk starts, with its reservation and the size of its pages. -/
  | scanStarted (host repository : String) (reservation : UInt16) (page : Nat)
  /-- A record of another kind is passed over. -/
  | recordSkipped (host : String) (id : UInt16) (type : UInt8)
  /-- The repository does not say how much it hands out at once. -/
  | noAllocationUnit (host : String) (page : Nat)
  /-- A record walk ended early. -/
  | scanStopped (host : String) (accepted : Nat) (error : IpmiError)
  /-- A record walk yielded so many sensors. -/
  | sensorsFound (host : String) (count : Nat)
  /-- The inventory of a host could not be read. -/
  | inventoryUnavailable (host : String) (error : IpmiError)
  /-- The health of a host could not be read. -/
  | healthUnavailable (host : String) (error : IpmiError)
  /-- A collection batch of a host failed as a whole. -/
  | batchFailed (host : String) (error : IpmiError)
  /-- An answer is flagged invalid and its values are replaced. -/
  | answerInvalid (format : Format)
  /-- An answer cannot be decoded and its values are replaced. -/
  | answerRejected (host root : String) (error : IpmiError)
  /-- The batch of one host is complete. -/
  | batchCompleted (host : String)
  /-- Probing of all hosts is complete. -/
  | probingCompleted
  /-- Collection from all hosts is complete. -/
  | collectionCompleted
  /-- A collection ended with an answer that cannot be decoded. -/
  | collectionFailed (error : IpmiError)
  /-- Everything about the hosts was read anew. -/
  | surveyed (hosts : Nat) (protocol : String)
  /-- The configuration was read from a file. -/
  | configLoaded (path : String)
  /-- There is no configuration file. -/
  | configMissing (path : String)
  /-- The configured log level is no level. -/
  | levelIgnored (level : String)
  /-- The program starts its work. -/
  | starting (version mode protocol : String)
  /-- The task that collects cannot go on, as its period is no time at all. -/
  | collectionEnded (task : Nat)
  /-- The program ends its work. -/
  | shutDown
deriving DecidableEq, Repr

namespace Event

/-- How much an event matters. -/
def level : Event → Level
  | .toolStarted .. | .driverAnswered .. => .trace
  -- Whatever goes wrong for a whole host or page is worth a warning.
  | .probeFailed .. | .pageStopped .. | .pageFailed .. | .scanStopped ..
  | .inventoryUnavailable .. | .healthUnavailable .. | .batchFailed .. | .levelIgnored .. => .warn
  | .probed .. | .inletDiscovered .. | .surveyed .. | .configLoaded .. | .configMissing ..
  | .starting .. | .shutDown => .info
  -- A collection without a report is the one thing that the user asked for and does not get.
  | .collectionFailed .. | .collectionEnded .. => .error
  | _ => .debug

/-- The wording of an event. -/
def message : Event → String
  | .toolStarted program shown => "Executing: " ++ program ++ " " ++ " ".intercalate shown
  | .toolMissing program => (IpmiError.toolUnavailable program).message
  | .toolFailed program complaint => "Unable to run " ++ program ++ " raw: " ++ complaint
  | .localRequest data => "ipmitool raw " ++ Hex.spaced data
  | .remoteRequest host data => host ++ ": ipmitool raw " ++ Hex.spaced data
  | .driverAnswered id size =>
    "Driver answered msg " ++ toString id ++ " with " ++ toString size ++ " bytes"
  | .requestTooShort index => "Supplied buffer too short in msg " ++ toString index
  | .candidateUnsupported root host => root ++ " not supported on " ++ host
  | .candidateFailed root host error =>
    "Probe of " ++ root ++ " failed on " ++ host ++ ": " ++ error.message
  | .probeFailed device error =>
    "Capability probe on " ++ device ++ " failed: " ++ error.message
  | .probed host kept candidates =>
    host ++ ": " ++ toString kept ++ " of " ++ toString candidates ++ " requests supported"
  | .inletUnreported host size =>
    "DCMI thermal capability not reported on " ++ host ++ " (" ++ toString size ++ " bytes)"
  | .inletQueryFailed host error =>
    "DCMI thermal capability query failed on " ++ host ++ ": " ++ error.message
  | .inletDiscovered host sensor =>
    "DCMI inlet thermal sensor " ++ Hex.markedByte sensor ++ " discovered on " ++ host
  | .inletRecordShort host => "DCMI inlet sensor record too short on " ++ host
  | .inletRecordFailed host error =>
    "DCMI inlet sensor record lookup failed on " ++ host ++ ": " ++ error.message
  | .productAreaFound host start size =>
    host ++ ": product info area at " ++ toString start ++ " (" ++ toString size ++ " bytes)"
  | .pageStopped host index error =>
    host ++ ": FRU read at " ++ toString index ++ " stopped: " ++ error.message
  | .pageFailed host index error =>
    host ++ ": FRU read at " ++ toString index ++ " failed: " ++ error.message
  | .deviceIdUnavailable host error => host ++ ": device id unavailable: " ++ error.message
  | .lanAddressUnavailable host error => host ++ ": BMC MAC unavailable: " ++ error.message
  | .scanStarted host repository reservation page =>
    host ++ ": scanning " ++ repository ++ " SDR repository, reservation "
      ++ Hex.word reservation ++ ", page " ++ toString page
  | .recordSkipped host id type =>
    host ++ ": skipping SDR " ++ Hex.markedWord id ++ " of type " ++ Hex.markedByte type
  | .noAllocationUnit host page =>
    host ++ ": no SDR allocation info, using " ++ toString page ++ " byte pages"
  | .scanStopped host accepted error =>
    host ++ ": SDR scan stopped after " ++ toString accepted ++ " records: " ++ error.message
  | .sensorsFound host count => host ++ ": " ++ toString count ++ " sensor records"
  | .inventoryUnavailable host error => host ++ ": inventory unavailable: " ++ error.message
  | .healthUnavailable host error => host ++ ": component health unavailable: " ++ error.message
  | .batchFailed host error => host ++ ": batch failed: " ++ error.message
  | .answerInvalid format =>
    "Response is not valid, " ++ format.name ++ " submetrics will carry sentinels"
  | .answerRejected host root error => host ++ ": " ++ root ++ ": " ++ error.message
  | .batchCompleted host => "Collection completed for " ++ host
  | .probingCompleted => "Probing completed"
  | .collectionCompleted => "Collection completed"
  | .collectionFailed error => "Collection failed: " ++ error.message
  | .surveyed hosts protocol =>
    "Initialized " ++ toString hosts ++ " host(s) with " ++ protocol ++ " protocol"
  | .configLoaded path => "Loaded configuration from: " ++ Text.quoted path
  | .configMissing path => "Config file " ++ Text.quoted path ++ " not found, using defaults"
  | .levelIgnored level => "Invalid log level '" ++ level ++ "' in config, keeping INFO"
  | .starting version mode protocol =>
    "Starting dcm-collector v" ++ version ++ " (mode " ++ mode ++ ", protocol " ++ protocol ++ ")"
  | .collectionEnded task =>
    "Collection task ended: task " ++ toString task ++ " panicked with message "
      ++ Text.quoted "`period` must be non-zero."
  | .shutDown => "Collector shutdown complete"

/-- The text that shows an event; the names of all levels take up the same room. -/
def line (event : Event) : String :=
  let label := event.level.label
  "[" ++ label ++ String.ofList (List.replicate (5 - label.length) ' ') ++ "] "
    -- What comes from outside must not command the terminal that shows it.
    ++ Text.disarmed event.message

end Event

end BmcTelemetry
