/-! Severities of a monitored condition and the threshold events that carry them. -/

namespace BmcTelemetry

/-- The severity of a condition, from best to worst. -/
inductive Severity where
  | ok
  | unknown
  | warning
  | critical
deriving DecidableEq, Repr

namespace Severity

/-- The place of a severity in the order from best to worst. -/
def rank : Severity → Nat
  | .ok => 0
  | .unknown => 1
  | .warning => 2
  | .critical => 3

/-- The worse of two severities. -/
def worst (left right : Severity) : Severity :=
  if left.rank ≤ right.rank then right else left

/-- How a severity is written. -/
def name : Severity → String
  | .ok => "OK"
  | .unknown => "SEV_UNKNOWN"
  | .warning => "WARNING"
  | .critical => "CRITICAL"

end Severity

/-- A threshold that a reading has crossed. -/
structure ThresholdEvent where
  /-- The status bit that reports the crossing. -/
  bit : Nat
  /-- The event's own number. -/
  code : UInt8
  /-- The crossing in words. -/
  description : String
  /-- How bad the crossing is. -/
  severity : Severity
deriving DecidableEq, Repr

namespace ThresholdEvent

/-- All crossings, the one that counts most first. -/
def byPriority : List ThresholdEvent :=
  [⟨5, 0x06, "at or above upper non-recoverable threshold", .critical⟩,
   ⟨4, 0x05, "at or above upper critical threshold", .critical⟩,
   ⟨3, 0x04, "at or above upper non-critical threshold", .warning⟩,
   ⟨2, 0x03, "at or below lower non-recoverable threshold", .critical⟩,
   ⟨1, 0x02, "at or below lower critical threshold", .critical⟩,
   ⟨0, 0x01, "at or below lower non-critical threshold", .warning⟩]

/-- The crossing that counts most among those a status reports, if it reports any. -/
def ofStatus (status : UInt16) : Option ThresholdEvent :=
  byPriority.find? fun event => status.toNat.testBit event.bit

end ThresholdEvent

end BmcTelemetry
