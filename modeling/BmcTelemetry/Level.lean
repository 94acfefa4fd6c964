/-! Log levels and the names by which they are asked for. -/

namespace BmcTelemetry

/-- How much an event matters, from least to most. -/
inductive Level where
  | trace
  | debug
  | info
  | warn
  | error
deriving DecidableEq, Repr

namespace Level

/-- The place of a level in the order from least to most. -/
def rank : Level → Nat
  | .trace => 0
  | .debug => 1
  | .info => 2
  | .warn => 3
  | .error => 4

/-- All levels. -/
def all : List Level := [.trace, .debug, .info, .warn, .error]

/-- The name of a level. -/
def name : Level → String
  | .trace => "trace"
  | .debug => "debug"
  | .info => "info"
  | .warn => "warn"
  | .error => "error"

/-- The name of a level in log lines. -/
def label (level : Level) : String :=
  String.ofList (level.name.toList.map Char.toUpper)

/-- The level that a user asks for, in either letter case. -/
def ofName? (asked : String) : Option Level :=
  let lower := String.ofList (asked.toList.map Char.toLower)
  -- Nothing outranks an error, so critical asks for errors alone.
  if lower = "critical" then some .error
  else all.find? (·.name == lower)

/-- Whether a filter lets events of a level through. -/
def passes (filter level : Level) : Bool :=
  filter.rank ≤ level.rank

end Level

end BmcTelemetry
