/-! Health domains: the parts of a machine that sensors report on. -/

namespace BmcTelemetry

/-- A part of the machine whose condition is reported as a whole. -/
inductive HealthDomain where
  | temperature
  | voltage
  | fan
  | processor
  | powerSupply
  | memory
  | storage
  | battery
deriving DecidableEq, Repr

namespace HealthDomain

/-- All domains, in the order in which they are reported. -/
def all : List HealthDomain :=
  [.temperature, .voltage, .fan, .processor, .powerSupply, .memory, .storage, .battery]

/-- The domain that a sensor type reports on, if it is one that is followed. -/
def ofSensorType? (type : UInt8) : Option HealthDomain :=
  if type = 0x01 then some .temperature
  else if type = 0x02 then some .voltage
  else if type = 0x04 then some .fan
  else if type = 0x07 then some .processor
  else if type = 0x08 then some .powerSupply
  else if type = 0x0c then some .memory
  else if type = 0x0d then some .storage
  else if type = 0x29 then some .battery
  else none

/-- The short name of a domain. -/
def name : HealthDomain → String
  | .temperature => "temperature"
  | .voltage => "voltage"
  | .fan => "fan"
  | .processor => "processor"
  | .powerSupply => "powersupply"
  | .memory => "memory"
  | .storage => "storage"
  | .battery => "battery"

/-- The component type under which a domain is known to a management console. -/
def componentType : HealthDomain → String
  | .temperature => "TEMPERATURE_HEALTH"
  | .voltage => "VOLTAGE_HEALTH"
  | .fan => "FAN_HEALTH"
  | .processor => "PROCESSOR_HEALTH"
  | .powerSupply => "POWERSUPPLY_HEALTH"
  | .memory => "MEMORY_HEALTH"
  | .storage => "STORAGE_HEALTH"
  | .battery => "BATTERY_HEALTH"

/-- The metric path under which a domain's severity is reported. -/
def metric (domain : HealthDomain) : String :=
  "health/" ++ domain.name

/-- The metric paths of all domains. -/
def metrics : List String :=
  all.map metric

end HealthDomain

namespace DiscreteSensor

/-- The status bits that tell of an unexpected state, by sensor type and reading type. -/
def unexpectedStates : List ((UInt8 × UInt8) × List Nat) :=
  [((1, 1), [0, 1, 2, 3, 4, 5, 6, 7, 8, 9, 10, 11, 12]),
   ((1, 3), [1]),
   ((1, 5), [1]),
   ((2, 1), [0, 1, 2, 3, 4, 5, 6, 7, 8, 9, 10, 11, 12]),
   ((2, 3), [1]),
   ((4, 1), [0, 1, 2, 3, 4, 5, 6, 7, 8, 9, 10, 11, 12]),
   ((4, 3), [1]),
   ((4, 7), [2, 3, 5]),
   ((4, 11), [1, 5]),
   ((7, 1), [0, 1, 2, 3, 4, 5, 6, 7, 8, 9, 10, 11, 12]),
   ((7, 3), [1]),
   ((7, 111), [0, 1, 2, 3, 4, 5, 6, 11]),
   ((8, 3), [1]),
   ((8, 7), [2, 3, 5]),
   ((8, 11), [1, 5]),
   ((8, 111), [1, 2, 3, 4, 5, 6]),
   ((12, 1), [0, 1, 2, 3, 4, 5, 6, 7, 8, 9, 10, 11, 12]),
   ((12, 111), [1, 3, 7, 10]),
   ((12, 3), [1]),
   ((13, 111), [1, 2, 5, 6, 8]),
   ((13, 3), [1]),
   ((41, 111), [0, 1])]

/-- The unexpected-state bits of a sensor, absent for a combination that is not followed. -/
def unexpectedBits (sensorType readingType : UInt8) : Option (List Nat) :=
  unexpectedStates.lookup (sensorType, readingType)

end DiscreteSensor

end BmcTelemetry
