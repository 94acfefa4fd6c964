import BmcTelemetry.Config.Basic
import BmcTelemetry.Text.Blank

/-! Overrides: settings that the environment puts in the place of configured ones. -/

namespace BmcTelemetry

/-- Settings that replace configured ones; an absent one leaves the configuration alone. -/
structure Overrides where
  /-- The hosts, separated by commas. -/
  hosts : Option String
  /-- The user. -/
  user : Option String
  /-- The password. -/
  password : Option String
deriving DecidableEq, Repr

namespace Overrides

/-- The variable that holds the hosts. -/
def hostsVariable : String := "DCM_IPMI_HOST"

/-- The variable that holds the user. -/
def userVariable : String := "DCM_IPMI_USER"

/-- The variable that holds the password. -/
def passwordVariable : String := "DCM_IPMI_PASS"

/-- The variables that hold overrides. -/
def variableNames : List String := [hostsVariable, userVariable, passwordVariable]

/-- The overrides in an environment. -/
def ofEnvironment (lookup : String → Option String) : Overrides :=
  { hosts := lookup hostsVariable, user := lookup userVariable,
    password := lookup passwordVariable }

/-- The hosts between commas, without white space around them; blank ones do not count. -/
def hostList (text : String) : List String :=
  let trimmed := (Text.pieces (· == ',') text.toList).map Text.trim
  (trimmed.filter (!·.isEmpty)).map String.ofList

/-- Settings with the overrides in place. -/
def apply (overrides : Overrides) (settings : IpmiSettings) : IpmiSettings :=
  { settings with
    hosts := (overrides.hosts.map hostList).getD settings.hosts,
    user := overrides.user.getD settings.user,
    password := overrides.password.getD settings.password }

end Overrides

end BmcTelemetry
