import BmcTelemetry.Tool.Run
import BmcTelemetry.Transport.Basic

/-! The transport that runs the command-line tool against controllers on the network. -/

namespace BmcTelemetry.Transport

/-- Who asks, for sessions over the network. -/
structure Credentials where
  /-- The user. -/
  user : String
  /-- The password. -/
  password : String
deriving DecidableEq, Repr

namespace RemoteTool

/-- The arguments that choose a session with a host. -/
def sessionArguments (credentials : Credentials) (host : String) : List String :=
  ["-I", "lanplus", "-H", host, "-U", credentials.user, "-P", credentials.password]

/-- All arguments for a request to a host. -/
def arguments (tool : Tool) (credentials : Credentials) (bridged : Bool) (host : String)
    (request : Request) : List String :=
  sessionArguments credentials host ++ tool.rawArguments bridged request

/-- Runs the tool for one request to a host. -/
def exec (tool : Tool) (credentials : Credentials) (bridged : Bool) (host : String)
    (request : Request) : Dialogue processes (Except IpmiError Response) := do
  Dialogue.report (.remoteRequest host request.data)
  (tool.run (arguments tool credentials bridged host request)).outcome

/-- Runs the tool for every request, whatever becomes of the others; the first failure counts. -/
def batch (tool : Tool) (credentials : Credentials) (host : String) (requests : List Request) :
    Dialogue processes (Except IpmiError (List Response)) := do
  let answers ← requests.mapM (exec tool credentials true host)
  Dialogue.report (.batchCompleted host)
  return answers.mapM id

/-- Whether an answer shows that a candidate is supported; failures are reported. -/
def isSupported (host : String) (candidate : Description) :
    Except IpmiError Response → Dialogue processes Bool
  | .ok response => return showsSupport response.data
  | .error error => do
    Dialogue.report (.candidateFailed candidate.root host error)
    return false

/-- The candidates whose answers show that they are supported. -/
def keep (host : String) :
    List (Description × Except IpmiError Response) → Dialogue processes (List Description)
  | [] => return []
  | (candidate, answer) :: rest => do
    let supported ← isSupported host candidate answer
    let others ← keep host rest
    return if supported then candidate :: others else others

/-- Probes every host in turn; only requests to the node manager need bridging to get there. -/
def capabilities (tool : Tool) (credentials : Credentials) (protocol : Protocol)
    (candidates : List Description) : List String → Capabilities → Dialogue processes Capabilities
  | [], found => do
    Dialogue.report .probingCompleted
    return found
  | host :: rest, found => do
    let bridged := protocol == .nodeManager
    let answers ← candidates.mapM fun candidate =>
      exec tool credentials bridged host candidate.request
    let kept ← keep host (candidates.zip answers)
    let discovered ← inlet (exec tool credentials false) protocol host
    let all := kept ++ discovered
    Dialogue.report (.probed host all.length candidates.length)
    capabilities tool credentials protocol candidates rest (found.insert host all)

end RemoteTool

/-- The transport that runs the tool against hosts on the network. -/
def remoteTool (tool : Tool) (credentials : Credentials) (protocol : Protocol) :
    Transport processes where
  exec := RemoteTool.exec tool credentials false
  batch := RemoteTool.batch tool credentials
  capabilities candidates hosts :=
    RemoteTool.capabilities tool credentials protocol candidates hosts ∅
  -- One tool runs at a time, and whoever waits for it longest is next.
  pacing := .inTurns

end BmcTelemetry.Transport
