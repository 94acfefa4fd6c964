import BmcTelemetry.Tool.Run
import BmcTelemetry.Transport.Basic

/-! The transport that runs the command-line tool on the machine itself. -/

namespace BmcTelemetry.Transport

namespace LocalTool

/-- Runs the tool for one request. -/
def exec (tool : Tool) (bridged : Bool) (request : Request) :
    Dialogue processes (Except IpmiError Response) := do
  Dialogue.report (.localRequest request.data)
  (tool.run (tool.rawArguments bridged request)).outcome

/-- The candidates that the machine answers, tried in order. -/
def supported (tool : Tool) (host : String) :
    List Description → Dialogue processes (List Description)
  | [] => return []
  | candidate :: rest => do
    match ← exec tool true candidate.request with
    | .error error =>
      Dialogue.report (.candidateFailed candidate.root host error)
      supported tool host rest
    | .ok response =>
      if showsSupport response.data then
        return candidate :: (← supported tool host rest)
      else
        Dialogue.report (.candidateUnsupported candidate.root host)
        supported tool host rest

/-- Probes the machine, which goes by one host name. -/
def capabilities (tool : Tool) (protocol : Protocol) (machine : String)
    (candidates : List Description) (hosts : List String) : Dialogue processes Capabilities := do
  let host := localHost machine hosts
  let kept ← supported tool host candidates
  let discovered ← inlet (fun _ => exec tool false) protocol host
  let found := kept ++ discovered
  Dialogue.report (.probed host found.length candidates.length)
  return (∅ : Capabilities).insert host found

end LocalTool

/-- The transport that runs the tool on a machine of the given name. -/
def localTool (tool : Tool) (protocol : Protocol) (machine : String) : Transport processes where
  exec _ := LocalTool.exec tool false
  batch _ := inOrder (LocalTool.exec tool true)
  capabilities := LocalTool.capabilities tool protocol machine
  pacing := .oneByOne

end BmcTelemetry.Transport
