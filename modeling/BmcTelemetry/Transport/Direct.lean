import BmcTelemetry.Transport.Basic

/-! The transport that hands requests over as they are. -/

namespace BmcTelemetry

namespace Transport.Direct

/-- Whether an answer shows that a request is supported: it succeeds and the transport vouches. -/
def supports : Except IpmiError Response → Bool
  | .ok response => response.valid && response.completionCode == some 0
  | .error _ => false

/-- The candidates that a host answers, tried in order. -/
def supported (host : String) : List Description → Dialogue network (List Description)
  | [] => return []
  | candidate :: rest => do
    let answer ← hand host candidate.request
    let others ← supported host rest
    return if supports answer then candidate :: others else others

/-- Probes every host in turn. -/
def capabilities (protocol : Protocol) (candidates : List Description) :
    List String → Capabilities → Dialogue network Capabilities
  | [], found => return found
  | host :: rest, found => do
    let kept ← supported host candidates
    let discovered ← inlet hand protocol host
    capabilities protocol candidates rest (found.insert host (kept ++ discovered))

end Transport.Direct

/-- The transport that hands requests over as they are. -/
def Transport.direct (protocol : Protocol) : Transport network where
  exec := hand
  batch host requests := inOrder (hand host) requests
  capabilities candidates hosts := Direct.capabilities protocol candidates hosts ∅
  pacing := .oneByOne

end BmcTelemetry
