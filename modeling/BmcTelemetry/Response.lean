import BmcTelemetry.Error

/-! Answers of a management controller: a completion code and a payload. -/

namespace BmcTelemetry

/-- One raw answer; its first byte is the completion code. -/
structure Response where
  /-- Completion code and payload, in this order. -/
  data : Bytes
  /-- Whether the transport vouches for the answer. -/
  valid : Bool
deriving DecidableEq, Repr

namespace Response

/-- An answer the transport vouches for. -/
def answered (data : Bytes) : Response :=
  { data, valid := true }

/-- The stand-in for an answer that never came. -/
def missing : Response :=
  { data := [], valid := false }

/-- The completion code, absent from an empty answer. -/
def completionCode (response : Response) : Option UInt8 :=
  response.data.head?

/-- The bytes after the completion code. -/
def payload (response : Response) : Bytes :=
  response.data.drop 1

/-- The payload of an answer that must succeed and carry at least so many payload bytes. -/
def requirePayload (response : Response) (least : Nat) (step : Step) : Except IpmiError Bytes :=
  match response.completionCode with
  | none => .error (.protocol (.emptyResponse step))
  | some 0 =>
    -- A conversation cannot go on from a field that the answer does not reach.
    if response.payload.length < least then
      .error (.protocol (.shortPayload step least response.payload.length))
    else .ok response.payload
  | some code => .error (.completionCode code)

/-- A one-line rendering of all fields. -/
def describe (response : Response) : String :=
  "IpmiResponse \x7b data: \"" ++ Hex.spaced response.data ++ "\", is_valid: "
    ++ toString response.valid ++ " \x7d"

end Response

end BmcTelemetry
