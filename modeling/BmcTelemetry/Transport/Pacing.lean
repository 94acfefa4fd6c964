import BmcTelemetry.Controller
import BmcTelemetry.Dialogue.Turns

/-! Pacing: in what order the requests go out that several hosts wait for. -/

namespace BmcTelemetry

/-- A request on its way to a host. -/
structure Addressed where
  /-- The host. -/
  host : String
  /-- The request. -/
  request : Request
deriving DecidableEq, Repr

/-- Controllers that are told apart by the names of their hosts. -/
def network : Interface where
  Query := Addressed
  Reply := fun _ => Except IpmiError Response

namespace Transport

variable {J : Interface} {α : Type}

/-- Hands one request over to a host. -/
def hand (host : String) (request : Request) : Dialogue network (Except IpmiError Response) :=
  Dialogue.query (I := network) { host, request }

/-- A conversation with the controller of a host. -/
def addressed (host : String) (dialogue : Dialogue controller α) : Dialogue network α :=
  dialogue.translate (hand host)

/-- How conversations with several hosts share a transport. -/
inductive Pacing where
  /-- A conversation ends before the next one starts. -/
  | oneByOne
  /-- The hosts get one request answered each in turn. -/
  | inTurns
deriving DecidableEq, Repr

/-- Holds conversations, each under the name of its host. -/
def Pacing.hold : Pacing → List (String × Dialogue J α) → Dialogue J (Std.TreeMap String α)
  | .oneByOne, conversations =>
    conversations.foldlM (fun found (host, dialogue) => return found.insert host (← dialogue)) ∅
  | .inTurns, conversations => Dialogue.takeTurns conversations [] ∅

end Transport

end BmcTelemetry
