import BmcTelemetry.Dialogue
import BmcTelemetry.Text.Utf8
import BmcTelemetry.Tool.Arguments
import BmcTelemetry.Tool.Output

/-! Running the command-line tool, one request a run. -/

namespace BmcTelemetry

/-- A program with its arguments. -/
structure Invocation where
  /-- The program. -/
  program : String
  /-- The arguments. -/
  arguments : List String
deriving DecidableEq, Repr

/-- Whether every text of an invocation reaches the program as it is. -/
def Invocation.isPassable (invocation : Invocation) : Bool :=
  (invocation.program :: invocation.arguments).all fun text => !Text.holdsZero text

/-- What becomes of an invocation. -/
inductive Completion where
  /-- The program could not be started. -/
  | notStarted (error : OsError)
  /-- The program ended, in success or failure, after printing output and complaints. -/
  | ended (success : Bool) (output complaints : Bytes)
deriving DecidableEq, Repr

/-- A machine that runs programs. -/
def processes : Interface where
  Query := Invocation
  Reply := fun _ => Completion

namespace Tool

/-- The answer in what became of a run of the tool; failure of the tool is an empty answer. -/
def answer (tool : Tool) : Completion → Attempt processes Bytes
  | .notStarted error =>
    if error = .notFound then do
      -- A machine without the tool is one without answers.
      Attempt.report (.toolMissing tool.program)
      return []
    else Attempt.fail (.io error)
  | .ended false _ complaints => do
    Attempt.report
      (.toolFailed tool.program (String.ofList (Text.trim (Utf8.decodeLossy complaints))))
    return []
  | .ended true output _ => return parseOutput (Utf8.decodeLossy output)

/-- Starts the tool and waits for its end; what cannot be passed on is never started. -/
def start (tool : Tool) (arguments : List String) : Dialogue processes Completion :=
  let invocation : Invocation := { program := tool.program, arguments }
  if invocation.isPassable then Dialogue.query (I := processes) invocation
  else return .notStarted .zeroInArgument

/-- Runs the tool and reads the answer that it prints. -/
def run (tool : Tool) (arguments : List String) : Attempt processes Response := do
  Attempt.report (.toolStarted tool.program (masked arguments))
  let completion ← ExceptT.lift (tool.start arguments)
  -- The tool has no way of telling an invalid answer apart.
  return .answered (← tool.answer completion)

end Tool

end BmcTelemetry
