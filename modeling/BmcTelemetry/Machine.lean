import BmcTelemetry.Driver.Basic
import BmcTelemetry.Tool.Run

/-! The machine that hosts a run: it starts programs and has a kernel driver. -/

namespace BmcTelemetry

/-- What a machine may be asked for. -/
inductive MachineCall where
  /-- Runs a program to its end. -/
  | start (invocation : Invocation)
  /-- Calls into the kernel driver. -/
  | driver (call : Driver.Call)
deriving DecidableEq, Repr

/-- The result of a call. -/
def MachineCall.Result : MachineCall → Type
  | .start _ => Completion
  | .driver call => call.Result

/-- The machine as seen by a program. -/
def machine : Interface where
  Query := MachineCall
  Reply := MachineCall.Result

namespace Machine

variable {σ : Type}

/-- Asks the machine to run a program. -/
def start (invocation : Invocation) : Dialogue machine Completion :=
  Dialogue.query (I := machine) (.start invocation)

/-- Asks the machine for a call into its driver. -/
def callDriver (call : Driver.Call) : Dialogue machine call.Result :=
  Dialogue.query (I := machine) (.driver call)

/-- A machine put together from its two halves. -/
def ofHalves (programs : Dialogue.Handler processes σ) (driver : Dialogue.Handler Driver.kernel σ) :
    Dialogue.Handler machine σ
  | .start invocation, memory => programs invocation memory
  | .driver call, memory => driver call memory

end Machine

end BmcTelemetry
