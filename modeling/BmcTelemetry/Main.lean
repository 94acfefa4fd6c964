import BmcTelemetry.App.Run
import Std.Time.Format

/-! The program itself: it looks at its surroundings, works, and prints what there is to print. -/

namespace BmcTelemetry.App

/-- The time of the day in a pattern's form. -/
def timeOfDay (pattern : String) : IO String :=
  return (← Std.Time.DateTime.now).format pattern

/-- The name of this machine. -/
def machineName : IO String := do
  match ← (IO.FS.readFile "/proc/sys/kernel/hostname").toBaseIO with
  | .ok name => return name.trimAscii.toString
  | .error _ => return "localhost"

/-- The directory that the program is in. -/
def programDirectory : IO String :=
  return ((← IO.appPath).parent.map (·.toString)).getD "."

/-- The error that stopped a look at a file. -/
def osError : IO.Error → OsError
  | .noFileOrDirectory .. => .notFound
  | .permissionDenied .. => .denied
  -- A directory cannot be used as a file, and a file cannot be used as a directory.
  | .inappropriateType _ code _ => if code = 21 then .isDirectory else .notDirectory
  | .invalidArgument .. => .nameTooLong
  | _ => .inputOutput

/-- What is found at a path. -/
def fileAt (path : String) : IO ConfigFile := do
  match ← (IO.FS.readBinFile path).toBaseIO with
  | .ok content => return .holding content.toList
  | .error failure =>
    -- These three errors say that the path leads nowhere.
    if osError failure ∈ [.notFound, .notDirectory, .nameTooLong] then return .missing
    else return .sealed

/-- The surroundings of a run with the given arguments. -/
def surroundings (arguments : List String) : IO Setting := do
  let directory ← programDirectory
  let values ← variableNames.mapM fun name => return (name, ← IO.getEnv name)
  let file ← match Arguments.parse arguments with
    | .ok asked => fileAt (configPath asked.config directory)
    -- A command line that cannot be followed leads to no file.
    | .error _ => pure .missing
  return { arguments, environment := fun name => (values.lookup name).join, directory,
           file := fun _ => file, machineName := ← machineName, taskNumber := 1 }

/--
Answers a call on a machine that lends neither its tools nor its driver to this program.

Nothing can be started, and the device is at best a file that takes no driver calls.
-/
def answer : (call : MachineCall) → IO call.Result
  | .start _ => return .notStarted .notFound
  | .driver (.openDevice path) => do
    match ← (IO.FS.withFile path .readWrite fun _ => return ()).toBaseIO with
    | .ok () => return .ok ()
    | .error failure => return .error (osError failure)
  | .driver (.send _ _ _) => return .error .noSuchCall
  | .driver .wait => return .failed .noSuchCall
  | .driver .receive => return .error .noSuchCall

/-- Prints an event to the error output, if the filter lets it through. -/
def printEvent (filter : Level) (event : Event) : IO Unit := do
  if filter.passes event.level then
    IO.eprintln ((← timeOfDay "yyyy-MM-dd HH:mm:ss.SSS") ++ " " ++ event.line)

/-- Runs a dialogue with this machine, and prints its events as they come. -/
def perform {α : Type} (filter : Level) : Dialogue machine α → IO α
  | .done value => return value
  | .ask call next => do
    let reply ← answer call
    perform filter (next reply)
  | .note event next => do
    printEvent filter event
    perform filter next

/-- The time that a report carries. -/
def timestamp : IO String := timeOfDay "yyyy-MM-dd'T'HH:mm:ss.SSSSSSSSSxxx"

/-- Collects once and prints the report; gives the reason if there is none. -/
def cycle (session : Session) (snapshot : Snapshot) : IO (Option IpmiError) := do
  match ← perform session.filter (session.report (← timestamp) snapshot) with
  | .ok lines =>
    lines.forM (IO.println ·)
    return none
  | .error error => return some error

/-- Collects again and again, one interval apart. -/
partial def repeatForever (session : Session) (snapshot : Snapshot) : IO Unit := do
  let due := (← IO.monoMsNow).toFloat + session.config.collector.updateInterval * 1000
  if let some error ← cycle session snapshot then
    printEvent session.filter (.collectionFailed error)
  let rest := due - (← IO.monoMsNow).toFloat
  if 0 < rest then IO.sleep rest.toUInt32
  repeatForever session (← perform session.filter (session.refresh snapshot))

/-- Complains about a failure, and gives its exit code. -/
def fail (failure : WorkFailure) : IO UInt32 := do
  IO.eprintln failure.complaint
  return failure.exitCode.toUInt32

/-- Does the work of a session to its end. -/
def pursue (session : Session) : IO UInt32 := do
  let snapshot ← perform session.filter session.start
  match session.task with
  | .listMetrics =>
    snapshot.catalogLines.forM (IO.println ·)
    return 0
  | .collectOnce =>
    match ← cycle session snapshot with
    | none => return 0
    | some error => fail (.collectionFailed error)
  | .collectForever =>
    match session.period with
    | .tooLong => fail .periodTooLong
    | .zero =>
      perform session.filter session.abandon
      return 0
    | .usable =>
      repeatForever session snapshot
      return 0

/-- Runs the program with its arguments. -/
def run (arguments : List String) : IO UInt32 := do
  let (transcript, session) := prepare (← surroundings arguments)
  transcript.complaint.forM (IO.eprintln ·)
  -- What was noticed before the filter was settled has been sifted already.
  transcript.shown.forM (printEvent .trace)
  transcript.output.forM (IO.println ·)
  transcript.failure.forM (IO.eprintln ·)
  match session with
  | some session => pursue session
  | none => return transcript.exitCode.toUInt32

end BmcTelemetry.App

/-- The program, which ends with the exit code of its run. -/
def main (arguments : List String) : IO UInt32 :=
  BmcTelemetry.App.run arguments
