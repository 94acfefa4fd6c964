import BmcTelemetry.App.Arguments
import BmcTelemetry.App.Filter
import BmcTelemetry.App.Report
import BmcTelemetry.Config.Load

/-! Runs of the program: what is settled before the work begins, how long it waits, and the work. -/

namespace BmcTelemetry

/-- An interval as a clock takes it. -/
inductive Period where
  /-- The clock can wait for it. -/
  | usable
  /-- It rounds to no time at all. -/
  | zero
  /-- The clock cannot count so far. -/
  | tooLong
deriving DecidableEq, Repr

namespace Period

/-- The first number of seconds that the clock cannot count. -/
def limit : Float := 18446744073709551616.0

/-- Half a nanosecond, from which on an interval rounds to some time. -/
def least : Float := 5e-10

/-- The period of an interval in seconds. -/
def ofInterval (interval : Float) : Period :=
  if limit ≤ interval then .tooLong
  else if interval < least then .zero
  else .usable

end Period

namespace App

/-- The name of the program. -/
def programName : String := "dcm-collector"

/-- The version of the program. -/
def version : String := "0.1.0"

/-- The lines that say how the program is used. -/
def usage : List String :=
  ["IPMI platform telemetry collector (power, thermal, health, inventory)",
   "",
   "Usage: dcm-collector [OPTIONS]",
   "",
   "Options:",
   "  -c, --config <CONFIG>        Path to config.json (default: next to the executable)",
   "      --once                   Run a single collection cycle and exit",
   "      --metrics                Print the metric catalog and exit",
   "      --log-level <LOG_LEVEL>  Set log level (TRACE, DEBUG, INFO, WARN, ERROR, CRITICAL)",
   "  -h, --help                   Print help",
   "  -V, --version                Print version"]

/-- The name of the configuration file that is looked for when no path is given. -/
def configFileName : String := "config.json"

/-- Where the configuration is: at the path that is asked for, or else beside the program. -/
def configPath (asked : Option String) (directory : String) : String :=
  asked.getD (directory ++ "/" ++ configFileName)

/-- The variable that holds the log level. -/
def levelVariable : String := "LOG_LEVEL"

/-- The variables of the environment that a run looks at. -/
def variableNames : List String := levelVariable :: Overrides.variableNames

/-- The complaint about a command line that cannot be followed. -/
def ArgumentStop.complaint : ArgumentStop → String
  | .unknown argument => "error: unexpected argument '" ++ argument ++ "' found"
  | .valueMissing option =>
    "error: a value is required for '" ++ option.name ++ "' but none was supplied"
  | .repeated name => "error: the argument '" ++ name ++ "' cannot be used multiple times"
  | .valueUnwanted flag => "error: unexpected value for '" ++ flag.name ++ "' found"
  | .helpAsked | .versionAsked => ""

/-- What a run of the program starts from. -/
structure Setting where
  /-- The arguments, the program's name left out. -/
  arguments : List String
  /-- The variables of the environment. -/
  environment : String → Option String
  /-- The directory that the program is in. -/
  directory : String
  /-- What is found at a path. -/
  file : String → ConfigFile
  /-- The name of the machine. -/
  machineName : String
  /-- The number of the task that collects again and again. -/
  taskNumber : Nat

/-- What a run leaves behind. -/
structure Transcript where
  /-- The exit code. -/
  exitCode : Nat := 0
  /-- The lines on the standard output. -/
  output : List String := []
  /-- The complaint about a log level that is none. -/
  complaint : Option String := none
  /-- The events that are shown, in order. -/
  shown : List Event := []
  /-- The reason why the run failed, for the error output. -/
  failure : Option String := none
deriving Repr

/-- The events that a filter lets through. -/
def visible (filter : Level) (events : List Event) : List Event :=
  events.filter fun event => filter.passes event.level

/-- What a run is there for. -/
inductive Task where
  /-- To list every metric. -/
  | listMetrics
  /-- To collect once. -/
  | collectOnce
  /-- To collect again and again. -/
  | collectForever
deriving DecidableEq, Repr

/-- The task that a command line sets; listing comes before collecting. -/
def Task.of (arguments : Arguments) : Task :=
  if arguments.metrics then .listMetrics
  else if arguments.once then .collectOnce
  else .collectForever

/-- A run that is ready to work. -/
structure Session where
  /-- The task. -/
  task : Task
  /-- The configuration. -/
  config : Config
  /-- The level in force. -/
  filter : Level
  /-- The name of the machine. -/
  machineName : String
  /-- The number of the task that collects again and again. -/
  taskNumber : Nat

/-- Why a session ends in failure. -/
inductive WorkFailure where
  /-- The one collection that was asked for gave no report. -/
  | collectionFailed (error : IpmiError)
  /-- The clock cannot wait for the next collection. -/
  | periodTooLong
deriving DecidableEq, Repr

namespace WorkFailure

/-- The exit code of a failure. -/
def exitCode : WorkFailure → Nat
  | .collectionFailed _ => 1
  -- Nothing but a setting out of range ends the program at once.
  | .periodTooLong => 101

/-- The complaint about a failure. -/
def complaint : WorkFailure → String
  | .collectionFailed error => "Error: Collection failed: " ++ error.message
  | .periodTooLong => "cannot convert float seconds to a duration: value is too big"

end WorkFailure

namespace Session

/-- The collector of a session. -/
def collector (session : Session) : Collector machine :=
  session.config.connect session.machineName

/-- Learns everything about the hosts, after saying what is about to be done. -/
def start (session : Session) : Dialogue machine Snapshot := do
  let settings := session.config.ipmi
  Dialogue.report (.starting version settings.mode.label settings.protocol.name)
  session.collector.survey

/-- Collects from every host and reports on what is known about it. -/
def report (session : Session) (timestamp : String) (snapshot : Snapshot) :
    Dialogue machine (Except IpmiError (List String)) := do
  match ← session.collector.collect snapshot with
  | .ok collected => return .ok (Report.lines timestamp snapshot collected)
  | .error error => return .error error

/-- The one collection that a user asks for. -/
def collectOnce (session : Session) (timestamp : String) (snapshot : Snapshot) :
    Dialogue machine (Except WorkFailure (List String)) := do
  match ← session.report timestamp snapshot with
  | .ok lines => return .ok lines
  | .error error => return .error (.collectionFailed error)

/-- The time between two collections. -/
def period (session : Session) : Period :=
  .ofInterval session.config.collector.updateInterval

/-- The end of a session that has no time between its collections. -/
def abandon (session : Session) : Dialogue machine Unit := do
  Dialogue.report (.collectionEnded session.taskNumber)
  Dialogue.report .shutDown

/-- What is known before the next collection; health is read anew where it is collected. -/
def refresh (session : Session) (snapshot : Snapshot) : Dialogue machine Snapshot :=
  if session.config.collector.collectHealth then session.collector.refreshHealth snapshot
  else return snapshot

/-- The work of a session up to its first output. -/
def work (session : Session) (timestamp : String) :
    Dialogue machine (Except WorkFailure (List String)) := do
  let snapshot ← session.start
  match session.task with
  | .listMetrics => return .ok snapshot.catalogLines
  | .collectOnce => session.collectOnce timestamp snapshot
  | .collectForever =>
    match session.period with
    | .tooLong => return .error .periodTooLong
    | .zero =>
      session.abandon
      return .ok []
    | .usable => session.collectOnce timestamp snapshot

end Session

/-- The ending of a run that a command line stops at once. -/
def stopped : ArgumentStop → Transcript
  | .helpAsked => { output := usage }
  | .versionAsked => { output := [programName ++ " " ++ version] }
  | stop => { exitCode := 2, failure := some stop.complaint }

/-- Reads the configuration and settles what is shown. -/
def configure (setting : Setting) (arguments : Arguments) : Transcript × Option Session :=
  let filter := Filter.choose arguments.logLevel (setting.environment levelVariable)
  let path := configPath arguments.config setting.directory
  let file := setting.file path
  let complaint := filter.complaint?
  let read := visible filter.initial (Config.readingEvents path file)
  match Config.load file (.ofEnvironment setting.environment) with
  | .error error =>
    ({ exitCode := 1, complaint, shown := read,
       failure := some ("Error: Invalid configuration in " ++ Text.quoted path ++ ": "
         ++ error.message) },
     none)
  | .ok config =>
    ({ complaint, shown := read ++ visible filter.initial (filter.remarks config.logLevel) },
     some { task := .of arguments, config, filter := filter.settled config.logLevel,
            machineName := setting.machineName, taskNumber := setting.taskNumber })

/-- Everything up to the work: what has been printed, and the session unless the run is over. -/
def prepare (setting : Setting) : Transcript × Option Session :=
  match Arguments.parse setting.arguments with
  | .error stop => (stopped stop, none)
  | .ok arguments => configure setting arguments

/-- A transcript with the work of a session behind it. -/
def Transcript.close (transcript : Transcript) (filter : Level)
    (result : Except WorkFailure (List String)) (events : List Event) : Transcript :=
  let shown := transcript.shown ++ visible filter events
  match result with
  | .ok output => { transcript with shown, output := transcript.output ++ output }
  | .error failure =>
    { transcript with shown, exitCode := failure.exitCode, failure := some failure.complaint }

/-- Everything that a run leaves behind, up to its first output if it goes on forever. -/
def transcribe {σ : Type} (handler : Dialogue.Handler machine σ) (setting : Setting)
    (timestamp : String) (memory : σ) : Transcript × σ :=
  match prepare setting with
  | (transcript, none) => (transcript, memory)
  | (transcript, some session) =>
    let (result, events, memory) := (session.work timestamp).run handler memory
    (transcript.close session.filter result events, memory)

end App

end BmcTelemetry
