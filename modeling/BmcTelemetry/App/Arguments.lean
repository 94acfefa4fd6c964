/-! The command line: options that take a value, and flags that take none. -/

namespace BmcTelemetry.App

/-- An option that takes a value. -/
inductive ValueOption where
  /-- The path of the configuration file. -/
  | config
  /-- The level from which on events are shown. -/
  | logLevel
deriving DecidableEq, Repr

/-- A flag. -/
inductive Flag where
  /-- Collect once and end. -/
  | once
  /-- List every metric and end. -/
  | metrics
  /-- Say how the program is used. -/
  | help
  /-- Say which version this is. -/
  | version
deriving DecidableEq, Repr

/-- How an option is spelled. -/
def ValueOption.name : ValueOption → String
  | .config => "--config"
  | .logLevel => "--log-level"

/-- How a flag is spelled. -/
def Flag.name : Flag → String
  | .once => "--once"
  | .metrics => "--metrics"
  | .help => "--help"
  | .version => "--version"

/-- What the command line asks for. -/
structure Arguments where
  /-- The path of the configuration file. -/
  config : Option String := none
  /-- The level from which on events are shown. -/
  logLevel : Option String := none
  /-- Whether to collect once and end. -/
  once : Bool := false
  /-- Whether to list every metric and end. -/
  metrics : Bool := false
deriving DecidableEq, Repr

/-- Why a command line starts no collection. -/
inductive ArgumentStop where
  /-- An argument means nothing to this program. -/
  | unknown (argument : String)
  /-- An option stands without its value. -/
  | valueMissing (option : ValueOption)
  /-- An argument that may be given once is given again. -/
  | repeated (name : String)
  /-- A value is given to a flag. -/
  | valueUnwanted (flag : Flag)
  /-- The user asks how the program is used. -/
  | helpAsked
  /-- The user asks for the version. -/
  | versionAsked
deriving DecidableEq, Repr

/-- What an argument looks like by itself. -/
inductive Token where
  /-- Two dashes, after which nothing is an option any more. -/
  | separator
  /-- An option, with the value that is attached to it, if any. -/
  | option (option : ValueOption) (attached : Option String)
  /-- A flag. -/
  | flag (flag : Flag)
  /-- A flag to which a value is attached. -/
  | flagWithValue (flag : Flag)
  /-- Something with a dash in front that is neither option nor flag. -/
  | stranger
  /-- Anything without a dash in front, and a dash by itself. -/
  | plain
deriving DecidableEq, Repr

namespace Token

/-- The token of a name after two dashes. -/
def ofName (name : String) (attached : Option String) : Token :=
  match [ValueOption.config, .logLevel].find? (·.name == "--" ++ name) with
  | some found => .option found attached
  | none =>
    match [Flag.once, .metrics, .help, .version].find? (·.name == "--" ++ name) with
    | none => .stranger
    | some found => if attached.isSome then .flagWithValue found else .flag found

/-- The token of the text after two dashes; what follows an equals sign is a value. -/
def ofLong (text : List Char) : Token :=
  let attached := match text.dropWhile (· != '=') with
    | _ :: value => some (String.ofList value)
    | [] => none
  ofName (String.ofList (text.takeWhile (· != '='))) attached

/-- The token of the text after one dash; all that follows an option's letter is its value. -/
def ofShort (letter : Char) (rest : List Char) : Token :=
  if letter = 'c' then
    .option .config (match rest with
      | [] => none
      | '=' :: value => some (String.ofList value)
      | value => some (String.ofList value))
  -- These two end the run, so that nothing behind their letter matters.
  else if letter = 'h' then .flag .help
  else if letter = 'V' then .flag .version
  else .stranger

/-- The token of an argument. -/
def ofArgument (argument : String) : Token :=
  match argument.toList with
  | ['-', '-'] => .separator
  | '-' :: '-' :: text => ofLong text
  | '-' :: letter :: rest => ofShort letter rest
  | _ => .plain

end Token

namespace Arguments

/-- The same arguments with the value of an option. -/
def assign (arguments : Arguments) (option : ValueOption) (value : String) :
    Except ArgumentStop Arguments :=
  match option with
  | .config =>
    if arguments.config.isSome then .error (.repeated option.name)
    else .ok { arguments with config := some value }
  | .logLevel =>
    if arguments.logLevel.isSome then .error (.repeated option.name)
    else .ok { arguments with logLevel := some value }

/-- The same arguments with a flag. -/
def raise (arguments : Arguments) (flag : Flag) : Except ArgumentStop Arguments :=
  match flag with
  | .once =>
    if arguments.once then .error (.repeated flag.name)
    else .ok { arguments with once := true }
  | .metrics =>
    if arguments.metrics then .error (.repeated flag.name)
    else .ok { arguments with metrics := true }
  | .help => .error .helpAsked
  | .version => .error .versionAsked

end Arguments

/-- How far a command line has been read. -/
structure Reading where
  /-- What has been asked for so far. -/
  arguments : Arguments := {}
  /-- An option that waits for its value, or for the next argument to be checked with its value. -/
  pending : Option (ValueOption × Option String) := none
deriving DecidableEq, Repr

namespace Reading

/-- The arguments so far, with a pending option put in its place. -/
def settle (reading : Reading) : Except ArgumentStop Arguments :=
  match reading.pending with
  | none => .ok reading.arguments
  | some (option, none) => .error (.valueMissing option)
  | some (option, some value) => reading.arguments.assign option value

/-- Reads one more argument, which is not the separator. -/
def step (reading : Reading) (argument : String) : Except ArgumentStop Reading :=
  match Token.ofArgument argument with
  | .option option none =>
    return { arguments := ← reading.settle, pending := some (option, none) }
  | .option option (some value) =>
    return { arguments := ← (← reading.settle).assign option value }
  | .flag flag => return { arguments := ← (← reading.settle).raise flag }
  -- What cannot be right in any place is refused before a pending option is looked at.
  | .flagWithValue flag => .error (.valueUnwanted flag)
  | .stranger | .separator => .error (.unknown argument)
  | .plain =>
    match reading.pending with
    | some (option, none) => .ok { reading with pending := some (option, some argument) }
    | _ => .error (.unknown argument)

/-- Reads arguments to their end. -/
def finish : Reading → List String → Except ArgumentStop Arguments
  | reading, [] => reading.settle
  | reading, argument :: rest =>
    match Token.ofArgument argument, rest with
    | .separator, [] => reading.settle
    -- Nothing that this program knows stands behind the separator.
    | .separator, extra :: _ => .error (.unknown extra)
    | _, _ => do (← reading.step argument).finish rest

end Reading

/-- Reads a command line, the program's name left out. -/
def Arguments.parse (arguments : List String) : Except ArgumentStop Arguments :=
  ({} : Reading).finish arguments

end BmcTelemetry.App
