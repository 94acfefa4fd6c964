import BmcTelemetry.OsError.Texts

/-! Errors met on the way to the operating system or reported by it. -/

namespace BmcTelemetry

/-- Whether the system would take a text for a shorter one, as a zero character ends it there. -/
def Text.holdsZero (text : String) : Bool :=
  text.toList.contains '\x00'

/-- An error between a program and the operating system. -/
inductive OsError where
  /-- An error that the system reports under a number. -/
  | reported (number : Int)
  /-- A text for a new program holds a zero character, which would end it early. -/
  | zeroInArgument
  /-- A path holds a zero character, which would end it early. -/
  | zeroInPath
deriving DecidableEq, Repr

namespace OsError

/-- The missing-file error. -/
def notFound : OsError := .reported 2

/-- The error of a transfer that the hardware gave up. -/
def inputOutput : OsError := .reported 5

/-- The error of a file that may not be used in the way that was asked for. -/
def denied : OsError := .reported 13

/-- The error of a path that leads through a file. -/
def notDirectory : OsError := .reported 20

/-- The error of a directory where a file is needed. -/
def isDirectory : OsError := .reported 21

/-- The error of a name that no file system takes. -/
def nameTooLong : OsError := .reported 36

/-- The error of a call that a device does not understand. -/
def noSuchCall : OsError := .reported 25

/-- The number of an error; what never reached the system has none and counts as zero. -/
def number : OsError → Int
  | .reported number => number
  | .zeroInArgument | .zeroInPath => 0

/-- The text of an error, followed by its number if the system gave it one. -/
def message : OsError → String
  | .reported number =>
    let text := match texts.lookup number with
      | some text => text
      -- A number outside the table is named by itself.
      | none => "Unknown error " ++ toString number
    text ++ " (os error " ++ toString number ++ ")"
  | .zeroInArgument => "nul byte found in provided data"
  | .zeroInPath => "file name contained an unexpected NUL byte"

end OsError

end BmcTelemetry
