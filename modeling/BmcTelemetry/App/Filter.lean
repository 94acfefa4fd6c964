import BmcTelemetry.Event

/-! Filters: which events are shown, before and after the configuration is known. -/

namespace BmcTelemetry.App

/-- What decides which events are shown. -/
structure Filter where
  /-- The level that the user asks for outside the configuration, if any. -/
  asked : Option String
deriving DecidableEq, Repr

namespace Filter

/-- The filter of a run; the command line comes before the environment. -/
def choose (argument environment : Option String) : Filter :=
  ⟨argument <|> environment⟩

/-- The level in force until the configuration is known. -/
def initial (filter : Filter) : Level :=
  (filter.asked.bind Level.ofName?).getD .info

/-- The level in force once the configuration is known. -/
def settled (filter : Filter) (configured : String) : Level :=
  -- The configuration has a say only where the user asked for nothing.
  if filter.asked.isSome then filter.initial
  else (Level.ofName? configured).getD filter.initial

/-- The complaint about a level that is none. -/
def complaint? (filter : Filter) : Option String :=
  match filter.asked with
  | none => none
  | some asked =>
    if (Level.ofName? asked).isSome then none
    else some ("Invalid log level '" ++ asked
      ++ "'. Using INFO. Valid levels: TRACE, DEBUG, INFO, WARN, ERROR, CRITICAL")

/-- What is worth reporting about the configured level. -/
def remarks (filter : Filter) (configured : String) : List Event :=
  if filter.asked.isNone && (Level.ofName? configured).isNone then [.levelIgnored configured]
  else []

end Filter

end BmcTelemetry.App
